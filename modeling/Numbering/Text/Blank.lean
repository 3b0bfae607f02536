/-!
# Blanks

The characters with the Unicode property White_Space, and cutting them off the ends of a text.
The byte order mark, the zero width space and the Mongolian vowel separator are not among them.
-/

namespace Numbering.Text

/-- The character has the Unicode property White_Space. -/
def isBlank (char : Char) : Bool :=
  let code := char.toNat
  (9 ≤ code && code ≤ 13) || code == 0x20 || code == 0x85 || code == 0xA0 || code == 0x1680 ||
    (0x2000 ≤ code && code ≤ 0x200A) || code == 0x2028 || code == 0x2029 || code == 0x202F ||
    code == 0x205F || code == 0x3000

/-- The text without the blanks in front. -/
def trimStart (chars : List Char) : List Char := chars.dropWhile isBlank

/-- The text without the blanks at its end. -/
def trimEnd (chars : List Char) : List Char := (chars.reverse.dropWhile isBlank).reverse

/-- The text without the blanks at either end. -/
def trim (chars : List Char) : List Char := trimEnd (trimStart chars)

/-- What is left after trimming does not start with a blank. -/
theorem head_trimStart {chars rest : List Char} {char : Char}
    (htrim : trimStart chars = char :: rest) : isBlank char = false := by
  induction chars with
  | nil => simp [trimStart] at htrim
  | cons first others ih =>
      by_cases hblank : isBlank first = true
      · exact ih (by simpa [trimStart, List.dropWhile_cons, hblank] using htrim)
      · simp only [trimStart, List.dropWhile_cons, hblank] at htrim
        cases htrim
        simpa using hblank

end Numbering.Text
