import Mathlib.Data.List.Basic
import Numbering.Json.Reading
import Numbering.Value.Json

/-!
# JSON strings read back

Every character of a JSON string is read back from what it is written as, a single character or an
escape (`Json.readChars_stringChar`), and so is the string (`Json.readString_string`).
-/

namespace Numbering.Json

open Digits

/-- Four hexadecimal digits are taken as the unit that they denote. -/
theorem takeUnit?_chars {first second third fourth : Nat} (hfirst : first < 16)
    (hsecond : second < 16) (hthird : third < 16) (hfourth : fourth < 16) (rest : List Char) :
    takeUnit? (chars [first, second, third, fourth] ++ rest) =
      some (toNat 16 [first, second, third, fourth], rest) := by
  have hvalue {digit : Nat} (hdigit : digit < 16) : value? 16 (character digit) = some digit :=
    value?_character hdigit (by decide)
  show ([character first, character second, character third, character fourth].mapM
    (value? 16)).map (toNat 16 ·, rest) = _
  simp [hvalue hfirst, hvalue hsecond, hvalue hthird, hvalue hfourth]

/-- A control character is read back from its code. -/
theorem readUnits_controlDigits {char : Char} (hchar : char.toNat < 32) (rest : List Char) :
    readUnits (controlDigits char.toNat ++ rest) = .ok (char, rest) := by
  have hcode : toNat 16 [0, 0, char.toNat / 16, char.toNat % 16] = char.toNat := by
    simp only [Digits.toNat, List.foldl_cons, List.foldl_nil]
    omega
  unfold readUnits controlDigits
  rw [takeUnit?_chars (by decide) (by decide) (by omega) (by omega), hcode]
  dsimp only
  rw [if_neg (by omega), if_neg (by omega), Char.ofNat_toNat]

/-- A character is written as itself, or as an escape that stands for it. -/
theorem stringChar_cases (char : Char) :
    (stringChar char = [char] ∧ char ≠ '"' ∧ char ≠ '\\' ∧ ¬ char.toNat < 32) ∨
      ∃ escape, stringChar char = '\\' :: escape ∧
        ∀ rest, readEscape (escape ++ rest) = .ok (char, rest) := by
  have hnamed {other : Char} (hcode : char.toNat = other.toNat) : char = other :=
    Char.toNat_inj.1 hcode
  fun_cases stringChar char with
  | case1 hquote => exact .inr ⟨['"'], rfl, fun rest ↦ by rw [hquote]; rfl⟩
  | case2 _ hbackslash => exact .inr ⟨['\\'], rfl, fun rest ↦ by rw [hbackslash]; rfl⟩
  | case3 _ _ hbackspace =>
      have hchar : char = '\x08' := hnamed hbackspace
      exact .inr ⟨['b'], rfl, fun rest ↦ by rw [hchar]; rfl⟩
  | case4 _ _ _ hfeed =>
      have hchar : char = '\x0c' := hnamed hfeed
      exact .inr ⟨['f'], rfl, fun rest ↦ by rw [hchar]; rfl⟩
  | case5 _ _ _ _ hbreak => exact .inr ⟨['n'], rfl, fun rest ↦ by rw [hbreak]; rfl⟩
  | case6 _ _ _ _ _ hreturn => exact .inr ⟨['r'], rfl, fun rest ↦ by rw [hreturn]; rfl⟩
  | case7 _ _ _ _ _ _ htab => exact .inr ⟨['t'], rfl, fun rest ↦ by rw [htab]; rfl⟩
  | case8 _ _ _ _ _ _ _ hcontrol =>
      exact .inr ⟨'u' :: controlDigits char.toNat, rfl, readUnits_controlDigits hcontrol⟩
  | case9 hquote hbackslash _ _ _ _ _ hcontrol => exact .inl ⟨rfl, hquote, hbackslash, hcontrol⟩

/-- A character is read back from what it is written as. -/
theorem readChars_stringChar (char : Char) (fuel : Nat) (rest : List Char) :
    readChars (fuel + 1) (stringChar char ++ rest) =
      (readChars fuel rest).map fun (chars, rest) ↦ (char :: chars, rest) := by
  obtain ⟨hchar, hquote, hbackslash, hcontrol⟩ | ⟨escape, hchar, hescape⟩ := stringChar_cases char
  · rw [hchar, List.singleton_append, readChars, if_neg hquote, if_neg hbackslash,
      if_neg hcontrol]
  · rw [hchar, List.cons_append, readChars, if_neg (by decide), if_pos rfl, hescape]

/-- The characters of a string are read back, up to its closing quote. -/
theorem readChars_flatMap {fuel : Nat} {chars : List Char} (hfuel : chars.length < fuel)
    (rest : List Char) :
    readChars fuel (chars.flatMap stringChar ++ '"' :: rest) = .ok (chars, rest) := by
  induction chars generalizing fuel with
  | nil =>
      obtain ⟨fuel, rfl⟩ := Nat.exists_eq_succ_of_ne_zero (Nat.ne_zero_of_lt hfuel)
      rfl
  | cons char chars ih =>
      obtain ⟨fuel, rfl⟩ := Nat.exists_eq_succ_of_ne_zero (Nat.ne_zero_of_lt hfuel)
      rw [List.flatMap_cons, List.append_assoc, readChars_stringChar,
        ih (Nat.lt_of_succ_lt_succ hfuel)]
      rfl

/-- Every character is written as at least one. -/
theorem length_le_flatMap_stringChar (chars : List Char) :
    chars.length ≤ (chars.flatMap stringChar).length := by
  induction chars with
  | nil => exact Nat.le_refl 0
  | cons char chars ih =>
      have hchar : 0 < (stringChar char).length := by
        obtain ⟨hchar, -⟩ | ⟨escape, hchar, -⟩ := stringChar_cases char
        · rw [hchar]
          exact Nat.one_pos
        · rw [hchar]
          exact Nat.succ_pos _
      rw [List.flatMap_cons, List.length_append, List.length_cons]
      omega

/-- A string is read back from what it is written as. -/
theorem readString_string (text : String) (rest : List Char) :
    readString (text.toList.flatMap stringChar ++ '"' :: rest) = .ok (text, rest) := by
  have hlength := length_le_flatMap_stringChar text.toList
  unfold readString
  rw [readChars_flatMap (by rw [List.length_append, List.length_cons]; omega)]
  exact congrArg (fun content ↦ Except.ok (content, rest)) String.ofList_toList

end Numbering.Json
