/-!
# Byte offsets in text

Positions in a text are byte offsets of its UTF-8 form. `splitAt?` cuts a text at an offset and
refuses one that is out of bounds or inside a character. Main facts: the two pieces are the whole
text (`append_of_splitAt?`), and the offset is the length of the first piece
(`byteLength_of_splitAt?`).
-/

namespace Numbering.Text

/-- The length of the UTF-8 form of some characters. -/
def byteLength : List Char → Nat
  | [] => 0
  | char :: chars => char.utf8Size + byteLength chars

/-- Cut a text at a byte offset, which has to be at a character boundary. -/
def splitAt? (offset : Nat) (chars : List Char) : Option (List Char × List Char) :=
  if offset = 0 then some ([], chars)
  else
    match chars with
    | [] => none
    | char :: rest =>
        if char.utf8Size ≤ offset then
          (splitAt? (offset - char.utf8Size) rest).map fun (front, back) ↦ (char :: front, back)
        else none

/-- The length of a text is that of its pieces. -/
@[simp] theorem byteLength_append (front back : List Char) :
    byteLength (front ++ back) = byteLength front + byteLength back := by
  induction front with
  | nil => simp [byteLength]
  | cons char front ih => simp [byteLength, ih, Nat.add_assoc]

/-- The pieces of a split text are the whole of it. -/
theorem append_of_splitAt? {offset : Nat} {chars front back : List Char}
    (hsplit : splitAt? offset chars = some (front, back)) : front ++ back = chars := by
  induction chars generalizing offset front with
  | nil =>
      unfold splitAt? at hsplit
      split at hsplit
      · cases hsplit
        rfl
      · cases hsplit
  | cons char chars ih =>
      unfold splitAt? at hsplit
      split at hsplit
      · cases hsplit
        rfl
      · simp only at hsplit
        split at hsplit
        · obtain ⟨⟨inner, rest⟩, hinner, heq⟩ := Option.map_eq_some_iff.1 hsplit
          cases heq
          simp [ih hinner]
        · cases hsplit

/-- The offset of a split is the length of the first piece. -/
theorem byteLength_of_splitAt? {offset : Nat} {chars front back : List Char}
    (hsplit : splitAt? offset chars = some (front, back)) : byteLength front = offset := by
  induction chars generalizing offset front with
  | nil =>
      unfold splitAt? at hsplit
      split at hsplit
      · cases hsplit
        simp_all [byteLength]
      · cases hsplit
  | cons char chars ih =>
      unfold splitAt? at hsplit
      split at hsplit
      · cases hsplit
        simp_all [byteLength]
      · simp only at hsplit
        split at hsplit
        · obtain ⟨⟨inner, rest⟩, hinner, heq⟩ := Option.map_eq_some_iff.1 hsplit
          cases heq
          simp only [byteLength, ih hinner]
          omega
        · cases hsplit

/-- A text can be cut between any two pieces of it. -/
theorem splitAt?_append (front back : List Char) :
    splitAt? (byteLength front) (front ++ back) = some (front, back) := by
  induction front with
  | nil =>
      unfold splitAt?
      simp [byteLength]
  | cons char front ih =>
      have hpos : 0 < char.utf8Size := Char.utf8Size_pos char
      unfold splitAt?
      rw [if_neg (by simp only [byteLength]; omega)]
      simp [byteLength, ih]

end Numbering.Text
