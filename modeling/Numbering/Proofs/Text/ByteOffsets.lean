import Numbering.Text.Utf8

/-!
# Pieces of a text between byte offsets

An offset is a boundary of a text when it lies between two of its characters or at an end. The
piece between two boundaries is cut out by `between?`, which gives nothing for any other offsets.
Main fact: the piece between the end of a front and the end of what follows it is just that
(`between?_append`).
-/

namespace Numbering.Text

/-- The empty text has no bytes. -/
@[simp] theorem byteLength_nil : byteLength [] = 0 := rfl

/-- The offset lies between two characters of the text or at one of its ends. -/
def IsBoundary (chars : List Char) (offset : Nat) : Prop :=
  ∃ front back, chars = front ++ back ∧ byteLength front = offset

/-- The piece of a text between two byte offsets, when both are boundaries and in order. -/
def between? (start stop : Nat) (chars : List Char) : Option (List Char) :=
  if start ≤ stop then
    (splitAt? start chars).bind fun cut ↦ (splitAt? (stop - start) cut.2).map Prod.fst
  else none

/-- A text can be cut precisely at its boundaries. -/
theorem isSome_splitAt?_iff {offset : Nat} {chars : List Char} :
    (splitAt? offset chars).isSome ↔ IsBoundary chars offset := by
  constructor
  · intro hsome
    obtain ⟨⟨front, back⟩, hsplit⟩ := Option.isSome_iff_exists.1 hsome
    exact ⟨front, back, (append_of_splitAt? hsplit).symm, byteLength_of_splitAt? hsplit⟩
  · rintro ⟨front, back, rfl, rfl⟩
    rw [splitAt?_append, Option.isSome_some]

/-- Only the empty text takes no bytes. -/
theorem eq_nil_of_byteLength {chars : List Char} (hlength : byteLength chars = 0) : chars = [] := by
  cases chars with
  | nil => rfl
  | cons char chars =>
      have hpos := Char.utf8Size_pos char
      rw [byteLength] at hlength
      omega

/-- What follows a front is the piece from the end of the front on. -/
theorem between?_append (front middle back : List Char) :
    between? (byteLength front) (byteLength front + byteLength middle) (front ++ (middle ++ back)) =
      some middle := by
  rw [between?, if_pos (Nat.le_add_right _ _), splitAt?_append, Nat.add_sub_cancel_left]
  simp [splitAt?_append]

/-- A boundary behind a front cuts off a piece that follows the front. -/
theorem IsBoundary.exists_gap {front rest : List Char} {offset : Nat}
    (hboundary : IsBoundary (front ++ rest) offset) (hle : byteLength front ≤ offset) :
    ∃ gap back, rest = gap ++ back ∧ byteLength front + byteLength gap = offset := by
  obtain ⟨long, back, happend, rfl⟩ := hboundary
  rcases List.append_eq_append_iff.1 happend with ⟨gap, rfl, rfl⟩ | ⟨gap, rfl, rfl⟩
  · exact ⟨gap, back, rfl, by rw [byteLength_append]⟩
  · rw [byteLength_append] at hle
    have hnil : gap = [] := eq_nil_of_byteLength (by omega)
    subst hnil
    exact ⟨[], rest, rfl, by simp [byteLength]⟩

end Numbering.Text
