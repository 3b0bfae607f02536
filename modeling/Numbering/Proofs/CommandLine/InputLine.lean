import Mathlib.Data.List.TakeWhile
import Numbering.CommandLine.NumberFile

/-!
# The first line of an input

An input is bytes, and its first line ends at the first byte `10`. No other character than the line
break has that byte in its UTF-8 form (`eq_of_mem_utf8EncodeChar`), so a line that stands at the
front of an input is read as it is (`lineOf_append`, `lineOf_whole`), whatever bytes follow it. Only
a carriage return in front of the line break is not part of the line.
-/

namespace Numbering.NumberFile

/-- A line without one carriage return at its end. -/
def withoutReturn (line : String) : String :=
  if line.toList.getLast? = some '\r' then String.ofList line.toList.dropLast else line

/-- The UTF-8 form of a character that is not its own byte consists of bytes from `128` on. -/
theorem eq_of_mem_utf8EncodeChar {char : Char}
    (hbyte : (10 : UInt8) ∈ String.utf8EncodeChar char) : char = '\n' := by
  have hvalue : char.val.toNat = 10 := by
    unfold String.utf8EncodeChar at hbyte
    dsimp only at hbyte
    split_ifs at hbyte <;>
      simp only [List.mem_cons, List.not_mem_nil, or_false, ← UInt8.toNat_inj, UInt8.toNat_ofNat',
        UInt8.toNat_ofNat] at hbyte <;> omega
  exact Char.ext (UInt32.toNat_inj.1 hvalue)

/-- The bytes of a text are those of its characters. -/
theorem bytes_toUTF8 (text : String) :
    text.toUTF8.data.toList = text.toList.flatMap String.utf8EncodeChar := by
  rw [String.toUTF8_eq_toByteArray, ← String.utf8Encode_toList]
  exact List.toList_data_toByteArray

/-- A text is read back from its bytes. -/
theorem fromUTF8?_toUTF8 (text : String) : String.fromUTF8? text.toUTF8 = some text := by
  unfold String.fromUTF8?
  rw [String.toUTF8_eq_toByteArray, dif_pos text.isValidUTF8]
  rfl

variable {line : String}

/-- No byte of a line ends it. -/
theorem ne_lineBreak_of_mem (hline : '\n' ∉ line.toList) :
    ∀ byte ∈ line.toUTF8.data.toList, decide (byte ≠ 10) = true := by
  intro byte hbyte
  rw [decide_eq_true_iff]
  intro hbreak
  rw [bytes_toUTF8] at hbyte
  obtain ⟨char, hchar, hencoded⟩ := List.mem_flatMap.1 hbyte
  rw [hbreak] at hencoded
  rw [eq_of_mem_utf8EncodeChar hencoded] at hchar
  exact hline hchar

/-- There is no line in an empty input. -/
theorem lineOf_empty : lineOf .empty = none := rfl

/-- A line with its line break is read up to there, whatever follows it. -/
theorem lineOf_append (hline : '\n' ∉ line.toList) (rest : ByteArray) :
    lineOf (line.toUTF8 ++ "\n".toUTF8 ++ rest) = some (withoutReturn line) := by
  have hbytes : (line.toUTF8 ++ "\n".toUTF8 ++ rest).data.toList =
      line.toUTF8.data.toList ++ 10 :: rest.data.toList := by
    rw [ByteArray.data_append, ByteArray.data_append, Array.toList_append, Array.toList_append,
      List.append_assoc]
    rfl
  have hfirst : (line.toUTF8.data.toList ++ 10 :: rest.data.toList).takeWhile (· ≠ 10) =
      line.toUTF8.data.toList := by
    rw [List.takeWhile_append_of_pos (ne_lineBreak_of_mem hline)]
    exact List.append_nil _
  have hcomplete : line.toUTF8.data.toList.length <
      (line.toUTF8.data.toList ++ 10 :: rest.data.toList).length := by
    rw [List.length_append, List.length_cons]
    omega
  unfold lineOf
  dsimp only
  rw [hbytes, hfirst, if_neg (by simp), Array.toArray_toList, fromUTF8?_toUTF8, Option.map_some,
    decide_eq_true hcomplete, Bool.true_and]
  simp only [withoutReturn, decide_eq_true_eq]

/-- A line without a line break is read up to the end of the input. -/
theorem lineOf_whole (hline : '\n' ∉ line.toList) (hsome : line ≠ "") :
    lineOf line.toUTF8 = some line := by
  have hfirst : line.toUTF8.data.toList.takeWhile (· ≠ 10) = line.toUTF8.data.toList :=
    List.takeWhile_eq_self_iff.2 (ne_lineBreak_of_mem hline)
  have hbytes : ¬ line.toUTF8.data.toList.isEmpty = true := by
    intro hempty
    apply hsome
    rw [bytes_toUTF8, List.isEmpty_iff, List.flatMap_eq_nil_iff] at hempty
    rw [← String.toList_eq_nil_iff, List.eq_nil_iff_forall_not_mem]
    exact fun char hchar ↦ String.utf8EncodeChar_ne_nil (hempty char hchar)
  unfold lineOf
  dsimp only
  rw [hfirst, if_neg hbytes, Array.toArray_toList, fromUTF8?_toUTF8, Option.map_some,
    decide_eq_false (Nat.lt_irrefl _), Bool.false_and, if_neg Bool.false_ne_true]

end Numbering.NumberFile
