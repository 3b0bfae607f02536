import Mathlib.Data.List.Chain
import Mathlib.Data.List.Induction
import Numbering.Proofs.MarkedText.Ranges

/-!
# The ranges that can be marked

A text can be marked with ranges, given in any order, precisely when each of them lies between
characters of the text and no two of them overlap. Otherwise the first range in order that does not
lie in the text, or that starts before the one in front of it stops, is the fault that is reported
(`fault?_eq_some_iff`). Nothing depends on the order in which the ranges are given, since sorting
takes it away (`mergeSort_eq_of_perm`). Main statement: `ofRanges_accepts_apart`.
-/

namespace Numbering

open Text

namespace ByteRange

/-- The range starts before it stops, stops inside the text, and both ends are between
characters. -/
structure LiesIn (range : ByteRange) (chars : List Char) : Prop where
  start_le_stop : range.start ≤ range.stop
  stop_le : range.stop ≤ byteLength chars
  start_isBoundary : IsBoundary chars range.start
  stop_isBoundary : IsBoundary chars range.stop

/-- Ranges are ordered by their starts, and those with one start by their stops. -/
def Precedes (first second : ByteRange) : Prop :=
  first.start < second.start ∨ first.start = second.start ∧ first.stop ≤ second.stop

/-- One of the ranges stops before the other one starts. -/
def Apart (first second : ByteRange) : Prop :=
  first.stop ≤ second.start ∨ second.stop ≤ first.start

variable {first second third : ByteRange}

/-- The test of the order of ranges decides the order. -/
theorem precedes_iff : MarkedText.precedes first second = true ↔ first.Precedes second := by
  simp only [MarkedText.precedes, Precedes, Bool.or_eq_true, Bool.and_eq_true, decide_eq_true_eq]

/-- The order of ranges is transitive. -/
theorem Precedes.trans (hfirst : first.Precedes second) (hsecond : second.Precedes third) :
    first.Precedes third := by
  unfold Precedes at *
  omega

/-- Of two ranges one comes first. -/
theorem Precedes.total (first second : ByteRange) :
    first.Precedes second ∨ second.Precedes first := by
  unfold Precedes
  omega

/-- Two ranges that come first of each other are the same. -/
theorem Precedes.antisymm (hfirst : first.Precedes second) (hsecond : second.Precedes first) :
    first = second := by
  obtain ⟨start, stop⟩ := first
  obtain ⟨other, last⟩ := second
  simp only [Precedes] at hfirst hsecond
  rw [mk.injEq]
  omega

/-- Being apart does not depend on which range is named first. -/
theorem Apart.symm (hapart : first.Apart second) : second.Apart first := Or.symm hapart

/-- Of two ranges in order it is the first one that stops before the other one starts. -/
theorem Precedes.apart_iff (hprecedes : first.Precedes second)
    (hsecond : second.start ≤ second.stop) :
    first.Apart second ↔ first.stop ≤ second.start := by
  unfold Precedes at hprecedes
  unfold Apart
  omega

end ByteRange

namespace MarkedText

variable {chars : List Char} {range : ByteRange} {ranges sorted : List ByteRange}

/-! ## Markings -/

/-- The test of a range decides whether it lies in the text. -/
theorem isValid_iff_liesIn : isValid chars range = true ↔ range.LiesIn chars := by
  rw [isValid_iff]
  constructor
  · intro hvalid
    obtain ⟨hle, hstart, hstop⟩ := hvalid
    obtain ⟨front, back, rfl, hlength⟩ := id hstop
    refine ⟨hle, ?_, hstart, hstop⟩
    rw [← hlength, byteLength_append]
    exact Nat.le_add_right _ _
  · intro hrange
    exact ⟨hrange.start_le_stop, hrange.start_isBoundary, hrange.stop_isBoundary⟩

/-- Ranges are a marking when each lies in the text and stops before the next one starts. -/
theorem isMarking_iff_isChain : IsMarking chars ranges ↔
    (∀ range ∈ ranges, range.LiesIn chars) ∧
      ranges.IsChain fun range next ↦ range.stop ≤ next.start := by
  constructor
  · intro hmarking
    refine ⟨fun range hmem ↦ ?_, hmarking.apart.isChain⟩
    exact isValid_iff_liesIn.1 (isValid_iff.2 (hmarking.valid range hmem))
  · rintro ⟨hranges, hchain⟩
    refine ⟨fun range hmem ↦ isValid_iff.1 (isValid_iff_liesIn.2 (hranges range hmem)), ?_⟩
    -- A later range starts behind the next one, which starts before it stops.
    induction ranges with
    | nil => exact .nil
    | cons range ranges ih =>
        rw [List.forall_mem_cons] at hranges
        obtain ⟨hnext, hchain⟩ := List.isChain_cons.1 hchain
        have hrest := ih hranges.2 hchain
        refine List.pairwise_cons.2 ⟨fun other hmem ↦ ?_, hrest⟩
        cases ranges with
        | nil => cases hmem
        | cons next others =>
            have hstop : range.stop ≤ next.start := hnext next rfl
            rcases List.mem_cons.1 hmem with rfl | hmem
            · exact hstop
            · have hlater := (List.pairwise_cons.1 hrest).1 other hmem
              have hle := (hranges.2 next List.mem_cons_self).start_le_stop
              omega

/-- Ranges in order are a marking when each lies in the text and any two are apart. -/
theorem isMarking_iff_pairwise_apart (hsorted : sorted.Pairwise ByteRange.Precedes) :
    IsMarking chars sorted ↔
      (∀ range ∈ sorted, range.LiesIn chars) ∧ sorted.Pairwise ByteRange.Apart := by
  constructor
  · intro hmarking
    exact ⟨(isMarking_iff_isChain.1 hmarking).1, hmarking.apart.imp .inl⟩
  · rintro ⟨hranges, hapart⟩
    refine ⟨fun range hmem ↦ isValid_iff.1 (isValid_iff_liesIn.2 (hranges range hmem)), ?_⟩
    refine (hsorted.and hapart).imp_of_mem fun {first second} _ hmem hboth ↦ ?_
    exact (hboth.1.apart_iff (hranges second hmem).start_le_stop).1 hboth.2

/-! ## Faults -/

/-- Why a range cannot be marked behind the one in front of it, if there is one. -/
inductive Fault (chars : List Char) (before : Option ByteRange) (range : ByteRange) :
    MarkError → Prop where
  | invalid : ¬ range.LiesIn chars → Fault chars before range (.invalidSelection range)
  | overlap (previous) :
      range.LiesIn chars → before = some previous → range.start < previous.stop →
      Fault chars before range (.overlap range.start)

/-- The error is the fault of the first range that has one. -/
def IsFirstFault (chars : List Char) (ranges : List ByteRange) (error : MarkError) : Prop :=
  ∃ front range back, ranges = front ++ range :: back ∧
    (∀ other ∈ front, other.LiesIn chars) ∧
    front.IsChain (fun other next ↦ other.stop ≤ next.start) ∧
    Fault chars front.getLast? range error

/-- Where the last of some ranges stops. -/
def lastStop (previous : Nat) (ranges : List ByteRange) : Nat :=
  (ranges.getLast?.map ByteRange.stop).getD previous

/-- The last stop behind a further range is found from its stop on. -/
theorem lastStop_cons (previous : Nat) (range : ByteRange) (ranges : List ByteRange) :
    lastStop previous (range :: ranges) = lastStop range.stop ranges := by
  rw [lastStop, lastStop, List.getLast?_cons]
  cases ranges.getLast? <;> rfl

/-- The fault of ranges is that of their front, and without one that of their back. -/
theorem fault?_append (chars : List Char) (previous : Nat) (front back : List ByteRange) :
    fault? chars previous (front ++ back) =
      (fault? chars previous front).or (fault? chars (lastStop previous front) back) := by
  induction front generalizing previous with
  | nil => rfl
  | cons range front ih =>
      rw [List.cons_append, fault?, fault?, lastStop_cons]
      split
      · rfl
      · split
        · rfl
        · exact ih range.stop

/-- The fault of one range behind others is its fault behind the last of them. -/
theorem fault?_singleton_eq_some_iff {front : List ByteRange} {error : MarkError} :
    fault? chars (lastStop 0 front) [range] = some error ↔
      Fault chars front.getLast? range error := by
  have hinvalid : (!isValid chars range) = true ↔ ¬ range.LiesIn chars := by
    rw [Bool.not_eq_true', ← Bool.not_eq_true, isValid_iff_liesIn]
  rw [fault?, fault?, lastStop]
  constructor
  · intro hfault
    split at hfault
    · rename_i hrange
      cases hfault
      exact .invalid (hinvalid.1 hrange)
    · rename_i hrange
      split at hfault
      · rename_i hbefore
        cases hfault
        cases hlast : front.getLast? with
        | none => simp [hlast] at hbefore
        | some previous =>
            rw [hlast] at hbefore
            exact .overlap previous (not_not.1 (mt hinvalid.2 hrange)) rfl hbefore
      · cases hfault
  · intro hfault
    cases hfault with
    | invalid hrange => rw [if_pos (hinvalid.2 hrange)]
    | overlap previous hrange hlast hbefore =>
        rw [if_neg (mt hinvalid.1 (not_not.2 hrange)), hlast]
        exact if_pos hbefore

/-- The fault that is found is that of the first range that has one. -/
theorem fault?_eq_some_iff {error : MarkError} :
    fault? chars 0 ranges = some error ↔ IsFirstFault chars ranges error := by
  have hnone : ∀ front : List ByteRange, fault? chars 0 front = none ↔
      (∀ other ∈ front, other.LiesIn chars) ∧
        front.IsChain fun other next ↦ other.stop ≤ next.start := by
    intro front
    rw [fault?_eq_none_iff, ← isMarking_iff_isChain]
    simp
  constructor
  · intro hfault
    induction ranges using List.reverseRecOn with
    | nil => cases hfault
    | append_singleton front last ih =>
        rw [fault?_append] at hfault
        cases hfront : fault? chars 0 front with
        | some earlier =>
            rw [hfront] at hfault
            obtain ⟨before, range, back, rfl, hfirst⟩ := ih (hfront.trans hfault)
            exact ⟨before, range, back ++ [last], by simp, hfirst⟩
        | none =>
            rw [hfront] at hfault
            obtain ⟨hlies, hchain⟩ := (hnone front).1 hfront
            exact ⟨front, last, [], rfl, hlies, hchain, fault?_singleton_eq_some_iff.1 hfault⟩
  · rintro ⟨front, range, back, rfl, hlies, hchain, hfault⟩
    rw [List.append_cons, fault?_append, fault?_append, (hnone front).2 ⟨hlies, hchain⟩,
      fault?_singleton_eq_some_iff.2 hfault]
    rfl

/-! ## Ranges in any order -/

/-- Ranges have one order only. -/
theorem mergeSort_eq_of_perm (hperm : sorted.Perm ranges)
    (hsorted : sorted.Pairwise ByteRange.Precedes) : ranges.mergeSort precedes = sorted := by
  have hmerged : (ranges.mergeSort precedes).Pairwise fun first second ↦
      precedes first second = true := by
    apply List.pairwise_mergeSort
    · intro first second third hfirst hsecond
      rw [ByteRange.precedes_iff] at *
      exact hfirst.trans hsecond
    · intro first second
      rw [Bool.or_eq_true, ByteRange.precedes_iff, ByteRange.precedes_iff]
      exact ByteRange.Precedes.total first second
  simp only [ByteRange.precedes_iff] at hmerged
  exact ((List.mergeSort_perm ranges precedes).trans hperm.symm).eq_of_pairwise
    (fun _ _ _ _ ↦ ByteRange.Precedes.antisymm) hmerged hsorted

/-- Ranges are refused for the first fault in their order. -/
theorem ofRanges_eq_error_iff {text : String} {error : MarkError} :
    ofRanges text ranges = .error error ↔
      fault? text.toList 0 (ranges.mergeSort precedes) = some error := by
  unfold ofRanges
  dsimp only
  cases fault? text.toList 0 (ranges.mergeSort precedes) with
  | none => simp
  | some fault => simp

/-- Ranges are accepted when they are a marking in their order. -/
theorem exists_ofRanges_eq_ok_iff {text : String} :
    (∃ marked, ofRanges text ranges = .ok marked) ↔
      IsMarking text.toList (ranges.mergeSort precedes) := by
  have hnone : fault? text.toList 0 (ranges.mergeSort precedes) = none ↔
      IsMarking text.toList (ranges.mergeSort precedes) := by
    rw [fault?_eq_none_iff]
    simp
  rw [← hnone]
  unfold ofRanges
  dsimp only
  cases fault? text.toList 0 (ranges.mergeSort precedes) with
  | none => simp
  | some fault => simp

/-- A text can be marked with ranges precisely when they lie in it and, in order, each stops before
the next one starts, which is to say that any two are apart. The marks are then the ranges in order,
and the text is unchanged. Otherwise the error is that of the first range in order that is at fault.
The order in which the ranges are given does not count. -/
theorem ofRanges_accepts_apart (text : String) (hperm : sorted.Perm ranges)
    (hsorted : sorted.Pairwise ByteRange.Precedes) :
    ((∃ marked, ofRanges text ranges = .ok marked) ↔
      (∀ range ∈ ranges, range.LiesIn text.toList) ∧
        sorted.IsChain fun range next ↦ range.stop ≤ next.start) ∧
    ((∃ marked, ofRanges text ranges = .ok marked) ↔
      (∀ range ∈ ranges, range.LiesIn text.toList) ∧ ranges.Pairwise ByteRange.Apart) ∧
    (∀ marked, ofRanges text ranges = .ok marked →
      marked.text = text ∧ marked.ranges = sorted) ∧
    (∀ error, ofRanges text ranges = .error error ↔ IsFirstFault text.toList sorted error) ∧
    ∀ other, other.Perm ranges → ofRanges text other = ofRanges text ranges := by
  have hmerged := mergeSort_eq_of_perm hperm hsorted
  have hmem : (∀ range ∈ ranges, range.LiesIn text.toList) ↔
      ∀ range ∈ sorted, range.LiesIn text.toList := by
    simp only [hperm.mem_iff]
  refine ⟨?_, ?_, ?_, ?_, ?_⟩
  · rw [exists_ofRanges_eq_ok_iff, hmerged, isMarking_iff_isChain, hmem]
  · rw [exists_ofRanges_eq_ok_iff, hmerged, isMarking_iff_pairwise_apart hsorted, hmem,
      hperm.pairwise_iff ByteRange.Apart.symm]
  · intro marked hbuilt
    obtain ⟨htext, hranges⟩ := text_ranges_of_ofRanges hbuilt
    exact ⟨htext, hranges.trans hmerged⟩
  · intro error
    rw [ofRanges_eq_error_iff, hmerged, fault?_eq_some_iff]
  · intro other hother
    have hsame : other.mergeSort precedes = ranges.mergeSort precedes := by
      rw [hmerged]
      exact mergeSort_eq_of_perm (hperm.trans hother.symm) hsorted
    unfold ofRanges
    rw [hsame]

/-- Of the bytes of `héllo` the second and the third are one character. Three ranges are marked in
order, with an empty one between two others; of three other ones the second in order starts in the
first one, and the last one, which is turned round, comes too late to be the fault. -/
theorem ofRanges_accepts_apart_accented :
    (∃ marked, ofRanges "héllo" [⟨3, 5⟩, ⟨0, 1⟩, ⟨1, 1⟩] = .ok marked ∧
      marked.text = "héllo" ∧ marked.ranges = [⟨0, 1⟩, ⟨1, 1⟩, ⟨3, 5⟩]) ∧
    ofRanges "héllo" [⟨5, 4⟩, ⟨3, 5⟩, ⟨0, 4⟩] = .error (.overlap 3) := by
  have hfirst : List.Perm [⟨0, 1⟩, ⟨1, 1⟩, ⟨3, 5⟩] [⟨3, 5⟩, ⟨0, 1⟩, (⟨1, 1⟩ : ByteRange)] := by
    decide
  have hsecond : List.Perm [⟨0, 4⟩, ⟨3, 5⟩, ⟨5, 4⟩] [⟨5, 4⟩, ⟨3, 5⟩, (⟨0, 4⟩ : ByteRange)] := by
    decide
  have hvalid : ∀ range ∈ [⟨3, 5⟩, ⟨0, 1⟩, ⟨1, 1⟩, (⟨0, 4⟩ : ByteRange)],
      isValid "héllo".toList range = true := by decide +kernel
  have hlies : ∀ range ∈ [⟨3, 5⟩, ⟨0, 1⟩, ⟨1, 1⟩, (⟨0, 4⟩ : ByteRange)],
      range.LiesIn "héllo".toList := fun range hmem ↦ isValid_iff_liesIn.1 (hvalid range hmem)
  obtain ⟨haccepts, -, hmarked, -⟩ :=
    ofRanges_accepts_apart "héllo" hfirst (by simp [ByteRange.Precedes])
  obtain ⟨-, -, -, herror, -⟩ :=
    ofRanges_accepts_apart "héllo" hsecond (by simp [ByteRange.Precedes])
  refine ⟨?_, ?_⟩
  · obtain ⟨marked, hbuilt⟩ := haccepts.2
      ⟨fun range hmem ↦ hlies range (by simp at hmem ⊢; tauto), by simp⟩
    exact ⟨marked, hbuilt, hmarked marked hbuilt⟩
  · refine (herror _).2 ⟨[⟨0, 4⟩], ⟨3, 5⟩, [⟨5, 4⟩], rfl, ?_, by simp, ?_⟩
    · intro range hmem
      exact hlies range (by simp at hmem ⊢; tauto)
    · exact .overlap ⟨0, 4⟩ (hlies _ (by simp)) rfl (by decide)

end MarkedText

end Numbering
