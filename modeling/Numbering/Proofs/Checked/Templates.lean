import Numbering.Proofs.Checked.MachineIntegers
import Numbering.Proofs.KeyPath.Grammar
import Numbering.Proofs.Template.Parsing

/-!
# Checked reading of templates

A template is read piece by piece: each time the text that is left is cut behind the piece, at the
length of what was matched, and the byte offset of the piece is found from the lengths of the whole
and of what is left. Key paths are read in the same way. The reading ends without a result when a
cut is not between two characters, when an offset is not a machine integer, or when nothing is cut
off. None of this happens (`Checked.parsePath_eq`, `Checked.parseSegments_eq`).
-/

namespace Numbering.Checked

open Text

/-- What was matched of a text, when the rest is left. -/
def matched (chars rest : List Char) : List Char := chars.take (chars.length - rest.length)

/-- What is matched in front of the rest is the front. -/
theorem matched_append (front back : List Char) : matched (front ++ back) back = front := by
  rw [matched, List.length_append, Nat.add_sub_cancel, List.take_left']
  rfl

/-- Behind what was matched of a text stands the rest. -/
theorem behind?_matched (front back : List Char) :
    behind? (byteLength (matched (front ++ back) back)) (front ++ back) = some back := by
  rw [matched_append, behind?_append]

/-! ## Key paths -/

/-- The step at the front of a text and the length of what was matched. -/
def stepAt? (chars : List Char) : Option (Accessor × Nat) :=
  match chars with
  | '.' :: afterPoint =>
      (KeyPath.takeKey? afterPoint).map fun (key, rest) ↦
        (.key key, byteLength (matched chars rest))
  | '[' :: afterBracket =>
      (KeyPath.takeIndex? afterBracket).map fun (position, rest) ↦
        (.index position, byteLength (matched chars rest))
  | _ => none

/-- The steps after the first key. -/
def parseRest (chars : List Char) : Option (Option (List Accessor)) :=
  if chars = [] then some (some [])
  else
    match stepAt? chars with
    | none => some none
    | some (accessor, length) =>
        match behind? length chars with
        | none => none
        | some rest =>
            if rest.length < chars.length then (parseRest rest).map (·.map (accessor :: ·))
            else none
termination_by chars.length

/-- Read a path. -/
def parsePath (field : String) : Option (Option KeyPath) :=
  match KeyPath.takeKey? field.toList with
  | none => some none
  | some (first, rest) => do
      let rest ← behind? (byteLength (matched field.toList rest)) field.toList
      let accessors ← parseRest rest
      return accessors.map fun accessors ↦ ⟨first, accessors⟩

/-- A step in front of the rest is read, and the steps behind it follow. -/
theorem parseRest_of_stepAt? {front rest : List Char} {accessor : Accessor} (hne : front ≠ [])
    (hstep : stepAt? (front ++ rest) =
      some (accessor, byteLength (matched (front ++ rest) rest))) :
    parseRest (front ++ rest) = (parseRest rest).map (·.map (accessor :: ·)) := by
  have hlength : rest.length < (front ++ rest).length := by
    rw [List.length_append]
    have hpos := List.length_pos_iff.2 hne
    omega
  have hcons : front ++ rest ≠ [] := List.append_ne_nil_of_left_ne_nil hne rest
  rw [parseRest, if_neg hcons, hstep]
  dsimp only
  rw [behind?_matched]
  dsimp only
  rw [if_pos hlength]

/-- Reading stops with a failure where no step is. -/
theorem parseRest_of_stepAt?_eq_none {chars : List Char} (hne : chars ≠ [])
    (hstep : stepAt? chars = none) : parseRest chars = some none := by
  rw [parseRest, if_neg hne, hstep]

/-- Reading the steps of a path has a result. -/
theorem parseRest_eq (chars : List Char) :
    parseRest chars = some (KeyPath.parseRest? chars) := by
  fun_induction KeyPath.parseRest? chars with
  | case1 => rw [parseRest, if_pos rfl]
  | case2 afterPoint key rest htake ih =>
      obtain ⟨-, rfl⟩ := KeyPath.isKey_of_takeKey? htake
      have hstep : stepAt? (('.' :: key.toList) ++ rest) =
          some (.key key, byteLength (matched (('.' :: key.toList) ++ rest) rest)) :=
        congrArg (Option.map _) htake
      exact (parseRest_of_stepAt? (List.cons_ne_nil _ _) hstep).trans (by rw [ih]; rfl)
  | case3 afterPoint htake =>
      exact parseRest_of_stepAt?_eq_none (List.cons_ne_nil _ _) (congrArg (Option.map _) htake)
  | case4 afterBracket position rest htake ih =>
      obtain ⟨digits, -, rfl⟩ := KeyPath.isCount_of_takeIndex? htake
      have hstep : stepAt? ('[' :: (digits ++ ']' :: rest)) =
          some (.index position, byteLength (matched ('[' :: (digits ++ ']' :: rest)) rest)) :=
        congrArg (Option.map _) htake
      have hsplit : '[' :: (digits ++ ']' :: rest) = ('[' :: digits ++ [']']) ++ rest := by simp
      rw [hsplit] at hstep ⊢
      exact (parseRest_of_stepAt? (List.cons_ne_nil _ _) hstep).trans (by rw [ih]; rfl)
  | case5 afterBracket htake =>
      exact parseRest_of_stepAt?_eq_none (List.cons_ne_nil _ _) (congrArg (Option.map _) htake)
  | case6 chars hnil hpoint hbracket =>
      refine parseRest_of_stepAt?_eq_none hnil ?_
      unfold stepAt?
      split
      · exact absurd rfl (hpoint _)
      · exact absurd rfl (hbracket _)
      · rfl

/-- The checked reading of a key path is its reading. -/
theorem parsePath_eq (field : String) : parsePath field = some (KeyPath.parse? field) := by
  unfold parsePath KeyPath.parse?
  split
  · rename_i hkey
    rw [hkey]
  · rename_i first rest hkey
    obtain ⟨-, hfield⟩ := KeyPath.isKey_of_takeKey? hkey
    rw [hkey]
    have hcut := behind?_matched first.toList rest
    rw [← hfield] at hcut
    refine Option.bind_eq_some_iff.2 ⟨_, hcut, ?_⟩
    exact Option.bind_eq_some_iff.2 ⟨_, parseRest_eq rest, rfl⟩

/-! ## Placeholders -/

/-- The meaning of a reference. -/
def referenceOf : WrittenReference → Option (Except PlaceholderFault Reference)
  | .field text =>
      (parsePath (String.ofList text)).map fun
        | some path => .ok (.path path)
        | none => .error (.malformedKey (String.ofList text))
  | written => some (Placeholder.referenceOf written)

/-- The directive that a placeholder denotes. -/
def directive (placeholder : Placeholder) : Option (Except PlaceholderFault Directive) :=
  (referenceOf placeholder.reference).map fun
    | .error fault => .error fault
    | .ok reference =>
        match Placeholder.countOf placeholder.width, Placeholder.countOf placeholder.precision with
        | .error fault, _ => .error fault
        | .ok _, .error fault => .error fault
        | .ok width, .ok precision =>
            .ok
              { reference, forceSign := placeholder.forceSign, padding := placeholder.padding,
                leftAlign := placeholder.leftAlign, width, precision,
                conversion := placeholder.conversion }

/-- The reference of a placeholder has a result. -/
theorem referenceOf_eq (written : WrittenReference) :
    referenceOf written = some (Placeholder.referenceOf written) := by
  cases written with
  | absent | position => rfl
  | field text =>
      unfold referenceOf Placeholder.referenceOf
      dsimp only
      rw [parsePath_eq]
      cases KeyPath.parse? (String.ofList text) with
      | none | some => rfl

/-- The directive of a placeholder has a result. -/
theorem directive_eq (placeholder : Placeholder) :
    directive placeholder = some placeholder.directive := by
  unfold directive
  exact Option.map_eq_some_iff.2 ⟨_, referenceOf_eq placeholder.reference, rfl⟩

/-! ## Segments -/

/-- The segment at the front of a text, the style of references behind it and the length of what was
matched. A run of text goes up to the first percent sign. -/
def segmentAt (offset : Nat) (style : Option ReferenceStyle) (chars : List Char) :
    Option (Except TemplateError (Segment × Option ReferenceStyle × Nat)) :=
  let run := byteLength (chars.takeWhile (· ≠ '%'))
  if 0 < run then
    (before? run chars).map fun text ↦ .ok (.literal (String.ofList text), style, run)
  else
    match chars with
    | '%' :: '%' :: _ => some (.ok (.literal "%", style, 2))
    | _ :: unmarked =>
        match Placeholder.scan? unmarked with
        | none => some (.error (.unexpectedPlaceholder offset))
        | some (placeholder, rest) =>
            (directive placeholder).map fun
              | .error fault => .error (fault.locate offset)
              | .ok directive =>
                  if style.any (· ≠ directive.reference.style) then .error .mixedReference
                  else
                    .ok (.directive directive, some directive.reference.style,
                      byteLength (matched chars rest))
    | [] => some (.error (.unexpectedPlaceholder offset))

/-- Read the segments of the rest of a template. -/
def parseSegments (size : Nat) (style : Option ReferenceStyle) (chars : List Char) :
    Option (Except TemplateError (List Segment)) :=
  if chars = [] then some (.ok [])
  else
    match (index? (size - byteLength chars)).bind (segmentAt · style chars) with
    | none => none
    | some (.error error) => some (.error error)
    | some (.ok (segment, next, length)) =>
        match behind? length chars with
        | none => none
        | some rest =>
            if rest.length < chars.length then
              (parseSegments size next rest).map (·.map (segment :: ·))
            else none
termination_by chars.length

/-- Read a template. -/
def parse (source : String) : Option (Except TemplateError Template) :=
  (parseSegments (byteLength source.toList) none source.toList).map (·.map (⟨source, ·⟩))

section Segments

variable {size : Nat} {style next : Option ReferenceStyle} {front rest : List Char}

/-- A segment in front of the rest is read, and the segments behind it follow. -/
theorem parseSegments_of_segmentAt {segment : Segment} (hsize : size < 2 ^ 64)
    (hbytes : byteLength (front ++ rest) ≤ size) (hne : front ≠ [])
    (hsegment : segmentAt (size - byteLength (front ++ rest)) style (front ++ rest) =
      some (.ok (segment, next, byteLength front))) :
    parseSegments size style (front ++ rest) =
      (parseSegments size next rest).map (·.map (segment :: ·)) := by
  have hlength : rest.length < (front ++ rest).length := by
    rw [List.length_append]
    have hpos := List.length_pos_iff.2 hne
    omega
  have hoffset : index? (size - byteLength (front ++ rest)) =
      some (size - byteLength (front ++ rest)) := by
    rw [← Int.ofNat_sub hbytes]
    exact index?_natCast (by omega)
  rw [parseSegments, if_neg (List.append_ne_nil_of_left_ne_nil hne rest), hoffset,
    Option.bind_some, hsegment]
  dsimp only
  rw [behind?_append]
  dsimp only
  rw [if_pos hlength]

/-- An error in a segment is the error of the whole. -/
theorem parseSegments_of_segmentAt_eq_error {chars : List Char} {error : TemplateError}
    (hsize : size < 2 ^ 64) (hbytes : byteLength chars ≤ size) (hne : chars ≠ [])
    (hsegment : segmentAt (size - byteLength chars) style chars = some (.error error)) :
    parseSegments size style chars = some (.error error) := by
  have hoffset : index? (size - byteLength chars) = some (size - byteLength chars) := by
    rw [← Int.ofNat_sub hbytes]
    exact index?_natCast (by omega)
  rw [parseSegments, if_neg hne, hoffset, Option.bind_some, hsegment]

/-- A percent sign that is not doubled starts a placeholder. -/
theorem segmentAt_placeholder {unmarked : List Char} (hescape : ∀ tail, unmarked ≠ '%' :: tail)
    (offset : Nat) :
    segmentAt offset style ('%' :: unmarked) =
      match Placeholder.scan? unmarked with
      | none => some (.error (.unexpectedPlaceholder offset))
      | some (placeholder, rest) =>
          (directive placeholder).map fun
            | .error fault => .error (fault.locate offset)
            | .ok directive =>
                if style.any (· ≠ directive.reference.style) then .error .mixedReference
                else
                  .ok (.directive directive, some directive.reference.style,
                    byteLength (matched ('%' :: unmarked) rest)) := by
  have hrun : ¬0 < byteLength (('%' :: unmarked).takeWhile (· ≠ '%')) := Nat.lt_irrefl 0
  unfold segmentAt
  dsimp only
  rw [if_neg hrun]
  split
  · rename_i heq
    cases heq
    exact absurd rfl (hescape _)
  · rename_i heq
    cases heq
    rfl
  · rename_i heq
    cases heq

/-- What was matched of a directive is the percent sign and the text of the placeholder. -/
theorem segmentAt_directive {unmarked : List Char} (hescape : ∀ tail, unmarked ≠ '%' :: tail)
    {placeholder : Placeholder} (hscan : Placeholder.scan? unmarked = some (placeholder, rest))
    {found : Directive} (hfound : placeholder.directive = .ok found)
    (hstyle : ¬style.any (· ≠ found.reference.style)) (offset : Nat) :
    segmentAt offset style ('%' :: unmarked) =
      some (.ok (.directive found, some found.reference.style,
        byteLength ('%' :: placeholder.text))) := by
  obtain ⟨-, hrest⟩ := Placeholder.scan?_eq_some_iff.1 hscan
  have hmatched : matched ('%' :: unmarked) rest = '%' :: placeholder.text := by
    rw [hrest]
    exact matched_append ('%' :: placeholder.text) rest
  rw [segmentAt_placeholder hescape, hscan]
  dsimp only
  rw [directive_eq, hfound, Option.map_some]
  dsimp only
  rw [if_neg hstyle, hmatched]

/-- A run of text goes up to the first percent sign. -/
theorem segmentAt_run {char : Char} (hchar : char ≠ '%') (offset : Nat) (rest : List Char) :
    segmentAt offset style (char :: rest) =
      some (.ok (.literal (String.ofList (char :: rest.takeWhile (· ≠ '%'))), style,
        byteLength (char :: rest.takeWhile (· ≠ '%')))) := by
  have hrun : (char :: rest).takeWhile (· ≠ '%') = char :: rest.takeWhile (· ≠ '%') :=
    List.takeWhile_cons_of_pos (decide_eq_true hchar)
  have hpos : 0 < byteLength (char :: rest.takeWhile (· ≠ '%')) :=
    Nat.add_pos_left (Char.utf8Size_pos char) _
  have hcut : before? (byteLength (char :: rest.takeWhile (· ≠ '%'))) (char :: rest) =
      some (char :: rest.takeWhile (· ≠ '%')) := by
    have happend := before?_append (char :: rest.takeWhile (· ≠ '%')) (rest.dropWhile (· ≠ '%'))
    rwa [List.cons_append, List.takeWhile_append_dropWhile] at happend
  unfold segmentAt
  dsimp only
  rw [hrun, if_pos hpos, hcut]
  rfl

end Segments

/-- The checked reading of segments is their reading, when the text is part of one that is shorter
than the greatest machine integer. -/
theorem parseSegments_eq {size : Nat} (hsize : size < 2 ^ 64) (style : Option ReferenceStyle)
    (chars : List Char) (hbytes : byteLength chars ≤ size) :
    parseSegments size style chars = some (Template.parseSegments size style chars) := by
  induction style, chars using Template.parseSegments.induct size with
  | case1 style => rw [parseSegments, if_pos rfl, Template.parseSegments]
  | case2 style rest ih =>
      have hrest : byteLength rest ≤ size := by
        rw [byteLength, byteLength] at hbytes
        omega
      have hsegment :
          segmentAt (size - byteLength (['%', '%'] ++ rest)) style (['%', '%'] ++ rest) =
            some (.ok (.literal "%", style, byteLength ['%', '%'])) := rfl
      refine (parseSegments_of_segmentAt hsize hbytes (List.cons_ne_nil _ _) hsegment).trans ?_
      rw [ih hrest, Template.parseSegments]
      rfl
  | case3 style rest hescape hscan =>
      rw [Template.parseSegments_percent hescape, hscan]
      refine parseSegments_of_segmentAt_eq_error hsize hbytes (List.cons_ne_nil _ _) ?_
      rw [segmentAt_placeholder hescape, hscan]
  | case4 style rest hescape placeholder after hscan fault hfault =>
      rw [Template.parseSegments_percent hescape, hscan]
      dsimp only
      rw [hfault]
      refine parseSegments_of_segmentAt_eq_error hsize hbytes (List.cons_ne_nil _ _) ?_
      rw [segmentAt_placeholder hescape, hscan]
      dsimp only
      rw [directive_eq, hfault]
      rfl
  | case5 style rest hescape placeholder after hscan found hfound hstyle =>
      rw [Template.parseSegments_percent hescape, hscan]
      dsimp only
      rw [hfound]
      dsimp only
      rw [if_pos hstyle]
      refine parseSegments_of_segmentAt_eq_error hsize hbytes (List.cons_ne_nil _ _) ?_
      rw [segmentAt_placeholder hescape, hscan]
      dsimp only
      rw [directive_eq, hfound, Option.map_some]
      dsimp only
      rw [if_pos hstyle]
  | case6 style rest hescape placeholder after hscan found hfound hstyle ih =>
      obtain ⟨-, hrest⟩ := Placeholder.scan?_eq_some_iff.1 hscan
      have hafter : byteLength after ≤ size := by
        rw [hrest, byteLength, byteLength_append] at hbytes
        omega
      have hsplit : '%' :: rest = ('%' :: placeholder.text) ++ after := congrArg _ hrest
      have hsegment := segmentAt_directive hescape hscan hfound hstyle
        (size - byteLength ('%' :: rest))
      rw [Template.parseSegments_percent hescape, hscan]
      dsimp only
      rw [hfound]
      dsimp only
      rw [if_neg hstyle]
      rw [hsplit] at hsegment hbytes ⊢
      refine (parseSegments_of_segmentAt hsize hbytes (List.cons_ne_nil _ _) hsegment).trans ?_
      rw [ih hafter]
      rfl
  | case7 style char rest hpercents hpercent ih =>
      have hsplit : char :: rest =
          (char :: rest.takeWhile (· ≠ '%')) ++ rest.dropWhile (· ≠ '%') := by
        rw [List.cons_append, List.takeWhile_append_dropWhile]
      have hrest : byteLength (rest.dropWhile (· ≠ '%')) ≤ size := by
        rw [hsplit, byteLength_append] at hbytes
        omega
      have hsegment : segmentAt (size - byteLength (char :: rest)) style (char :: rest) = _ :=
        segmentAt_run hpercent _ rest
      have hunfold : Template.parseSegments size style (char :: rest) =
          (Template.parseSegments size style (rest.dropWhile (· ≠ '%'))).map
            (.literal (String.ofList (char :: rest.takeWhile (· ≠ '%'))) :: ·) := by
        rw [Template.parseSegments]
        · exact hpercents
        · exact hpercent
      rw [hunfold]
      generalize rest.takeWhile (· ≠ '%') = run at hsplit hsegment ⊢
      rw [hsplit] at hsegment hbytes ⊢
      refine (parseSegments_of_segmentAt hsize hbytes (List.cons_ne_nil _ _) hsegment).trans ?_
      rw [ih hrest]
      rfl

/-- The checked reading of a template is its reading. -/
theorem parse_eq {source : String} (hsource : byteLength source.toList < 2 ^ 64) :
    parse source = some (Template.parse source) := by
  rw [parse, parseSegments_eq hsource none source.toList le_rfl]
  rfl

end Numbering.Checked
