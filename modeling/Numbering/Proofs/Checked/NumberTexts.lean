import Numbering.Proofs.Checked.MachineIntegers
import Numbering.Proofs.Numeral.DigitRanges

/-!
# Checked number texts

The texts of numbers as a machine makes them: the point of an expansion is read off an exponent,
texts are cut at offsets, lengths are differences of machine integers, and digits are bytes. Each of
these steps is checked, and each of them has a result: for every number, and for every number of
digits asked for, the checked text is the text (`Checked.plain_eq`,
`Checked.shortestExponential_eq`, `Checked.exponential_eq`, `Checked.fixed_eq`,
`Checked.precise_eq`). What this rests on is that the points of binary64 numbers are in a small
range, that as many digits are kept as asked for, and that a carry adds one digit.
-/

namespace Numbering.Checked

open Digits Text Decimal Numeral

/-! ## Digits and exponents -/

/-- An expansion whose point is read off the exponent of its first digit. -/
def located (decimal : Decimal) : Option Decimal := do
  let exponent ← signed? (decimal.point - 1)
  let point ← signed? (exponent + 1)
  return ⟨decimal.digits, point⟩

/-- The characters of digits, from the codes of the characters. -/
def digitChars : List Nat → Option (List Char)
  | [] => some []
  | digit :: digits => do
      let code ← byte? (48 + digit)
      let others ← digitChars digits
      return Char.ofNat code :: others

/-- Add one in the last place, digit by digit. -/
def increment : List Nat → Option (Bool × List Nat)
  | [] => some (true, [])
  | digit :: digits => do
      let (carry, others) ← increment digits
      if carry then
        if digit = 9 then return (true, 0 :: others)
        else
          let next ← byte? (digit + 1)
          return (false, next :: others)
      else return (false, digit :: others)

/-- Keep a number of leading digits and round half a unit away from zero. -/
def roundHalfUp (decimal : Decimal) (keep : Int) : Option Decimal :=
  if keep < 0 then some ⟨[], decimal.point⟩
  else do
    let count ← index? keep
    let kept := leading decimal.digits count
    if decimal.digits.getD count 0 < 5 then return ⟨kept, decimal.point⟩
    else
      let (carry, digits) ← increment kept
      if carry then
        let point ← signed? (decimal.point + 1)
        return ⟨1 :: digits, point⟩
      else return ⟨digits, decimal.point⟩

/-- The exponent part of a text. -/
def exponentPart (exponent : Int) : Option (List Char) :=
  if exponent < 0 then do
    let size ← signed? (-exponent)
    return 'e' :: '-' :: numeral size.toNat
  else some ('e' :: '+' :: numeral exponent.toNat)

/-- Digits with a point behind the first one, and an exponent. -/
def scientific (digits : List Char) (exponent : Int) : Option (List Char) := do
  let (first, others) ← splitAt? 1 digits
  let part ← exponentPart exponent
  return first ++ (if others.isEmpty then [] else '.' :: others) ++ part

section Digits

variable {decimal : Decimal} {digits : List Nat}

/-- A decimal in range has a point that is in range. -/
theorem located_eq (hrange : InRange decimal) : located decimal = some decimal := by
  obtain ⟨-, hlow, hhigh⟩ := hrange
  unfold located
  rw [signed?_eq (by omega) (by omega)]
  dsimp only [Option.bind_eq_bind, Option.bind_some]
  rw [signed?_eq (by omega) (by omega), Int.sub_add_cancel]
  rfl

/-- Digits below ten have characters. -/
theorem digitChars_eq (hdigits : ∀ digit ∈ digits, digit < 10) :
    digitChars digits = some (chars digits) := by
  induction digits with
  | nil => rfl
  | cons digit digits ih =>
      obtain ⟨hdigit, hothers⟩ := List.forall_mem_cons.1 hdigits
      have hchars : chars (digit :: digits) = Char.ofNat (48 + digit) :: chars digits :=
        congrArg (· :: chars digits) (if_pos hdigit)
      rw [digitChars, byte?_eq (by omega), ih hothers, hchars]
      rfl

/-- Adding one to digits below ten has a result. -/
theorem increment_eq (hdigits : ∀ digit ∈ digits, digit < 10) :
    increment digits = some (Decimal.increment digits) := by
  induction digits with
  | nil => rfl
  | cons digit digits ih =>
      obtain ⟨hdigit, hothers⟩ := List.forall_mem_cons.1 hdigits
      rw [increment, ih hothers, Decimal.increment]
      rcases Decimal.increment digits with ⟨carry, others⟩
      cases carry with
      | false => rfl
      | true =>
          dsimp only [Option.bind_eq_bind, Option.bind_some]
          rw [if_pos rfl]
          split
          · rfl
          · rw [byte?_eq (by omega)]
            rfl

/-- Rounding a decimal in range has a result. -/
theorem roundHalfUp_eq (hrange : InRange decimal) {keep : Int} (hkeep : keep < 2 ^ 31) :
    roundHalfUp decimal keep = some (decimal.roundHalfUp keep) := by
  obtain ⟨hdigits, hlow, hhigh⟩ := hrange
  unfold roundHalfUp Decimal.roundHalfUp
  split
  · rfl
  · rw [index?_eq_toNat (by omega) (by omega)]
    dsimp only [Option.bind_eq_bind, Option.bind_some]
    have hleading : ∀ digit ∈ leading decimal.digits keep.toNat, digit < 10 := by
      intro digit hdigit
      rcases List.mem_append.1 hdigit with hfront | hzero
      · exact hdigits digit (List.mem_of_mem_take hfront)
      · rw [List.eq_of_mem_replicate hzero]
        decide
    split
    · rfl
    · rw [increment_eq hleading]
      rcases Decimal.increment (leading decimal.digits keep.toNat) with ⟨carry, digits⟩
      cases carry with
      | false => rfl
      | true =>
          dsimp only [Option.bind_some]
          rw [if_pos rfl, signed?_eq (by omega) (by omega)]
          rfl

/-- The exponent part has a result. -/
theorem exponentPart_eq {exponent : Int} (hlow : -2 ^ 31 < exponent) :
    exponentPart exponent = some (Numeral.exponentPart exponent) := by
  unfold exponentPart
  cases exponent with
  | ofNat exponent => rfl
  | negSucc exponent =>
      rw [if_pos (Int.negSucc_lt_zero exponent), signed?_eq (by omega) (by omega)]
      rfl

/-- The exponential form of some digits has a result. -/
theorem scientific_eq (hne : digits ≠ []) {exponent : Int} (hlow : -2 ^ 31 < exponent) :
    scientific (chars digits) exponent = some (Numeral.scientific (chars digits) exponent) := by
  obtain ⟨digit, others, rfl⟩ := List.exists_cons_of_ne_nil hne
  unfold scientific
  rw [splitAt?_of_ascii utf8Size_of_mem_chars (by simp [chars]), exponentPart_eq hlow]
  cases others with
  | nil => rfl
  | cons other others => rfl

end Digits

/-! ## The shortest digits -/

/-- The shortest digits of a magnitude. -/
def shortestDigits (magnitude : Magnitude) : Option Decimal :=
  located (Numeral.shortestDigits magnitude)

/-- The digits of an expansion laid out positionally or with an exponent. -/
def layout (decimal : Decimal) : Option (List Char) := do
  let digits := chars decimal.digits
  let point := decimal.point
  let count ← signed? (byteLength digits)
  if count ≤ point ∧ point ≤ 21 then
    let missing ← signed? (point - count)
    let missing ← index? missing
    return digits ++ zeros missing
  else if 0 < point ∧ point ≤ 21 then
    let whole ← index? point
    let (front, back) ← splitAt? whole digits
    return front ++ '.' :: back
  else if -6 < point ∧ point ≤ 0 then
    let missing ← signed? (-point)
    let missing ← index? missing
    return '0' :: '.' :: zeros missing ++ digits
  else
    let exponent ← signed? (point - 1)
    scientific digits exponent

/-- The plain text of a number. -/
def plain : Binary64 → Option (List Char)
  | .finite negative magnitude =>
      if magnitude.significand = 0 then some ['0']
      else ((shortestDigits magnitude).bind layout).map (sign (.finite negative magnitude) ++ ·)
  | other => some ((special? other).getD [])

/-- The text of a number with an exponent and the shortest digits. -/
def shortestExponential : Binary64 → Option (List Char)
  | .finite negative magnitude =>
      if magnitude.significand = 0 then do
        let part ← exponentPart 0
        return '0' :: part
      else do
        let exponent ← signed? ((Numeral.shortestDigits magnitude).point - 1)
        let part ← exponentPart exponent
        return sign (.finite negative magnitude) ++
          (pointed (chars (Numeral.shortestDigits magnitude).digits) ++ part)
  | other => some ((special? other).getD [])

/-- The layout of the digits of a number has a result. -/
theorem layout_eq {decimal : Decimal} (hrange : InRange decimal) (hne : decimal.digits ≠ [])
    (hlength : decimal.digits.length ≤ 17) : layout decimal = some (Numeral.layout decimal) := by
  obtain ⟨-, hlow, hhigh⟩ := hrange
  have hchars : (chars decimal.digits).length = decimal.digits.length := List.length_map _
  unfold layout Numeral.layout
  dsimp only
  rw [byteLength_of_ascii utf8Size_of_mem_chars, signed?_eq (by omega) (by omega)]
  dsimp only [Option.bind_eq_bind, Option.bind_some]
  split
  · have hmissing : (decimal.point - (chars decimal.digits).length).toNat =
        decimal.point.toNat - (chars decimal.digits).length := by omega
    rw [signed?_eq (by omega) (by omega)]
    dsimp only [Option.bind_some]
    rw [index?_eq_toNat (by omega) (by omega), hmissing]
    rfl
  · split
    · rw [index?_eq_toNat (by omega) (by omega)]
      dsimp only [Option.bind_some]
      rw [splitAt?_of_ascii utf8Size_of_mem_chars (by omega)]
      rfl
    · split
      · rw [signed?_eq (by omega) (by omega)]
        dsimp only [Option.bind_some]
        rw [index?_eq_toNat (by omega) (by omega)]
        rfl
      · rw [signed?_eq (by omega) (by omega)]
        exact scientific_eq hne (by omega)

/-- The checked plain text of a number is its plain text. -/
theorem plain_eq (number : Binary64) : plain number = some (Numeral.plain number) := by
  cases number with
  | nan | infinity => rfl
  | finite negative magnitude =>
      unfold plain Numeral.plain
      dsimp only
      split
      · rfl
      · rename_i hsignificand
        have hrange : InRange (Numeral.shortestDigits magnitude) := inRange_shortest hsignificand
        rw [shortestDigits, located_eq hrange, Option.bind_some,
          layout_eq hrange (digits_shortest_ne_nil hsignificand) (length_shortest_le hsignificand),
          Option.map_some]

/-- The shortest exponential form of a number has a result. -/
theorem shortestExponential_eq (number : Binary64) :
    shortestExponential number = some (Numeral.shortestExponential number) := by
  cases number with
  | nan | infinity => rfl
  | finite negative magnitude =>
      unfold shortestExponential Numeral.shortestExponential
      dsimp only
      split
      · rfl
      · rename_i hsignificand
        obtain ⟨-, hlow, hhigh⟩ : InRange (Numeral.shortestDigits magnitude) :=
          inRange_shortest hsignificand
        rw [signed?_eq (by omega) (by omega)]
        dsimp only [Option.bind_eq_bind, Option.bind_some]
        rw [exponentPart_eq (by omega)]
        rfl

/-! ## Rounded digits -/

/-- The magnitude rounded to a number of significant digits, and the exponent of the first one. -/
def significantDigits (magnitude : Magnitude) (count : Nat) : Option (List Nat × Int) := do
  let exact ← located (Decimal.ofMagnitude magnitude)
  let keep ← signed? count
  let rounded ← roundHalfUp exact keep
  let exponent ← signed? (rounded.point - 1)
  return (rounded.digits.take count, exponent)

/-- The text of a number with an exponent and a number of digits after the point. -/
def exponential (number : Binary64) (places : Nat) : Option (List Char) :=
  match number with
  | .finite negative magnitude => do
      let count ← index? (min places 100 + 1 : Nat)
      let (digits, exponent) ← significantDigits magnitude count
      let chars ← digitChars digits
      let text ← scientific chars exponent
      return sign (.finite negative magnitude) ++ text
  | other => some ((special? other).getD [])

/-- The number of zeros in front of a run of digits, so that a digit stands before the places. -/
def missingZeros (digits : List Char) (places : Nat) : Option Nat :=
  if byteLength digits ≤ places then do
    let length ← index? (places + 1 : Nat)
    index? (length - byteLength digits)
  else some 0

/-- Put a point before the last places of a run of digits, after filling up with zeros. -/
def insertPoint (digits : List Char) (places : Nat) : Option (List Char) := do
  let missing ← missingZeros digits places
  let filled := zeros missing ++ digits
  if places = 0 then return filled
  else
    let offset ← index? (byteLength filled - places)
    let (whole, fraction) ← splitAt? offset filled
    return whole ++ '.' :: fraction

/-- The text of a number with a number of places after the point. -/
def fixed (number : Binary64) (places : Nat) : Option (List Char) :=
  match number with
  | .finite negative magnitude =>
      if number.abs.less fixedLimit then do
        let exact ← located (Decimal.ofMagnitude magnitude)
        let shift ← signed? (min places 100 : Nat)
        let keep ← signed? (exact.point + shift)
        let rounded ← roundHalfUp exact keep
        let chars ← digitChars rounded.digits
        let text ← insertPoint chars (min places 100)
        return sign (.finite negative magnitude) ++ text
      else plain number
  | other => some ((special? other).getD [])

/-- The text of digits and the exponent of the first one, with an exponent or positionally. -/
def preciseText (chars : List Char) (count : Nat) (exponent : Int) : Option (List Char) := do
  let limit ← signed? count
  if exponent < -6 ∨ limit ≤ exponent then scientific chars exponent
  else if 0 ≤ exponent then
    let last ← index? exponent
    let offset ← index? (last + 1 : Nat)
    let (whole, fraction) ← splitAt? offset chars
    return whole ++ if fraction.isEmpty then [] else '.' :: fraction
  else
    let size ← signed? (-exponent)
    let missing ← signed? (size - 1)
    let missing ← index? missing
    return '0' :: '.' :: zeros missing ++ chars

/-- The text of a number with a number of significant digits. -/
def precise (number : Binary64) (precision : Nat) : Option (List Char) :=
  match number with
  | .finite negative magnitude => do
      let count := max 1 (min precision 100)
      let (digits, exponent) ← significantDigits magnitude count
      let chars ← digitChars digits
      let text ← preciseText chars count exponent
      return sign (.finite negative magnitude) ++ text
  | other => some ((special? other).getD [])

section Rounded

variable (magnitude : Magnitude) {count : Nat}

/-- The exponent of the first digit stays in range when a carry moves it. -/
theorem exponent_significantDigits (count : Nat) :
    -331 ≤ (Numeral.significantDigits magnitude count).2 ∧
      (Numeral.significantDigits magnitude count).2 ≤ 310 := by
  obtain ⟨-, hlow, hhigh⟩ := inRange_ofMagnitude magnitude
  have hpoint : (Numeral.significantDigits magnitude count).2 =
      ((Decimal.ofMagnitude magnitude).roundHalfUp count).point - 1 := rfl
  rcases (roundedAt_ofMagnitude magnitude count).shape with ⟨-, hsame⟩ | ⟨-, hcarry⟩
  · omega
  · omega

/-- The significant digits of a magnitude have a result. -/
theorem significantDigits_eq (hcount : count ≤ 101) :
    significantDigits magnitude count = some (Numeral.significantDigits magnitude count) := by
  have hexponent := exponent_significantDigits magnitude count
  have hpoint : (Numeral.significantDigits magnitude count).2 =
      ((Decimal.ofMagnitude magnitude).roundHalfUp count).point - 1 := rfl
  have hrange := inRange_ofMagnitude magnitude
  refine Option.bind_eq_some_iff.2 ⟨_, located_eq hrange, ?_⟩
  refine Option.bind_eq_some_iff.2 ⟨_, signed?_eq (by omega) (by omega), ?_⟩
  refine Option.bind_eq_some_iff.2 ⟨_, roundHalfUp_eq hrange (by omega), ?_⟩
  exact Option.bind_eq_some_iff.2 ⟨_, signed?_eq (by omega) (by omega), rfl⟩

end Rounded

/-- Rounding keeps decimal digits, and with a carry one more than asked for. -/
theorem roundHalfUp_bounds {decimal : Decimal} (hdigits : ∀ digit ∈ decimal.digits, digit < 10)
    (keep : Int) : (∀ digit ∈ (decimal.roundHalfUp keep).digits, digit < 10) ∧
      (decimal.roundHalfUp keep).digits.length ≤ keep.toNat + 1 := by
  by_cases hkeep : keep < 0
  · have hnil : decimal.roundHalfUp keep = ⟨[], decimal.point⟩ := if_pos hkeep
    rw [hnil]
    exact ⟨List.forall_mem_nil _, Nat.zero_le _⟩
  · obtain ⟨count, rfl⟩ := Int.eq_ofNat_of_zero_le (not_lt.1 hkeep)
    obtain ⟨-, hrounded, hshape⟩ := roundedAt_roundHalfUp hdigits count
    refine ⟨hrounded, ?_⟩
    rcases hshape with ⟨hlength, -⟩ | ⟨hcarry, -⟩
    · rw [hlength]
      exact Nat.le_succ count
    · rw [hcarry, List.length_cons, List.length_replicate]
      exact le_rfl

/-- The checked text of a number with an exponent is that text, whatever number of digits is asked
for. -/
theorem exponential_eq (number : Binary64) (places : Nat) :
    exponential number places = some (Numeral.exponential number places) := by
  cases number with
  | nan | infinity => rfl
  | finite negative magnitude =>
      have hlength := length_significantDigits magnitude (min places 100 + 1)
      have hne : (Numeral.significantDigits magnitude (min places 100 + 1)).1 ≠ [] :=
        List.ne_nil_of_length_pos (by omega)
      have hlow : -2 ^ 31 < (Numeral.significantDigits magnitude (min places 100 + 1)).2 :=
        lt_of_lt_of_le (by decide) (exponent_significantDigits magnitude _).1
      unfold exponential
      dsimp only
      refine Option.bind_eq_some_iff.2 ⟨_, index?_natCast (by omega), ?_⟩
      refine Option.bind_eq_some_iff.2 ⟨_, significantDigits_eq magnitude (by omega), ?_⟩
      refine Option.bind_eq_some_iff.2 ⟨_, digitChars_eq (lt_of_mem_significantDigits _ _), ?_⟩
      exact Option.bind_eq_some_iff.2 ⟨_, scientific_eq hne hlow, rfl⟩

/-- How many zeros are missing in front of some digits has a result. -/
theorem missingZeros_eq (digits : List Nat) {places : Nat} (hplaces : places ≤ 100) :
    missingZeros (chars digits) places = some (places + 1 - (chars digits).length) := by
  unfold missingZeros
  rw [byteLength_of_ascii utf8Size_of_mem_chars]
  split
  · refine Option.bind_eq_some_iff.2 ⟨_, index?_natCast (by omega), ?_⟩
    rw [index?_eq_toNat (by omega) (by omega)]
    congr 1
    omega
  · congr 1
    omega

/-- Inserting the point has a result. -/
theorem insertPoint_eq {digits : List Nat} {places : Nat} (hlength : digits.length < 2 ^ 32)
    (hplaces : places ≤ 100) :
    insertPoint (chars digits) places = some (Numeral.insertPoint (chars digits) places) := by
  have hascii : ∀ count, ∀ char ∈ zeros count ++ chars digits, char.utf8Size = 1 := by
    intro count
    refine List.forall_mem_append.2 ⟨fun char hchar ↦ ?_, utf8Size_of_mem_chars⟩
    rw [List.eq_of_mem_replicate hchar]
    rfl
  have hchars : (chars digits).length = digits.length := List.length_map _
  unfold insertPoint Numeral.insertPoint
  refine Option.bind_eq_some_iff.2 ⟨_, missingZeros_eq digits hplaces, ?_⟩
  have hfilled : (zeros (places + 1 - (chars digits).length) ++ chars digits).length =
      max (places + 1) digits.length := by
    rw [List.length_append, zeros, List.length_replicate]
    omega
  dsimp only
  split
  · rfl
  · have hoffset : index? (byteLength (zeros (places + 1 - (chars digits).length) ++ chars digits) -
        places) = some (max (places + 1) digits.length - places) := by
      rw [byteLength_of_ascii (hascii _), hfilled, index?_eq_toNat (by omega) (by omega)]
      congr 1
      omega
    refine Option.bind_eq_some_iff.2 ⟨_, hoffset, ?_⟩
    refine Option.bind_eq_some_iff.2 ⟨_, splitAt?_of_ascii (hascii _) (by omega), ?_⟩
    rw [hfilled]
    rfl

/-- The checked text of a number with places after the point is that text, whatever number of places
is asked for. -/
theorem fixed_eq (number : Binary64) (places : Nat) :
    fixed number places = some (Numeral.fixed number places) := by
  cases number with
  | nan | infinity => rfl
  | finite negative magnitude =>
      unfold fixed Numeral.fixed
      dsimp only
      split
      · have hrange := inRange_ofMagnitude magnitude
        obtain ⟨hexact, hlow, hhigh⟩ := id hrange
        obtain ⟨hdigits, hlength⟩ := roundHalfUp_bounds hexact
          ((Decimal.ofMagnitude magnitude).point + (min places 100 : Nat))
        refine Option.bind_eq_some_iff.2 ⟨_, located_eq hrange, ?_⟩
        refine Option.bind_eq_some_iff.2 ⟨_, signed?_eq (by omega) (by omega), ?_⟩
        refine Option.bind_eq_some_iff.2 ⟨_, signed?_eq (by omega) (by omega), ?_⟩
        refine Option.bind_eq_some_iff.2 ⟨_, roundHalfUp_eq hrange (by omega), ?_⟩
        refine Option.bind_eq_some_iff.2 ⟨_, digitChars_eq hdigits, ?_⟩
        exact Option.bind_eq_some_iff.2 ⟨_, insertPoint_eq (by omega) (by omega), rfl⟩
      · exact plain_eq _

/-- Laying out significant digits has a result, in any of the three forms. -/
theorem preciseText_eq {digits : List Nat} {count : Nat} (hlength : digits.length = count)
    (hpos : 0 < count) (hcount : count ≤ 100) {exponent : Int} (hlow : -331 ≤ exponent)
    (hhigh : exponent ≤ 310) : preciseText (chars digits) count exponent =
      some (if exponent < -6 ∨ (count : Int) ≤ exponent then
          Numeral.scientific (chars digits) exponent
        else if 0 ≤ exponent then
          (chars digits).take (exponent.toNat + 1) ++
            if ((chars digits).drop (exponent.toNat + 1)).isEmpty then []
            else '.' :: (chars digits).drop (exponent.toNat + 1)
        else '0' :: '.' :: zeros (-exponent - 1).toNat ++ chars digits) := by
  have hne : digits ≠ [] := List.ne_nil_of_length_pos (by omega)
  have hchars : (chars digits).length = digits.length := List.length_map _
  unfold preciseText
  rw [signed?_eq (by omega) (by omega)]
  dsimp only [Option.bind_eq_bind, Option.bind_some]
  split
  · exact scientific_eq hne (by omega)
  · split
    · refine Option.bind_eq_some_iff.2 ⟨_, index?_eq_toNat (by omega) (by omega), ?_⟩
      refine Option.bind_eq_some_iff.2 ⟨_, index?_natCast (by omega), ?_⟩
      exact Option.bind_eq_some_iff.2
        ⟨_, splitAt?_of_ascii utf8Size_of_mem_chars (by omega), rfl⟩
    · refine Option.bind_eq_some_iff.2 ⟨_, signed?_eq (by omega) (by omega), ?_⟩
      refine Option.bind_eq_some_iff.2 ⟨_, signed?_eq (by omega) (by omega), ?_⟩
      exact Option.bind_eq_some_iff.2 ⟨_, index?_eq_toNat (by omega) (by omega), rfl⟩

/-- The checked text of a number with significant digits is that text, whatever number of digits is
asked for. -/
theorem precise_eq (number : Binary64) (precision : Nat) :
    precise number precision = some (Numeral.precise number precision) := by
  cases number with
  | nan | infinity => rfl
  | finite negative magnitude =>
      have hlength := length_significantDigits magnitude (max 1 (min precision 100))
      obtain ⟨hlow, hhigh⟩ := exponent_significantDigits magnitude (max 1 (min precision 100))
      unfold precise
      dsimp only
      refine Option.bind_eq_some_iff.2 ⟨_, significantDigits_eq magnitude (by omega), ?_⟩
      refine Option.bind_eq_some_iff.2 ⟨_, digitChars_eq (lt_of_mem_significantDigits _ _), ?_⟩
      refine Option.bind_eq_some_iff.2
        ⟨_, preciseText_eq hlength (by omega) (by omega) hlow hhigh, congrArg some ?_⟩
      unfold Numeral.precise
      dsimp only
      split
      · rfl
      · split
        · exact (List.append_assoc _ _ _).symm
        · exact (List.append_assoc _ _ _).symm

end Numbering.Checked
