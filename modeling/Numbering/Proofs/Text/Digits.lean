import Mathlib.Data.List.Induction
import Numbering.Proofs.Text.Runs

/-!
# Numbers denoted by digits

Digits in sequence denote a number in the usual positional way (`toNat_append`), and zeros denote
zero. The number lies below the power of the base with as many digits (`toNat_lt`), and unless they
start with a zero the digits are those of the number (`ofNat_toNat`); the digits at the end are what
the number leaves when it is divided by a power of the base (`lastDigits_toNat`). A run of decimal
digits that does not start with a zero denotes at least one (`IsRun.one_le_decimalNat`), and the
characters of decimal digits denote what the digits do (`decimalNat_chars`).
-/

namespace Numbering.Digits

/-- Reading goes on from a number that is already read. -/
theorem foldl_eq (base value : Nat) (digits : List Nat) :
    digits.foldl (fun value digit ↦ value * base + digit) value =
      value * base ^ digits.length + toNat base digits := by
  induction digits generalizing value with
  | nil => simp [toNat]
  | cons digit digits ih =>
      rw [toNat, List.foldl_cons, List.foldl_cons, ih, ih (0 * base + digit), List.length_cons,
        Nat.pow_succ']
      simp only [Nat.add_mul, Nat.zero_mul, Nat.zero_add, Nat.mul_assoc, Nat.add_assoc]

/-- Digits are worth as much as there are places behind them. -/
theorem toNat_append (base : Nat) (front back : List Nat) :
    toNat base (front ++ back) = toNat base front * base ^ back.length + toNat base back := by
  rw [toNat, List.foldl_append, foldl_eq]
  rfl

/-- More digits denote at least as much. -/
theorem toNat_le_append {base : Nat} (hbase : 0 < base) (front back : List Nat) :
    toNat base front ≤ toNat base (front ++ back) := by
  rw [toNat_append]
  exact Nat.le_add_right_of_le (Nat.le_mul_of_pos_right _ (Nat.pow_pos hbase))

/-- One digit is its own value. -/
theorem toNat_singleton (base digit : Nat) : toNat base [digit] = digit := by simp [toNat]

/-- The first digit counts in the place of its power of the base. -/
theorem toNat_cons (base digit : Nat) (digits : List Nat) :
    toNat base (digit :: digits) = digit * base ^ digits.length + toNat base digits := by
  rw [← List.singleton_append, toNat_append, toNat_singleton]

/-- Zeros denote zero. -/
theorem toNat_zeros (base count : Nat) : toNat base (List.replicate count 0) = 0 := by
  induction count with
  | zero => rfl
  | succ count ih => rw [List.replicate_succ, toNat_cons, ih, Nat.zero_mul]

/-- A one with zeros behind it denotes a power of the base. -/
theorem toNat_one_zeros (base count : Nat) :
    toNat base (1 :: List.replicate count 0) = base ^ count := by
  rw [toNat_cons, toNat_zeros, List.length_replicate, Nat.one_mul, Nat.add_zero]

/-- A run of digits that does not start with a zero denotes at least one. -/
theorem IsRun.one_le_decimalNat {digits : List Char} (hrun : IsRun digits)
    (hfirst : digits.head? ≠ some '0') : 1 ≤ decimalNat digits := by
  cases digits with
  | nil => exact absurd rfl hrun.ne_nil
  | cons first others =>
      have hlow := (isDigit_iff_toNat.1 (hrun.isDigit first (by simp))).1
      have hcode : first.toNat ≠ 48 := by
        intro heq
        have hzero : first = '0' := Char.toNat_inj.1 heq
        exact hfirst (congrArg some hzero)
      have hpos : 1 ≤ decimalValue first := by
        unfold decimalValue
        omega
      calc 1 ≤ decimalValue first * 10 ^ (others.map decimalValue).length :=
          Nat.mul_pos hpos (Nat.pow_pos (by decide))
        _ ≤ _ := Nat.le_add_right _ _
        _ = decimalNat (first :: others) := (toNat_cons 10 _ _).symm

/-! ## Characters of digits -/

/-- The character of a digit below ten is a digit of this value. -/
theorem character_spec {digit : Nat} (hdigit : digit < 10) :
    IsDigit (character digit) ∧ decimalValue (character digit) = digit := by
  have hall : ∀ d : Fin 10, IsDigit (character d) ∧ decimalValue (character d) = d.1 := by decide
  exact hall ⟨digit, hdigit⟩

section Chars

variable {digits : List Nat} (hdigits : ∀ digit ∈ digits, digit < 10)

include hdigits

/-- The characters of digits are digits. -/
theorem isDigit_of_mem_chars {char : Char} (hchar : char ∈ chars digits) : IsDigit char := by
  obtain ⟨digit, hdigit, rfl⟩ := List.mem_map.1 hchar
  exact (character_spec (hdigits digit hdigit)).1

/-- The values of the characters of digits are the digits. -/
theorem map_decimalValue_chars : (chars digits).map decimalValue = digits := by
  rw [chars, List.map_map]
  exact (List.map_congr_left fun digit hdigit ↦
    (character_spec (hdigits digit hdigit)).2).trans (List.map_id digits)

/-- The characters of digits denote what the digits denote. -/
theorem decimalNat_chars : decimalNat (chars digits) = toNat 10 digits := by
  rw [decimalNat, map_decimalValue_chars hdigits]

end Chars

/-- A numeral is a run of digits. -/
theorem isRun_numeral (value : Nat) : IsRun (numeral value) :=
  ⟨fun hnil ↦ ofNat_ne_nil 10 value (List.map_eq_nil_iff.1 hnil),
    fun _ hchar ↦ isDigit_of_mem_chars (fun _ ↦ lt_of_mem_ofNat (by decide)) hchar⟩

/-- The decimal numeral of a number denotes it. -/
theorem decimalNat_numeral (value : Nat) : decimalNat (numeral value) = value :=
  (decimalNat_chars fun _ ↦ lt_of_mem_ofNat (by decide)).trans (toNat_ofNat 10 value)

/-! ## Bounds -/

/-- Digits have a value below the power of the base with so many places. -/
theorem toNat_lt {base : Nat} {digits : List Nat}
    (hdigits : ∀ digit ∈ digits, digit < base) : toNat base digits < base ^ digits.length := by
  induction digits with
  | nil => exact Nat.one_pos
  | cons digit digits ih =>
      rw [toNat_cons, List.length_cons, Nat.pow_succ']
      have hrest := ih fun other hother ↦ hdigits other (List.mem_cons_of_mem _ hother)
      have hfirst : digit + 1 ≤ base := hdigits digit (by simp)
      calc digit * base ^ digits.length + toNat base digits
          < digit * base ^ digits.length + base ^ digits.length := Nat.add_lt_add_left hrest _
        _ = (digit + 1) * base ^ digits.length := (Nat.succ_mul _ _).symm
        _ ≤ base * base ^ digits.length := Nat.mul_le_mul_right _ hfirst

/-- A front of the digits is what division leaves of the number. -/
theorem toNat_front {base : Nat} {front back : List Nat}
    (hback : ∀ digit ∈ back, digit < base) (hbase : 0 < base) :
    toNat base front = toNat base (front ++ back) / base ^ back.length := by
  rw [toNat_append, Nat.mul_comm, Nat.mul_add_div (Nat.pow_pos hbase),
    Nat.div_eq_of_lt (toNat_lt hback), Nat.add_zero]

/-- A number other than zero reaches the power of the base at its first digit. -/
theorem pow_le_of_pos {base value : Nat} (hbase : 2 ≤ base) (hpos : 0 < value) :
    base ^ ((ofNat base value).length - 1) ≤ value := by
  fun_induction ofNat base value with
  | case1 value atLeast ih =>
      have hquotient : 0 < value / base := Nat.div_pos atLeast.2 (by omega)
      have hlength : 0 < (ofNat base (value / base)).length :=
        List.length_pos_iff.2 (ofNat_ne_nil _ _)
      rw [List.length_append, List.length_singleton, Nat.add_sub_cancel]
      calc base ^ (ofNat base (value / base)).length
          = base ^ ((ofNat base (value / base)).length - 1) * base := by
            rw [← Nat.pow_succ, Nat.succ_eq_add_one, Nat.sub_add_cancel hlength]
        _ ≤ value / base * base := Nat.mul_le_mul_right _ (ih hquotient)
        _ ≤ value := Nat.div_mul_le_self _ _
  | case2 value _ => exact hpos

/-- Digits that reach the power of the base at the first one do not start with a zero. -/
theorem head?_ne_zero {base : Nat} {digits : List Nat} (hdigits : ∀ digit ∈ digits, digit < base)
    (hvalue : base ^ (digits.length - 1) ≤ toNat base digits) : digits.head? ≠ some 0 := by
  intro hzero
  cases digits with
  | nil => cases hzero
  | cons digit digits =>
      obtain rfl : digit = 0 := Option.some.inj hzero
      rw [toNat_cons, Nat.zero_mul, Nat.zero_add, List.length_cons, Nat.add_sub_cancel] at hvalue
      have hbelow := toNat_lt fun other hother ↦ hdigits other (List.mem_cons_of_mem 0 hother)
      exact absurd hvalue (Nat.not_le.2 hbelow)

/-- Digits that do not start with a zero reach the power of the base at the first one. -/
theorem pow_le_toNat {base : Nat} {digits : List Nat} (hne : digits ≠ [])
    (hfirst : digits.head? ≠ some 0) : base ^ (digits.length - 1) ≤ toNat base digits := by
  obtain ⟨first, others, rfl⟩ := List.exists_cons_of_ne_nil hne
  have hpos : 0 < first := Nat.pos_of_ne_zero fun hzero ↦ hfirst (congrArg some hzero)
  rw [toNat_cons, List.length_cons, Nat.add_sub_cancel]
  exact Nat.le_add_right_of_le (Nat.le_mul_of_pos_left _ hpos)

/-! ## Numerals -/

/-- Digits without a superfluous zero in front are the digits of the number they denote. -/
theorem ofNat_toNat {base : Nat} {digits : List Nat} (hbase : 2 ≤ base)
    (hdigits : ∀ digit ∈ digits, digit < base)
    (hfirst : digits.length = 1 ∨ digits ≠ [] ∧ digits.head? ≠ some 0) :
    ofNat base (toNat base digits) = digits := by
  induction digits using List.reverseRecOn with
  | nil => simp at hfirst
  | append_singleton digits last ih =>
      have hlast : last < base := hdigits last (by simp)
      rw [toNat_append_singleton]
      cases digits with
      | nil =>
          rw [ofNat, dif_neg (by simp [toNat]; omega)]
          simp [toNat]
      | cons first others =>
          have hhead : first ≠ 0 := by
            rcases hfirst with hlength | ⟨-, hhead⟩
            · simp at hlength
            · simpa using hhead
          have hfront := ih (fun digit hdigit ↦ hdigits digit (List.mem_append_left _ hdigit))
            (.inr ⟨by simp, by simpa using hhead⟩)
          have hpos : 0 < toNat base (first :: others) := by
            rw [toNat_cons]
            exact Nat.add_pos_left (Nat.mul_pos (Nat.pos_of_ne_zero hhead)
              (Nat.pow_pos (by omega))) _
          have hlong : base ≤ toNat base (first :: others) * base + last :=
            Nat.le_add_right_of_le (Nat.le_mul_of_pos_left base hpos)
          rw [ofNat, dif_pos ⟨hbase, hlong⟩, Nat.mul_comm, Nat.mul_add_div (by omega),
            Nat.div_eq_of_lt hlast, Nat.add_zero, hfront, Nat.mul_add_mod, Nat.mod_eq_of_lt hlast]

/-- The last decimal digits of a number, as many as asked for, with zeros in front where the number
has no more. -/
def lastDigits : Nat → Nat → List Nat
  | 0, _ => []
  | count + 1, value => lastDigits count (value / 10) ++ [value % 10]

/-- There are as many last digits as are asked for. -/
theorem length_lastDigits (count value : Nat) : (lastDigits count value).length = count := by
  induction count generalizing value with
  | zero => rfl
  | succ count ih => rw [lastDigits, List.length_append, ih, List.length_singleton]

/-- The last digits are below ten. -/
theorem lt_of_mem_lastDigits (count value : Nat) :
    ∀ digit ∈ lastDigits count value, digit < 10 := by
  induction count generalizing value with
  | zero => simp [lastDigits]
  | succ count ih =>
      refine List.forall_mem_append.2 ⟨ih (value / 10), ?_⟩
      intro digit hdigit
      rw [List.mem_singleton.1 hdigit]
      omega

/-- The last digits of a number denote what is left of it modulo a power of ten. -/
theorem toNat_lastDigits (count value : Nat) :
    toNat 10 (lastDigits count value) = value % 10 ^ count := by
  induction count generalizing value with
  | zero => exact (Nat.mod_one value).symm
  | succ count ih =>
      rw [lastDigits, toNat_append_singleton, ih, Nat.pow_succ', Nat.mod_mul]
      omega

/-- The last digits of a number are the ones at the end of any digits that denote it. -/
theorem lastDigits_toNat (front : List Nat) {back : List Nat}
    (hback : ∀ digit ∈ back, digit < 10) :
    lastDigits back.length (toNat 10 (front ++ back)) = back := by
  induction back using List.reverseRecOn with
  | nil => rfl
  | append_singleton back last ih =>
      have hlast : last < 10 := hback last (by simp)
      have hothers := ih fun digit hdigit ↦ hback digit (List.mem_append_left _ hdigit)
      rw [← List.append_assoc, toNat_append_singleton, List.length_append, List.length_singleton,
        lastDigits]
      have hquotient : (toNat 10 (front ++ back) * 10 + last) / 10 = toNat 10 (front ++ back) := by
        omega
      have hremainder : (toNat 10 (front ++ back) * 10 + last) % 10 = last := by omega
      rw [hquotient, hremainder, hothers]

/-- A factor of the base is a zero at the end. -/
theorem ofNat_mul_pow {base value : Nat} (hbase : 2 ≤ base) (hvalue : 0 < value) (count : Nat) :
    ofNat base (value * base ^ count) = ofNat base value ++ List.replicate count 0 := by
  induction count with
  | zero => rw [Nat.pow_zero, Nat.mul_one, List.replicate_zero, List.append_nil]
  | succ count ih =>
      have hpos : 0 < value * base ^ count := Nat.mul_pos hvalue (Nat.pow_pos (by omega))
      have hlong : base ≤ value * base ^ count * base := Nat.le_mul_of_pos_left base hpos
      rw [Nat.pow_succ, ← Nat.mul_assoc, ofNat, dif_pos ⟨hbase, hlong⟩,
        Nat.mul_div_cancel _ (by omega), Nat.mul_mod_left, ih, List.append_assoc,
        List.replicate_succ']

/-- The numeral of a number other than zero does not start with a zero. -/
theorem head?_numeral {number : Nat} (hpos : 1 ≤ number) :
    (numeral number).head? ≠ some '0' := by
  have hdigits : ∀ digit ∈ ofNat 10 number, digit < 10 := fun _ ↦ lt_of_mem_ofNat (by decide)
  have hfirst : (ofNat 10 number).head? ≠ some 0 := by
    refine head?_ne_zero hdigits ?_
    rw [toNat_ofNat]
    exact pow_le_of_pos (by decide) hpos
  intro hzero
  rw [numeral, chars, List.head?_map, Option.map_eq_some_iff] at hzero
  obtain ⟨digit, hhead, hcharacter⟩ := hzero
  have hvalue := (character_spec (hdigits digit (List.mem_of_mem_head? hhead))).2
  rw [hcharacter] at hvalue
  rw [← hvalue] at hhead
  exact hfirst hhead

/-- The decimal numeral of a number is the one of the standard library. -/
theorem numeral_eq_toDigits (value : Nat) : numeral value = Nat.toDigits 10 value := by
  have hcharacter : ∀ digit : Fin 10, character digit = Nat.digitChar digit := by decide
  unfold numeral
  fun_induction ofNat 10 value with
  | case1 value hlong ih =>
      rw [Nat.toDigits_of_base_le (by decide) hlong.2, ← ih,
        ← hcharacter ⟨value % 10, Nat.mod_lt _ (by decide)⟩]
      exact List.map_append
  | case2 value hshort =>
      have hsmall : value < 10 := by omega
      rw [Nat.toDigits_of_lt_base hsmall, ← hcharacter ⟨value, hsmall⟩]
      rfl

/-- A number below a power of ten has no more digits than its exponent. -/
theorem length_ofNat_le {value count : Nat} (hcount : 0 < count) (hvalue : value < 10 ^ count) :
    (ofNat 10 value).length ≤ count := by
  have hlength : (ofNat 10 value).length = (numeral value).length := (List.length_map _).symm
  rw [hlength, numeral_eq_toDigits]
  exact (Nat.length_toDigits_le_iff (by decide) hcount).2 hvalue

/-- The text of an integer is a minus sign, if it is below zero, and the numeral of its
magnitude. -/
theorem toList_toString (value : Int) :
    (toString value).toList = (if value < 0 then ['-'] else []) ++ numeral value.natAbs := by
  rw [Int.toString_eq_repr, numeral_eq_toDigits]
  cases value with
  | ofNat number =>
      have hnonneg : ¬ Int.ofNat number < 0 := Int.not_lt.2 (Int.natCast_nonneg number)
      rw [if_neg hnonneg]
      exact String.toList_ofList
  | negSucc number =>
      rw [if_pos (Int.negSucc_lt_zero number)]
      exact String.toList_append.trans (congrArg _ String.toList_ofList)

end Numbering.Digits
