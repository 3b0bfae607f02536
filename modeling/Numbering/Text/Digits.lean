/-!
# Digits and their characters

The digits of a natural number in any base, most significant first and without superfluous zeros,
and the letters that stand for digits above nine. Main facts: the digits of a number denote it
(`toNat_ofNat`), and a digit below the base is read back from its character
(`value?_character`).
-/

namespace Numbering.Digits

/-- The digits of a number, most significant first; zero has the one digit zero. -/
def ofNat (base value : Nat) : List Nat :=
  if _ : 2 ≤ base ∧ base ≤ value then ofNat base (value / base) ++ [value % base]
  else [value]
termination_by value
decreasing_by exact Nat.div_lt_self (by omega) (by omega)

/-- The number that a list of digits denotes. -/
def toNat (base : Nat) (digits : List Nat) : Nat :=
  digits.foldl (fun value digit ↦ value * base + digit) 0

/-- The character of a digit up to 35; `0` stands in for the greater ones. -/
def character (digit : Nat) : Char :=
  if digit < 10 then Char.ofNat (48 + digit)
  else if digit < 36 then Char.ofNat (87 + digit)
  else '0'

/-- The digit below the base that a character stands for; letters count in either case. -/
def value? (base : Nat) (char : Char) : Option Nat :=
  let code := char.toNat
  let digit? :=
    if 48 ≤ code ∧ code ≤ 57 then some (code - 48)
    else if 97 ≤ code ∧ code ≤ 122 then some (code - 87)
    else if 65 ≤ code ∧ code ≤ 90 then some (code - 55)
    else none
  digit?.filter (· < base)

/-- The character is one of the ten decimal digits. -/
def isDecimal (char : Char) : Bool := 48 ≤ char.toNat ∧ char.toNat ≤ 57

/-- The value of a decimal digit character. -/
def decimalValue (char : Char) : Nat := char.toNat - 48

/-- The number that a run of decimal digit characters denotes. -/
def decimalNat (chars : List Char) : Nat := toNat 10 (chars.map decimalValue)

/-- The characters of a list of digits. -/
def chars (digits : List Nat) : List Char := digits.map character

/-- The decimal numeral of a natural number. -/
def numeral (value : Nat) : List Char := chars (ofNat 10 value)

/-- The decimal numeral of a natural number, as a string. -/
def text (value : Nat) : String := String.ofList (numeral value)

/-- The greatest number that may be written in a template, `2 ^ 64 - 1`. -/
def greatestCount : Nat := 18446744073709551615

/-- The number that a run of decimal digit characters denotes, unless it is too great. -/
def count? (chars : List Char) : Option Nat :=
  let value := decimalNat chars
  if value ≤ greatestCount then some value else none

/-- One more digit at the end. -/
theorem toNat_append_singleton (base : Nat) (digits : List Nat) (digit : Nat) :
    toNat base (digits ++ [digit]) = toNat base digits * base + digit := by
  simp [toNat]

/-- The digits of a number denote it. -/
theorem toNat_ofNat (base value : Nat) : toNat base (ofNat base value) = value := by
  fun_induction ofNat base value with
  | case1 value atLeast ih => rw [toNat_append_singleton, ih, Nat.div_add_mod']
  | case2 value _ => simp [toNat]

/-- There is always at least one digit. -/
theorem ofNat_ne_nil (base value : Nat) : ofNat base value ≠ [] := by
  unfold ofNat
  split <;> simp

/-- Every digit is below the base. -/
theorem lt_of_mem_ofNat {base value digit : Nat} (hbase : 2 ≤ base)
    (hdigit : digit ∈ ofNat base value) : digit < base := by
  fun_induction ofNat base value with
  | case1 value atLeast ih =>
      rcases List.mem_append.1 hdigit with hfront | hlast
      · exact ih hfront
      · rw [List.mem_singleton.1 hlast]
        exact Nat.mod_lt _ (by omega)
  | case2 value hsmall =>
      rw [List.mem_singleton.1 hdigit]
      omega

/-- The character of a digit below a base up to 36 stands for that digit. -/
theorem value?_character {base digit : Nat} (hdigit : digit < base) (hbase : base ≤ 36) :
    value? base (character digit) = some digit := by
  have hsmall : digit < 36 := by omega
  have hall : ∀ d : Fin 36, value? 36 (character d) = some d.1 := by decide
  have hfound := hall ⟨digit, hsmall⟩
  simp only [value?] at hfound ⊢
  revert hfound
  generalize (if 48 ≤ (character digit).toNat ∧ (character digit).toNat ≤ 57 then
      some ((character digit).toNat - 48)
    else if 97 ≤ (character digit).toNat ∧ (character digit).toNat ≤ 122 then
      some ((character digit).toNat - 87)
    else if 65 ≤ (character digit).toNat ∧ (character digit).toNat ≤ 90 then
      some ((character digit).toNat - 55)
    else none) = found
  intro hfound
  cases found with
  | none => simp at hfound
  | some other =>
      simp only [Option.filter_some] at hfound ⊢
      split at hfound
      · cases hfound
        simp [hdigit]
      · simp at hfound

end Numbering.Digits
