import Numbering.Proofs.Binary64.Nearness
import Numbering.Proofs.Decimal.HalfUp

/-!
# The shortest expansions that read back

Among the expansions that are rounded to a magnitude, `Decimal.shortest` is one with the fewest
digits, and no other one with as many digits is nearer to the magnitude
(`Decimal.isShortest_shortest`). What is rounded to a magnitude is an interval around it, so an
expansion with some number of digits can be replaced by a neighbour of the magnitude on the grid
with that many digits; and the grid with seventeen digits is so fine that one of the two neighbours
there is always rounded to the magnitude.
-/

namespace Numbering

open Digits

/-- A search for the first success finds nothing before it. -/
theorem exists_of_findSome?_range {α : Type} {test : Nat → Option α} {limit : Nat} {found : α}
    (hfound : (List.range limit).findSome? test = some found) :
    ∃ count < limit, test count = some found ∧ ∀ other < count, test other = none := by
  obtain ⟨front, count, back, hrange, hcount, hfront⟩ := List.findSome?_eq_some_iff.1 hfound
  have hlimit : front.length < limit := by
    have hlength := congrArg List.length hrange
    rw [List.length_range, List.length_append, List.length_cons] at hlength
    omega
  have hplace : ∀ index : Nat, (List.range limit)[index]? = (front ++ count :: back)[index]? :=
    fun index ↦ by rw [hrange]
  have hcountPlace : count = front.length := by
    have hget := hplace front.length
    rw [List.getElem?_range hlimit, List.getElem?_append_right le_rfl, Nat.sub_self] at hget
    exact (Option.some.inj hget).symm
  subst hcountPlace
  refine ⟨_, hlimit, hcount, fun other hother ↦ hfront other ?_⟩
  have hget := hplace other
  rw [List.getElem?_range (hother.trans hlimit), List.getElem?_append_left hother] at hget
  exact List.mem_of_getElem? hget.symm

namespace Decimal

/-- The expansion is rounded to the magnitude, with the fewest digits that an expansion can have
for this, and it is as near to the magnitude as any other one with this number of digits. -/
structure IsShortest (magnitude : Magnitude) (decimal : Decimal) : Prop where
  digits : ∀ digit ∈ decimal.digits, digit < 10
  first : decimal.digits.head? ≠ some 0
  last : decimal.digits.getLast? ≠ some 0
  readsBack : Binary64.roundMagnitude? decimal.toRat = some magnitude
  fewest : ∀ other : Decimal, (∀ digit ∈ other.digits, digit < 10) →
    Binary64.roundMagnitude? other.toRat = some magnitude →
      decimal.digits.length ≤ other.digits.length
  nearest : ∀ other : Decimal, (∀ digit ∈ other.digits, digit < 10) →
    Binary64.roundMagnitude? other.toRat = some magnitude →
      other.digits.length = decimal.digits.length →
        |decimal.toRat - magnitude.toRat| ≤ |other.toRat - magnitude.toRat|

variable {halfway : HalfwayRule} {magnitude : Magnitude}

/-! ## Grids -/

section Grid

variable {unit : Rat} {multiple : Nat}

/-- The distance of a multiple of the unit is the distance of the factors, scaled. -/
theorem abs_mul_sub (hunit : 0 < unit) :
    |(multiple : Rat) * unit - magnitude.toRat| =
      |(multiple : Rat) - magnitude.toRat / unit| * unit := by
  rw [← abs_of_pos hunit, ← abs_mul, abs_of_pos hunit, sub_mul, div_mul_cancel₀ _ hunit.ne']

/-- If one of the two neighbours on a grid reads back, then the nearest one that does is found. -/
theorem exists_nearestOnGrid?_of_neighbour (hunit : 0 < unit) {below : Nat}
    (hfloor : (magnitude.toRat / unit).floor = below)
    (hneighbour : multiple = below ∨ multiple = below + 1)
    (hreads : readsBack magnitude unit multiple = true) :
    ∃ found, nearestOnGrid? halfway magnitude unit = some found ∧
      |(found : Rat) * unit - magnitude.toRat| ≤ |(multiple : Rat) * unit - magnitude.toRat| := by
  have hlow : (below : Rat) ≤ magnitude.toRat / unit := by
    exact_mod_cast hfloor ▸ Rat.floor_le (magnitude.toRat / unit)
  have hhigh : magnitude.toRat / unit < below + 1 := by
    exact_mod_cast hfloor ▸ Rat.lt_floor_add_one (magnitude.toRat / unit)
  have hbelow : |(below : Rat) - magnitude.toRat / unit| = magnitude.toRat / unit - below := by
    rw [abs_sub_comm, abs_of_nonneg (sub_nonneg.2 hlow)]
  have habove : |((below + 1 : Nat) : Rat) - magnitude.toRat / unit| =
      below + 1 - magnitude.toRat / unit := by
    rw [abs_of_nonneg (by push_cast; linarith), Nat.cast_add_one]
  simp only [abs_mul_sub hunit, mul_le_mul_iff_of_pos_right hunit]
  unfold nearestOnGrid?
  dsimp only
  rw [hfloor, Int.toNat_natCast]
  split
  · rename_i hnotBelow hnotAbove
    rcases hneighbour with rfl | rfl
    · rw [hnotBelow] at hreads
      cases hreads
    · rw [hnotAbove] at hreads
      cases hreads
  · rename_i hnotAbove
    rcases hneighbour with rfl | rfl
    · exact ⟨_, rfl, le_rfl⟩
    · rw [hnotAbove] at hreads
      cases hreads
  · rename_i hnotBelow _
    rcases hneighbour with rfl | rfl
    · rw [hnotBelow] at hreads
      cases hreads
    · exact ⟨_, rfl, le_rfl⟩
  · -- Both read back, and the nearer one is taken.
    have hnearer : ∀ {found : Nat},
        |(found : Rat) - magnitude.toRat / unit| ≤ |(below : Rat) - magnitude.toRat / unit| →
        |(found : Rat) - magnitude.toRat / unit| ≤
          |((below + 1 : Nat) : Rat) - magnitude.toRat / unit| →
        |(found : Rat) - magnitude.toRat / unit| ≤ |(multiple : Rat) - magnitude.toRat / unit| := by
      rcases hneighbour with rfl | rfl
      · exact fun hnear _ ↦ hnear
      · exact fun _ hnear ↦ hnear
    split
    · exact ⟨_, rfl, hnearer le_rfl (by rw [hbelow, habove]; linarith)⟩
    · split
      · exact ⟨_, rfl, hnearer (by rw [hbelow, habove]; linarith) le_rfl⟩
      · have hequal : |((below + 1 : Nat) : Rat) - magnitude.toRat / unit| =
            |(below : Rat) - magnitude.toRat / unit| := by
          rw [hbelow, habove]
          linarith
        cases halfway with
        | up => exact ⟨_, rfl, hnearer hequal.le le_rfl⟩
        | even =>
            dsimp only
            split
            · exact ⟨_, rfl, hnearer le_rfl hequal.ge⟩
            · exact ⟨_, rfl, hnearer hequal.le le_rfl⟩

/-- What is found on a grid is a neighbour of the magnitude. -/
theorem nearestOnGrid?_cases (hfound : nearestOnGrid? halfway magnitude unit = some multiple) :
    multiple = (magnitude.toRat / unit).floor.toNat ∨
      multiple = (magnitude.toRat / unit).floor.toNat + 1 := by
  unfold nearestOnGrid? at hfound
  dsimp only at hfound
  grind

/-- If a multiple of the unit reads back, then one is found that is no farther away. -/
theorem exists_nearestOnGrid? (hunit : 0 < unit) (hsignificand : magnitude.significand ≠ 0)
    (hround : Binary64.roundMagnitude? ((multiple : Rat) * unit) = some magnitude) :
    ∃ found, nearestOnGrid? halfway magnitude unit = some found ∧
      |(found : Rat) * unit - magnitude.toRat| ≤ |(multiple : Rat) * unit - magnitude.toRat| := by
  have hmagnitude := Magnitude.toRat_pos hsignificand
  obtain ⟨below, hfloor⟩ : ∃ below : Nat, (magnitude.toRat / unit).floor = below :=
    Int.eq_ofNat_of_zero_le
      (Rat.le_floor_iff.2 (by exact_mod_cast (div_nonneg hmagnitude.le hunit.le)))
  have hlow : (below : Rat) * unit ≤ magnitude.toRat := by
    rw [← le_div_iff₀ hunit]
    exact_mod_cast hfloor ▸ Rat.floor_le (magnitude.toRat / unit)
  have hhigh : magnitude.toRat ≤ ((below + 1 : Nat) : Rat) * unit := by
    rw [← div_le_iff₀ hunit]
    exact_mod_cast (hfloor ▸ Rat.lt_floor_add_one (magnitude.toRat / unit)).le
  have hpos : 0 < (multiple : Rat) * unit :=
    Binary64.pos_of_roundMagnitude? (mul_nonneg (Nat.cast_nonneg _) hunit.le) hsignificand hround
  -- The neighbour on the same side lies between the multiple and the magnitude.
  rcases Nat.lt_or_ge below multiple with hmore | hless
  · have hmultiple : ((below + 1 : Nat) : Rat) * unit ≤ multiple * unit :=
      mul_le_mul_of_nonneg_right (by exact_mod_cast hmore) hunit.le
    have hreads : readsBack magnitude unit (below + 1) = true :=
      decide_eq_true (Binary64.roundMagnitude?_of_between hpos hsignificand hround
        (.inr ⟨hhigh, hmultiple⟩))
    obtain ⟨found, hfound, hnear⟩ :=
      @exists_nearestOnGrid?_of_neighbour halfway _ _ _ hunit _ hfloor (.inr rfl) hreads
    refine ⟨found, hfound, hnear.trans ?_⟩
    rw [abs_of_nonneg (by linarith), abs_of_nonneg (by linarith)]
    linarith
  · have hmultiple : (multiple : Rat) * unit ≤ below * unit :=
      mul_le_mul_of_nonneg_right (by exact_mod_cast hless) hunit.le
    have hreads : readsBack magnitude unit below = true :=
      decide_eq_true (Binary64.roundMagnitude?_of_between hpos hsignificand hround
        (.inl ⟨hmultiple, hlow⟩))
    obtain ⟨found, hfound, hnear⟩ :=
      @exists_nearestOnGrid?_of_neighbour halfway _ _ _ hunit _ hfloor (.inl rfl) hreads
    refine ⟨found, hfound, hnear.trans ?_⟩
    rw [abs_of_nonpos (by linarith), abs_of_nonpos (by linarith)]
    linarith

end Grid

/-! ## Expansions and grids -/

/-- On a grid no more digits are found than the grid has. -/
theorem length_of_nearestOnGrid? {count multiple : Nat}
    (hfound : nearestOnGrid? halfway magnitude
      (powerOfTen ((ofMagnitude magnitude).point - (count + 1 : Nat))) = some multiple) :
    (dropTrailingZeros (ofNat 10 multiple)).length ≤ count + 1 := by
  have hunit := powerOfTen_pos ((ofMagnitude magnitude).point - (count + 1 : Nat))
  have hhigh : magnitude.toRat < 10 ^ (ofMagnitude magnitude).point := by
    rw [← toRat_ofMagnitude]
    exact toRat_lt _ fun _ ↦ lt_of_mem_digits_ofMagnitude
  have hfloor : (magnitude.toRat /
      powerOfTen ((ofMagnitude magnitude).point - (count + 1 : Nat))).floor <
        (10 ^ (count + 1) : Nat) := by
    rw [Rat.floor_lt_iff, div_lt_iff₀ hunit, Int.cast_natCast, ← powerOfTen_add, powerOfTen_eq,
      Int.sub_add_cancel]
    exact hhigh
  have hle : multiple ≤ 10 ^ (count + 1) := by
    have hneighbour := nearestOnGrid?_cases hfound
    have hpower : 0 < 10 ^ (count + 1) := Nat.pow_pos (by decide)
    omega
  rcases hle.lt_or_eq with hlt | rfl
  · exact (length_dropTrailingZeros_le _).trans (length_ofNat_le (by omega) hlt)
  · have hdigits := @ofNat_mul_pow 10 1 (by decide) (by decide) (count + 1)
    rw [Nat.one_mul] at hdigits
    rw [hdigits, dropTrailingZeros_append_zeros]
    exact (length_dropTrailingZeros_le _).trans ((length_ofNat_le (by omega) (by omega)).trans
      (by omega : 1 ≤ count + 1))

section Digits

variable (hsignificand : magnitude.significand ≠ 0)

include hsignificand

/-- An expansion that reads back can be replaced by a multiple on the grid with as many digits, or
with more. -/
theorem exists_multiple {other : Decimal} (hdigits : ∀ digit ∈ other.digits, digit < 10)
    (hround : Binary64.roundMagnitude? other.toRat = some magnitude) {count : Nat}
    (hcount : other.digits.length ≤ count + 1) :
    ∃ multiple : Nat,
      Binary64.roundMagnitude? ((multiple : Rat) *
        powerOfTen ((ofMagnitude magnitude).point - (count + 1 : Nat))) = some magnitude ∧
      |(multiple : Rat) * powerOfTen ((ofMagnitude magnitude).point - (count + 1 : Nat)) -
        magnitude.toRat| ≤ |other.toRat - magnitude.toRat| := by
  have hmagnitude := zpow_le_toRat_ofMagnitude hsignificand
  rcases le_or_gt ((10 : Rat) ^ ((ofMagnitude magnitude).point - 1)) other.toRat with hlow | hlow
  · -- The last place of the expansion is no smaller than the unit of the grid.
    have hpoint := (zpow_lt_zpow_iff_right₀ (by norm_num)).1
      (hlow.trans_lt (toRat_lt other hdigits))
    obtain ⟨places, hplaces⟩ : ∃ places : Nat, other.point - (other.digits.length : Int) =
        (ofMagnitude magnitude).point - (count + 1 : Nat) + places :=
      ⟨(other.point - other.digits.length -
        ((ofMagnitude magnitude).point - (count + 1 : Nat))).toNat, by omega⟩
    have hsame : ((toNat 10 other.digits * 10 ^ places : Nat) : Rat) *
        powerOfTen ((ofMagnitude magnitude).point - (count + 1 : Nat)) = other.toRat := by
      rw [toRat, hplaces, powerOfTen_add, Nat.cast_mul, mul_assoc]
    exact ⟨_, by rw [hsame, hround], by rw [hsame]⟩
  · -- The power of ten in front of the magnitude is on every grid, and nearer.
    have hpower : ((10 ^ count : Nat) : Rat) *
        powerOfTen ((ofMagnitude magnitude).point - (count + 1 : Nat)) =
          10 ^ ((ofMagnitude magnitude).point - 1) := by
      rw [← powerOfTen_add, powerOfTen_eq]
      congr 1
      omega
    have hpos := Binary64.pos_of_roundMagnitude? (toRat_nonneg other) hsignificand hround
    refine ⟨10 ^ count, ?_, ?_⟩
    · rw [hpower]
      exact Binary64.roundMagnitude?_of_between hpos hsignificand hround
        (.inl ⟨hlow.le, hmagnitude⟩)
    · rw [hpower, abs_of_nonpos (by linarith), abs_of_nonpos (by linarith)]
      linarith

/-- On the grid with seventeen digits one neighbour of the magnitude reads back. -/
theorem nearestOnGrid?_seventeen :
    nearestOnGrid? halfway magnitude (powerOfTen ((ofMagnitude magnitude).point - 17)) ≠ none := by
  have hlow := zpow_le_toRat_ofMagnitude hsignificand
  have hunit := powerOfTen_pos ((ofMagnitude magnitude).point - 17)
  have hnearest := abs_nearestUp_mul_sub_le (Magnitude.toRat_pos hsignificand).le hunit
  have hround : Binary64.roundMagnitude?
      ((nearestUp (magnitude.toRat / powerOfTen ((ofMagnitude magnitude).point - 17)) : Rat) *
        powerOfTen ((ofMagnitude magnitude).point - 17)) = some magnitude := by
    apply Binary64.roundMagnitude?_of_near
    calc 2 * 10 ^ 16 * |(nearestUp (magnitude.toRat /
            powerOfTen ((ofMagnitude magnitude).point - 17)) : Rat) *
              powerOfTen ((ofMagnitude magnitude).point - 17) - magnitude.toRat|
        ≤ 2 * 10 ^ 16 * (powerOfTen ((ofMagnitude magnitude).point - 17) / 2) := by gcongr
      _ = (10 ^ 16 : Nat) * powerOfTen ((ofMagnitude magnitude).point - 17) := by
          push_cast
          ring
      _ = 10 ^ ((ofMagnitude magnitude).point - 1) := by
          rw [← powerOfTen_add, powerOfTen_eq]
          congr 1
          omega
      _ ≤ magnitude.toRat := hlow
  obtain ⟨found, hfound, -⟩ := @exists_nearestOnGrid? halfway _ _ _ hunit hsignificand hround
  rw [hfound]
  exact Option.some_ne_none found

/-- The shortest expansion is what is found on the first grid on which anything is found. -/
theorem exists_shortest_eq : ∃ count multiple,
    nearestOnGrid? halfway magnitude
      (powerOfTen ((ofMagnitude magnitude).point - (count + 1 : Nat))) = some multiple ∧
    (∀ other < count, nearestOnGrid? halfway magnitude
      (powerOfTen ((ofMagnitude magnitude).point - (other + 1 : Nat))) = none) ∧
    shortest halfway magnitude =
      ⟨dropTrailingZeros (ofNat 10 multiple),
        (ofScaled multiple ((ofMagnitude magnitude).point - (count + 1 : Nat))).point⟩ := by
  unfold shortest
  dsimp only
  cases hfound : (List.range 17).findSome? fun count ↦
      (nearestOnGrid? halfway magnitude
        (powerOfTen ((ofMagnitude magnitude).point - (count + 1 : Nat)))).map fun multiple ↦
          (⟨dropTrailingZeros
              (ofScaled multiple ((ofMagnitude magnitude).point - (count + 1 : Nat))).digits,
            (ofScaled multiple ((ofMagnitude magnitude).point - (count + 1 : Nat))).point⟩ :
              Decimal) with
  | none =>
      have hnone := List.findSome?_eq_none_iff.1 hfound 16 (List.mem_range.2 (by decide))
      exact absurd (Option.map_eq_none_iff.1 hnone) (nearestOnGrid?_seventeen hsignificand)
  | some decimal =>
      obtain ⟨count, -, hcount, hothers⟩ := exists_of_findSome?_range hfound
      obtain ⟨multiple, hmultiple, rfl⟩ := Option.map_eq_some_iff.1 hcount
      exact ⟨count, multiple, hmultiple, fun other hother ↦
        Option.map_eq_none_iff.1 (hothers other hother), rfl⟩

/-- The expansion that is found has the fewest digits of all that read back, and no other one with
as many digits is nearer. -/
theorem isShortest_shortest : IsShortest magnitude (shortest halfway magnitude) := by
  obtain ⟨count, multiple, hfound, hothers, hshortest⟩ :=
    @exists_shortest_eq halfway magnitude hsignificand
  have hlength : (shortest halfway magnitude).digits.length ≤ count + 1 := by
    rw [hshortest]
    exact length_of_nearestOnGrid? hfound
  have hvalue : (shortest halfway magnitude).toRat = (multiple : Rat) *
      powerOfTen ((ofMagnitude magnitude).point - (count + 1 : Nat)) := by
    rw [hshortest, toRat_dropTrailingZeros]
    exact toRat_ofScaled _ _
  refine
    { digits := fun _ ↦ lt_of_mem_digits_shortest
      first := head?_shortest_ne_zero hsignificand
      last := by
        rw [hshortest]
        exact getLast?_dropTrailingZeros _
      readsBack := roundMagnitude?_shortest halfway magnitude
      fewest := ?_
      nearest := ?_ }
  · intro other hdigits hround
    refine hlength.trans (not_lt.1 fun hshorter ↦ ?_)
    -- With fewer digits it would have been found on a grid before.
    have hcount : other.digits.length ≤ other.digits.length - 1 + 1 := by omega
    obtain ⟨smaller, hsmaller, -⟩ := exists_multiple hsignificand hdigits hround hcount
    obtain ⟨early, hearly, -⟩ :=
      @exists_nearestOnGrid? halfway _ _ _ (powerOfTen_pos _) hsignificand hsmaller
    have hpos : 0 < other.digits.length :=
      List.length_pos_iff.2 (ne_nil_of_roundMagnitude? hsignificand hround)
    rw [hothers (other.digits.length - 1) (by omega)] at hearly
    cases hearly
  · intro other hdigits hround hsame
    obtain ⟨nearby, hnearby, hdistance⟩ :=
      exists_multiple hsignificand hdigits hround (hsame.trans_le hlength)
    obtain ⟨nearest, hnearest, hleast⟩ :=
      @exists_nearestOnGrid? halfway _ _ _ (powerOfTen_pos _) hsignificand hnearby
    rw [hfound] at hnearest
    cases hnearest
    rw [hvalue]
    exact hleast.trans hdistance

end Digits

/-! ## The place of the point -/

namespace IsShortest

variable {decimal : Decimal} (hshortest : IsShortest magnitude decimal)

include hshortest

/-- A number other than zero has digits. -/
theorem ne_nil (hsignificand : magnitude.significand ≠ 0) : decimal.digits ≠ [] :=
  ne_nil_of_roundMagnitude? hsignificand hshortest.readsBack

variable (hsignificand : magnitude.significand ≠ 0)

include hsignificand

/-- A power of ten is its own shortest expansion. -/
theorem toRat_eq_of_zpow {exponent : Int} (hvalue : magnitude.toRat = 10 ^ exponent) :
    decimal.toRat = magnitude.toRat := by
  have hone : toRat ⟨[1], exponent + 1⟩ = magnitude.toRat := by
    rw [hvalue, toRat, powerOfTen_eq]
    dsimp only
    rw [toNat_singleton, List.length_singleton, Nat.cast_one, one_mul, Nat.cast_one,
      add_sub_cancel_right]
  have hdigits : ∀ digit ∈ [1], digit < 10 := by simp
  have hround := Binary64.roundMagnitude?_toRat magnitude
  rw [← hone] at hround
  have hlength : [1].length = decimal.digits.length :=
    Nat.le_antisymm (List.length_pos_iff.2 (hshortest.ne_nil hsignificand))
      (hshortest.fewest ⟨[1], exponent + 1⟩ hdigits hround)
  have hnearest := hshortest.nearest ⟨[1], exponent + 1⟩ hdigits hround hlength
  rw [hone, sub_self, abs_zero] at hnearest
  exact sub_eq_zero.1 (abs_nonpos_iff.1 hnearest)

/-- From one up to `10 ^ 22` the point of the shortest expansion is found by comparing the magnitude
itself with powers of ten: these are representable, and rounding does not step over them. -/
theorem lt_point_iff {count : Nat} (hcount : count ≤ 22) :
    (count : Int) < decimal.point ↔ (10 : Rat) ^ count ≤ magnitude.toRat := by
  have hrepresentable := isRepresentable_pow_ten hcount
  rw [Nat.cast_pow, Nat.cast_ofNat] at hrepresentable
  rw [Decimal.lt_point_iff (hshortest.ne_nil hsignificand) hshortest.first hshortest.digits,
    zpow_natCast]
  constructor
  · intro hpower
    exact Binary64.le_toRat_of_roundMagnitude? hrepresentable (by positivity) hpower
      hshortest.readsBack
  · intro hpower
    by_contra hbelow
    -- Only the power itself could have an expansion below it.
    have hle := Binary64.toRat_le_of_roundMagnitude?_of_le hrepresentable (toRat_nonneg _)
      (not_le.1 hbelow).le hshortest.readsBack
    have hvalue : magnitude.toRat = 10 ^ (count : Int) := by
      rw [zpow_natCast]
      exact hle.antisymm hpower
    rw [hshortest.toRat_eq_of_zpow hsignificand hvalue] at hbelow
    exact hbelow hpower

/-- The place of the point can be told from the value. -/
theorem point_le_iff {count : Nat} (hcount : count ≤ 22) :
    decimal.point ≤ count ↔ magnitude.toRat < 10 ^ count := by
  rw [← not_lt, hshortest.lt_point_iff hsignificand hcount, not_le]

/-- The shortest expansion of an integer below `10 ^ 22` ends in front of the point. -/
theorem length_le_point {number : Nat} (hvalue : magnitude.toRat = number)
    (hsmall : number < 10 ^ 22) : (decimal.digits.length : Int) ≤ decimal.point := by
  have hpos : 0 < number := by
    have hmagnitude := Magnitude.toRat_pos hsignificand
    rw [hvalue] at hmagnitude
    exact_mod_cast hmagnitude
  have hlength := length_ofNat_le (by decide) hsmall
  have hsome : 0 < (ofNat 10 number).length := List.length_pos_iff.2 (ofNat_ne_nil 10 number)
  have hround : Binary64.roundMagnitude? (ofScaled number 0).toRat = some magnitude := by
    have hone : powerOfTen 0 = 1 := powerOfTen_eq 0
    rw [toRat_ofScaled, hone, mul_one, ← hvalue, Binary64.roundMagnitude?_toRat]
  have hfewest := hshortest.fewest (ofScaled number 0)
    (fun _ ↦ lt_of_mem_ofNat (by decide)) hround
  have hfirst : (10 : Rat) ^ ((ofNat 10 number).length - 1) ≤ magnitude.toRat := by
    rw [hvalue]
    exact_mod_cast pow_le_of_pos (by decide) hpos
  have hpoint := (hshortest.lt_point_iff hsignificand (by omega)).2 hfirst
  change decimal.digits.length ≤ (ofNat 10 number).length at hfewest
  omega

end IsShortest

end Decimal

end Numbering
