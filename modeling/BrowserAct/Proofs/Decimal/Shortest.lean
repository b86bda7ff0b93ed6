import BrowserAct.Decimal.Shortest
import BrowserAct.Proofs.Decimal.Rounding
import Mathlib.Data.Nat.Cast.Order.Field

/-!
# The fewest digits lie where they should

The shortest decimal of a number is looked for on one grid after the other. On the grid of seventeen
digits there is always one in the interval of the number, so the search finds one, of no more digits.

* **`Scaled.value`** is the number that a decimal stands for.
* **`exists_onGrid`** says that a grid finer than an interval has a hit.
* **`shortest_spec`** says what the shortest decimal of a number is like.
-/

namespace BrowserAct.Decimal

/-! ## Decimals -/

namespace Scaled

/-- The number that a decimal stands for. -/
def value (s : Scaled) : ℚ :=
  s.digits * 10 ^ s.power

theorem ratio_pos (s : Scaled) : 0 < s.ratio.2 := by
  rw [ratio]
  split
  · exact Nat.pow_pos (by decide)
  · exact Nat.one_pos

theorem ratio_eq_value (s : Scaled) : (s.ratio.1 : ℚ) / s.ratio.2 = s.value := by
  rw [ratio, value]
  split
  · rename_i negative
    rw [zpow_of_neg 10 negative]
    simp [div_eq_mul_inv]
  · rename_i nonnegative
    rw [zpow_of_not_neg 10 nonnegative]
    simp

/-- Zeros at the end make no difference. -/
theorem trim_spec (digits : ℕ) (power : ℤ) :
    (trim digits power).value = value ⟨digits, power⟩ ∧ (trim digits power).digits ≤ digits ∧
      (0 < digits → 0 < (trim digits power).digits) := by
  fun_induction trim digits power with
  | case1 digits power zeros ih =>
    obtain ⟨hvalue, hless, hpositive⟩ := ih
    refine ⟨hvalue.trans ?_, by omega, fun _ => hpositive (by omega)⟩
    have hdigits : digits = digits / 10 * 10 := by omega
    rw [value, value]
    conv_rhs => rw [hdigits]
    push_cast
    rw [zpow_add₀ (by norm_num)]
    ring
  | case2 digits power _ => exact ⟨rfl, Nat.le_refl _, id⟩

end Scaled

namespace Binary64

/-! ## Intervals -/

section

variable {i : Interval} (positive : 0 < i.den) {s : Scaled}
include positive

/-- What lies strictly between the ends belongs to an interval. -/
theorem contains_of_lt (above : (i.low : ℚ) / i.den < s.value)
    (below : s.value < (i.high : ℚ) / i.den) : i.contains s = true := by
  have hden : (0 : ℚ) < i.den := by exact_mod_cast positive
  have hratio : (0 : ℚ) < s.ratio.2 := by exact_mod_cast s.ratio_pos
  rw [← s.ratio_eq_value, div_lt_div_iff₀ hden hratio] at above
  rw [← s.ratio_eq_value, div_lt_div_iff₀ hratio hden] at below
  have hlow : i.low * s.ratio.2 < s.ratio.1 * i.den := by exact_mod_cast above
  have hhigh : s.ratio.1 * i.den < i.high * s.ratio.2 := by exact_mod_cast below
  rw [Interval.contains]
  dsimp only
  split <;> simp only [Bool.and_eq_true, decide_eq_true_eq] <;> omega

/-- What belongs to an interval does not lie beyond its upper end. -/
theorem le_of_contains (contained : i.contains s = true) : s.value ≤ (i.high : ℚ) / i.den := by
  have hden : (0 : ℚ) < i.den := by exact_mod_cast positive
  have hratio : (0 : ℚ) < s.ratio.2 := by exact_mod_cast s.ratio_pos
  have hhigh : s.ratio.1 * i.den ≤ i.high * s.ratio.2 := by
    rw [Interval.contains] at contained
    dsimp only at contained
    split at contained <;> simp only [Bool.and_eq_true, decide_eq_true_eq] at contained <;> omega
  rw [← s.ratio_eq_value, div_le_div_iff₀ hratio hden]
  exact_mod_cast hhigh

end

/-! ## Grids -/

/-- The value of an interval in units of a grid. -/
def onUnits (i : Interval) (power : ℤ) : ℕ × ℕ :=
  if power < 0 then (i.value * Nat.pow 10 (-power).toNat, i.den)
  else (i.value, i.den * Nat.pow 10 power.toNat)

/-- In units of a power of ten a number is divided by that power. -/
theorem onUnits_spec {i : Interval} (positive : 0 < i.den) (power : ℤ) :
    0 < (onUnits i power).2 ∧
      ((onUnits i power).1 : ℚ) / (onUnits i power).2 = (i.value : ℚ) / i.den / 10 ^ power := by
  rw [onUnits]
  split
  · rename_i negative
    refine ⟨positive, ?_⟩
    rw [zpow_of_neg 10 negative]
    simp [div_eq_mul_inv]
    ring
  · rename_i nonnegative
    refine ⟨Nat.mul_pos positive (Nat.pow_pos (by decide)), ?_⟩
    rw [zpow_of_not_neg 10 nonnegative]
    simp [div_eq_mul_inv]
    ring

/-- A hit on a grid is one of the two neighbours of the number, and lies in the interval. -/
theorem onGrid_spec {i : Interval} {power : ℤ} {s : Scaled} (hit : i.onGrid power = some s) :
    s.power = power ∧ s.digits ≤ (onUnits i power).1 / (onUnits i power).2 + 1 ∧ 0 < s.digits ∧
      i.contains s = true := by
  rw [Interval.onGrid] at hit
  rw [onUnits]
  generalize (if power < 0 then (i.value * Nat.pow 10 (-power).toNat, i.den)
    else (i.value, i.den * Nat.pow 10 power.toNat)) = units at hit ⊢
  obtain ⟨n, d⟩ := units
  dsimp only at hit ⊢
  grind

/-- A grid has a hit where one of the neighbours lies in the interval. -/
theorem exists_onGrid_of_contains {i : Interval} {power : ℤ}
    (large : 0 < (onUnits i power).1 / (onUnits i power).2)
    (contained : i.contains ⟨(onUnits i power).1 / (onUnits i power).2, power⟩ = true ∨
      i.contains ⟨(onUnits i power).1 / (onUnits i power).2 + 1, power⟩ = true) :
    ∃ s, i.onGrid power = some s := by
  rw [Interval.onGrid]
  rw [onUnits] at large contained
  generalize (if power < 0 then (i.value * Nat.pow 10 (-power).toNat, i.den)
    else (i.value, i.den * Nat.pow 10 power.toNat)) = units at large contained ⊢
  obtain ⟨n, d⟩ := units
  dsimp only at large contained ⊢
  split_ifs <;> grind

/-- **A grid that is finer than an interval has a hit.** If the neighbour below is not in the interval,
then the one above is. -/
theorem exists_onGrid {i : Interval} (positive : 0 < i.den) {power : ℤ}
    (low : (i.low : ℚ) / i.den < (i.value : ℚ) / i.den)
    (high : (i.value : ℚ) / i.den < (i.high : ℚ) / i.den)
    (fine : (10 : ℚ) ^ power < (i.high : ℚ) / i.den - (i.low : ℚ) / i.den)
    (large : (10 : ℚ) ^ power ≤ (i.value : ℚ) / i.den) : ∃ s, i.onGrid power = some s := by
  obtain ⟨hden, hunits⟩ := onUnits_spec positive power
  have hgrid : (0 : ℚ) < 10 ^ power := by positivity
  have hd : (0 : ℚ) < (onUnits i power).2 := by exact_mod_cast hden
  set n := (onUnits i power).1
  set d := (onUnits i power).2
  have hvalue : (i.value : ℚ) / i.den = (n : ℚ) / d * 10 ^ power := by
    rw [hunits, div_mul_cancel₀ _ hgrid.ne']
  -- the number lies between its neighbours
  have hbelow : ((n / d : ℕ) : ℚ) * 10 ^ power ≤ (i.value : ℚ) / i.den := by
    rw [hvalue]
    exact mul_le_mul_of_nonneg_right Nat.cast_div_le hgrid.le
  have habove : (i.value : ℚ) / i.den < ((n / d + 1 : ℕ) : ℚ) * 10 ^ power := by
    rw [hvalue]
    refine mul_lt_mul_of_pos_right ?_ hgrid
    rw [div_lt_iff₀ hd]
    have hfloor : n < (n / d + 1) * d := by
      have hparts := Nat.div_add_mod n d
      have hless := Nat.mod_lt n hden
      rw [Nat.succ_mul, Nat.mul_comm]
      omega
    exact_mod_cast hfloor
  -- the neighbour below is not zero, because the number is at least one step
  have hsome : 0 < n / d := by
    refine Nat.div_pos ?_ hden
    have hone : (1 : ℚ) ≤ (n : ℚ) / d := by
      rw [hunits, le_div_iff₀ hgrid, one_mul]
      exact large
    rw [le_div_iff₀ hd, one_mul] at hone
    exact_mod_cast hone
  refine exists_onGrid_of_contains hsome ?_
  -- one of the two neighbours lies in the interval, as it is wider than a step
  by_cases inside : (i.low : ℚ) / i.den < ((n / d : ℕ) : ℚ) * 10 ^ power
  · exact .inl (contains_of_lt positive inside (lt_of_le_of_lt hbelow high))
  · refine .inr (contains_of_lt positive (lt_trans low habove) ?_)
    have hnext : ((n / d + 1 : ℕ) : ℚ) * 10 ^ power =
        ((n / d : ℕ) : ℚ) * 10 ^ power + 10 ^ power := by
      push_cast
      ring
    rw [Scaled.value, hnext]
    linarith [not_lt.mp inside]

/-! ## The interval of a number -/

/-- A number other than zero has a mantissa. -/
theorem mantissa_pos {x : Binary64} (nonzero : x.isZero = false) : 0 < x.mantissa := by
  rw [isZero, decide_eq_false_iff_not] at nonzero
  rw [mantissa]
  split
  · omega
  · exact Nat.add_pos_left (by decide) _

/-- The interval has a denominator. -/
theorem roundingInterval_pos (x : Binary64) : 0 < x.roundingInterval.den := by
  rw [roundingInterval]
  dsimp only
  split
  · exact Nat.pow_pos (by decide)
  · exact Nat.one_pos

/-- The unit in which the ends of the interval are counted. -/
theorem roundingInterval_unit (x : Binary64) (count : ℕ) :
    ((count * (if x.exponent - 2 < 0 then 1 else Nat.pow 2 (x.exponent - 2).toNat) : ℕ) : ℚ) /
        x.roundingInterval.den = count * 2 ^ x.exponent / 4 := by
  have hquarter : (2 : ℚ) ^ x.exponent / 4 = 2 ^ (x.exponent - 2) := by
    rw [zpow_sub₀ (by norm_num)]
    norm_num
  rw [mul_div_assoc, hquarter, roundingInterval]
  dsimp only
  generalize x.exponent - 2 = e
  -- the scale is a quarter of the unit, in the numerator or in the denominator
  split
  · rename_i negative
    rw [zpow_of_neg 2 negative]
    simp [div_eq_mul_inv]
  · rename_i nonnegative
    rw [zpow_of_not_neg 2 nonnegative]
    simp

/-- In the middle of the interval stands the number. -/
theorem roundingInterval_value (x : Binary64) :
    (x.roundingInterval.value : ℚ) / x.roundingInterval.den = x.value := by
  have hunit := roundingInterval_unit x (4 * x.mantissa)
  rw [value]
  rw [show x.roundingInterval.value = 4 * x.mantissa *
    (if x.exponent - 2 < 0 then 1 else Nat.pow 2 (x.exponent - 2).toNat) from rfl, hunit]
  push_cast
  ring

/-- Its upper end is half a unit above. -/
theorem roundingInterval_high (x : Binary64) :
    (x.roundingInterval.high : ℚ) / x.roundingInterval.den = x.value + 2 ^ x.exponent / 2 := by
  have hunit := roundingInterval_unit x (4 * x.mantissa + 2)
  rw [value]
  rw [show x.roundingInterval.high = (4 * x.mantissa + 2) *
    (if x.exponent - 2 < 0 then 1 else Nat.pow 2 (x.exponent - 2).toNat) from rfl, hunit]
  push_cast
  ring

/-- The interval is wider than the grid of seventeen digits is fine. -/
theorem roundingInterval_low {x : Binary64} (nonzero : x.isZero = false) :
    (x.roundingInterval.low : ℚ) / x.roundingInterval.den < x.value ∧
      (x.roundingInterval.low : ℚ) / x.roundingInterval.den + x.value / 10 ^ 16 <
        x.value + 2 ^ x.exponent / 2 := by
  have hm := mantissa_pos nonzero
  have hless := mantissa_lt x
  have hunit : (0 : ℚ) < 2 ^ x.exponent := by positivity
  have hlow := roundingInterval_unit x
    (if x.mantissa = hiddenBit ∧ x.exponent ≠ -1074 then 4 * x.mantissa - 1 else 4 * x.mantissa - 2)
  rw [show x.roundingInterval.low = (if x.mantissa = hiddenBit ∧ x.exponent ≠ -1074 then
    4 * x.mantissa - 1 else 4 * x.mantissa - 2) *
      (if x.exponent - 2 < 0 then 1 else Nat.pow 2 (x.exponent - 2).toNat) from rfl, hlow, value]
  split
  -- at a power of two the numbers below are closer
  · rename_i power
    have hcount : ((4 * x.mantissa - 1 : ℕ) : ℚ) = 4 * x.mantissa - 1 := by
      rw [Nat.cast_sub (by omega)]
      push_cast
      ring
    have hmantissa : (x.mantissa : ℚ) = 2 ^ 52 := by rw [power.1, hiddenBit_eq]
    rw [hcount, hmantissa]
    constructor <;> nlinarith
  · have hcount : ((4 * x.mantissa - 2 : ℕ) : ℚ) = 4 * x.mantissa - 2 := by
      rw [Nat.cast_sub (by omega)]
      push_cast
      ring
    have hmantissa : (x.mantissa : ℚ) < 2 * 2 ^ 52 := by
      rw [← hiddenBit_eq]
      exact_mod_cast hless
    rw [hcount]
    constructor <;> nlinarith

/-! ## The first digit -/

/-- So many digits are those of a number below that power of ten, and not below the one before. -/
theorem length_toDigits {n : ℕ} (positive : 0 < n) :
    ∃ places, (Nat.toDigits 10 n).length = places + 1 ∧ 10 ^ places ≤ n ∧ n < 10 ^ (places + 1) := by
  obtain ⟨places, hplaces⟩ :=
    Nat.exists_eq_add_one.mpr (Nat.length_toDigits_pos (b := 10) (n := n))
  refine ⟨places, hplaces, ?_, ?_⟩
  · rcases Nat.eq_zero_or_pos places with rfl | some
    · exact positive
    · refine Nat.le_of_not_lt fun less => ?_
      have hshort := (Nat.length_toDigits_le_iff (by decide) some).mpr less
      omega
  · exact (Nat.length_toDigits_le_iff (by decide) (Nat.succ_pos places)).mp (Nat.le_of_eq hplaces)

/-- The first digit of a quotient has the power that it should. -/
theorem leadingPower_spec {num den : ℕ} (hnum : 0 < num) (hden : 0 < den) :
    (10 : ℚ) ^ leadingPower num den ≤ (num : ℚ) / den ∧
      (num : ℚ) / den < 10 ^ (leadingPower num den + 1) := by
  have hnum' : (0 : ℚ) < num := by exact_mod_cast hnum
  have hden' : (0 : ℚ) < den := by exact_mod_cast hden
  rw [leadingPower]
  split
  -- one or more: the digits before the point
  · rename_i large
    obtain ⟨places, hlength, hlow, hhigh⟩ := length_toDigits (Nat.div_pos large hden)
    rw [hlength]
    have hpower : (((places + 1 : ℕ) : ℤ) - 1) = (places : ℤ) := by omega
    rw [hpower, zpow_natCast, le_div_iff₀ hden', div_lt_iff₀ hden']
    have hlow' : 10 ^ places * den ≤ num := (Nat.le_div_iff_mul_le hden).mp hlow
    have hhigh' : num < 10 ^ (places + 1) * den := (Nat.div_lt_iff_lt_mul hden).mp hhigh
    exact ⟨by exact_mod_cast hlow', by exact_mod_cast hhigh'⟩
  -- below one: the places of its inverse, one less where it is a power of ten
  · rename_i small
    have hsmall : num ≤ den := Nat.le_of_not_le small
    obtain ⟨places, hlength, hlow, hhigh⟩ := length_toDigits (Nat.div_pos hsmall hnum)
    rw [hlength]
    dsimp only
    rw [Nat.add_sub_cancel]
    have hlow' : 10 ^ places * num ≤ den := (Nat.le_div_iff_mul_le hnum).mp hlow
    have hhigh' : den < 10 ^ (places + 1) * num := (Nat.div_lt_iff_lt_mul hnum).mp hhigh
    split
    · -- the quotient is a power of ten
      rename_i exact
      have hden : den = 10 ^ places * num :=
        Nat.le_antisymm (Nat.mul_comm num _ ▸ exact) hlow'
      have hquotient : (num : ℚ) / den = 10 ^ (-(places : ℤ)) := by
        rw [hden, zpow_neg, zpow_natCast]
        push_cast
        field_simp
      rw [hquotient]
      exact ⟨le_refl _, zpow_lt_zpow_right₀ (by norm_num) (by omega)⟩
    · rename_i inexact
      have hless : 10 ^ places * num < den := Nat.lt_of_not_le (Nat.mul_comm num _ ▸ inexact)
      have hless' : (10 : ℚ) ^ places * num < den := by exact_mod_cast hless
      have hmore' : (den : ℚ) < 10 ^ (places + 1) * num := by exact_mod_cast hhigh'
      have hpower : -((places + 1 : ℕ) : ℤ) + 1 = -(places : ℤ) := by omega
      rw [hpower, zpow_neg, zpow_neg, zpow_natCast, zpow_natCast, le_div_iff₀ hden',
        div_lt_iff₀ hden', ← div_eq_inv_mul, ← div_eq_inv_mul, div_le_iff₀ (by positivity),
        lt_div_iff₀ (by positivity)]
      exact ⟨by linarith, by linarith⟩

/-! ## The shortest decimal -/

section

variable {x : Binary64} (nonzero : x.isZero = false)
include nonzero

/-- The power of the first digit of a number. -/
theorem leadingPower_value :
    (10 : ℚ) ^ leadingPower x.roundingInterval.value x.roundingInterval.den ≤ x.value ∧
      x.value < 10 ^ (leadingPower x.roundingInterval.value x.roundingInterval.den + 1) := by
  have hsome : 0 < x.roundingInterval.value := by
    have hscale : 0 < (if x.exponent - 2 < 0 then 1 else Nat.pow 2 (x.exponent - 2).toNat) := by
      split
      · exact Nat.one_pos
      · exact Nat.pow_pos (by decide)
    exact Nat.mul_pos (Nat.mul_pos (by decide) (mantissa_pos nonzero)) hscale
  rw [← roundingInterval_value]
  exact leadingPower_spec hsome (roundingInterval_pos x)

/-- There is a hit with seventeen digits, if not with fewer. -/
theorem exists_hit : ∃ s, ((List.range 17).map fun (n : ℕ) =>
    leadingPower x.roundingInterval.value x.roundingInterval.den - n).findSome?
      x.roundingInterval.onGrid = some s := by
  obtain ⟨hlow, hwide⟩ := roundingInterval_low nonzero
  obtain ⟨hleast, -⟩ := leadingPower_value nonzero
  have hpos := roundingInterval_pos x
  have hvalue := roundingInterval_value x
  have hhigh := roundingInterval_high x
  have hunit : (0 : ℚ) < 2 ^ x.exponent := by positivity
  generalize x.roundingInterval = i at *
  generalize leadingPower i.value i.den = lead at *
  have hfine : (10 : ℚ) ^ (lead - 16) ≤ x.value / 10 ^ 16 := by
    rw [zpow_sub₀ (by norm_num)]
    exact div_le_div_of_nonneg_right hleast (by norm_num)
  -- seventeen digits are always enough, as the step is then smaller than the interval
  have hlast : ∃ s, i.onGrid (lead - (16 : ℕ)) = some s := by
    have hcast : lead - ((16 : ℕ) : ℤ) = lead - 16 := rfl
    rw [hcast]
    refine exists_onGrid hpos (hvalue ▸ hlow) ?_ ?_ ?_
    · rw [hvalue, hhigh]
      linarith
    · rw [hhigh]
      linarith
    · rw [hvalue]
      exact le_trans (zpow_le_zpow_right₀ (by norm_num) (by omega)) hleast
  obtain ⟨s, hs⟩ := hlast
  refine Option.isSome_iff_exists.mp (List.findSome?_isSome_iff.mpr ⟨lead - (16 : ℕ), ?_, ?_⟩)
  · exact List.mem_map_of_mem (List.mem_range.mpr (by decide))
  · rw [hs]
    rfl

/-- A hit on one of the seventeen grids has no more than seventeen digits. -/
theorem digits_le_of_hit {n : ℕ} (few : n < 17) {s : Scaled}
    (hit : x.roundingInterval.onGrid
      (leadingPower x.roundingInterval.value x.roundingInterval.den - n) = some s) :
    s.digits ≤ 10 ^ 17 := by
  obtain ⟨-, hmost⟩ := leadingPower_value nonzero
  have hpos := roundingInterval_pos x
  have hvalue := roundingInterval_value x
  generalize x.roundingInterval = i at *
  generalize leadingPower i.value i.den = lead at *
  obtain ⟨-, hdigits, -, -⟩ := onGrid_spec hit
  obtain ⟨hd, hunits⟩ := onUnits_spec hpos (lead - n)
  refine Nat.le_trans hdigits ((Nat.div_lt_iff_lt_mul hd).mpr ?_)
  have hd' : (0 : ℚ) < (onUnits i (lead - n)).2 := by exact_mod_cast hd
  -- the number has less than seventeen places in units of that step
  have hbelow : ((onUnits i (lead - n)).1 : ℚ) / (onUnits i (lead - n)).2 < 10 ^ 17 := by
    rw [hunits, hvalue, div_lt_iff₀ (by positivity)]
    refine lt_of_lt_of_le hmost ?_
    rw [← zpow_natCast, ← zpow_add₀ (by norm_num)]
    exact zpow_le_zpow_right₀ (by norm_num) (by omega)
  rw [div_lt_iff₀ hd'] at hbelow
  exact_mod_cast hbelow

/-- **What the shortest decimal of a number is like**: it has no more than seventeen digits, and lies no
more than half a unit above the number. -/
theorem shortest_spec :
    0 < x.shortest.digits ∧ x.shortest.digits ≤ 10 ^ 17 ∧
      x.shortest.value ≤ x.value + 2 ^ x.exponent / 2 := by
  obtain ⟨s, hs⟩ := exists_hit nonzero
  rw [shortest, hs, Option.getD_some]
  obtain ⟨power, hpower, hit⟩ := List.exists_of_findSome?_eq_some hs
  obtain ⟨n, hn, rfl⟩ := List.mem_map.mp hpower
  obtain ⟨-, -, hnonzero, hcontained⟩ := onGrid_spec hit
  obtain ⟨htrim, hless, hkeeps⟩ := Scaled.trim_spec s.digits s.power
  refine ⟨hkeeps hnonzero, ?_, ?_⟩
  · exact Nat.le_trans hless (digits_le_of_hit nonzero (List.mem_range.mp hn) hit)
  · rw [htrim, ← roundingInterval_high]
    exact le_of_contains (roundingInterval_pos x) hcontained

end

end Binary64

end BrowserAct.Decimal
