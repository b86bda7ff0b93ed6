import BrowserAct.Proofs.Decimal.Shortest
import BrowserAct.Proofs.Json.Lexer

/-!
# The numbers that are read

The reader gathers the digits of a numeral into 64 bits, rounds them, and rounds again when it scales them
by a power of ten. So what it finds may be another number than the one that was written, and what is
written near the greatest number could in the end be refused. It never is: the digits that are written are
the shortest, and these lie close enough to the number.

* **`numberValue?_spec`** says which values are read from numerals.
* **`exists_number`** says that a finite number is read from its text.
-/

namespace BrowserAct.Json

open Decimal (Binary64 isDigit digitsValue digitChars Layout)
open Decimal.Binary64 (roundingLimit halfUnit)

/-! ## Gathered digits -/

theorem zero_fits : 0 < 0x1_0000_0000_0000_0000 := by decide

/-- The significand always fits into 64 bits. -/
theorem Gathered.significand_lt {start : ℕ} (fits : start < 0x1_0000_0000_0000_0000)
    (digits : List Char) : (ofDigits start digits).significand < 0x1_0000_0000_0000_0000 := by
  have hpush {g : Gathered} (fits : g.significand < 0x1_0000_0000_0000_0000) (c : Char) :
      (g.push c).significand < 0x1_0000_0000_0000_0000 := by
    rw [push]
    split
    · rename_i more
      exact more.2
    · exact fits
  have hrun (g : Gathered) (fits : g.significand < 0x1_0000_0000_0000_0000) :
      (digits.foldl push g).significand < 0x1_0000_0000_0000_0000 := by
    induction digits generalizing g with
    | nil => exact fits
    | cons c digits ih => exact ih (g.push c) (hpush fits c)
  exact hrun ⟨start, 0, 0⟩ fits

/-- Digits after a number stay below the next number with as many zeros. -/
theorem ofDigitChars_lt {digits : List Char} (isDigits : ∀ c ∈ digits, isDigit c = true) (start : ℕ) :
    Nat.ofDigitChars 10 digits start < (start + 1) * 10 ^ digits.length := by
  induction digits generalizing start with
  | nil => simp
  | cons c digits ih =>
    obtain ⟨hc, isDigits⟩ := List.forall_mem_cons.mp isDigits
    have hdigit : c.toNat - '0'.toNat ≤ 9 := by
      rw [isDigit, Bool.and_eq_true, decide_eq_true_eq, decide_eq_true_eq] at hc
      exact Nat.sub_le_of_le_add hc.2
    rw [Nat.ofDigitChars_cons, List.length_cons, Nat.pow_succ', ← Nat.mul_assoc]
    refine Nat.lt_of_lt_of_le (ih isDigits _) (Nat.mul_le_mul_right _ ?_)
    omega

/-- Few digits are all gathered. -/
theorem dropped_of_length_le {digits : List Char} (isDigits : ∀ c ∈ digits, isDigit c = true)
    (few : digits.length ≤ 19) : (Gathered.ofDigits 0 digits).dropped = 0 := by
  have hless := ofDigitChars_lt isDigits 0
  have hpower : (0 + 1) * 10 ^ digits.length ≤ 10 ^ 19 := by
    rw [Nat.zero_add, Nat.one_mul]
    exact Nat.pow_le_pow_right (by decide) few
  rw [gathered_of_fits (Nat.lt_trans (Nat.lt_of_lt_of_le hless hpower) (by decide))]

/-! ## Powers of ten -/

/-- The powers of ten that significands are scaled by. -/
theorem power_spec {power : ℕ} (small : power ≤ 308) :
    (Binary64.ofDecimal false 1 power).isFinite = true ∧
      1 ≤ (Binary64.ofDecimal false 1 power).value := by
  have table : ∀ power < 309, (Binary64.ofDecimal false 1 (power : ℕ)).isFinite = true ∧
      (Binary64.ofDecimal false 1 (power : ℕ)).ratio.2 ≤
        (Binary64.ofDecimal false 1 (power : ℕ)).ratio.1 := by
    decide +kernel
  obtain ⟨finite, large⟩ := table power (Nat.lt_succ_of_le small)
  refine ⟨finite, ?_⟩
  rw [← Binary64.ratio_eq_value, le_div_iff₀ (by exact_mod_cast Binary64.ratio_pos _), one_mul]
  exact_mod_cast large

/-- Dividing by powers of ten leaves a finite number finite. -/
theorem isFinite_divideByPowerOfTen {x : Binary64} (finite : x.isFinite = true) (power : ℕ) :
    (divideByPowerOfTen x power).isFinite = true := by
  fun_induction divideByPowerOfTen x power with
  | case1 x power small =>
    obtain ⟨hfinite, hlarge⟩ := power_spec small
    exact Binary64.isFinite_div finite hfinite hlarge
  | case2 x power _ _ => exact finite
  | case3 x power _ _ ih =>
    obtain ⟨hfinite, hlarge⟩ := power_spec (Nat.le_refl 308)
    exact ih (Binary64.isFinite_div finite hfinite hlarge)

/-- Integers of 64 bits are far below the limit of rounding. -/
theorem pow_le_roundingLimit : (2 : ℚ) ^ 64 ≤ roundingLimit := by
  have hunit : (2 : ℚ) ^ 11 ≤ halfUnit := pow_le_pow_right₀ (by norm_num) (by norm_num)
  rw [roundingLimit]
  linarith

/-- A significand is rounded to a finite number. -/
theorem isFinite_significand {significand : ℕ} (fits : significand < 0x1_0000_0000_0000_0000) :
    (Binary64.ofRatio false significand 1).isFinite = true := by
  refine Binary64.isFinite_ofRatio false (lt_of_lt_of_le ?_ pow_le_roundingLimit)
  rw [Nat.cast_one, div_one]
  exact_mod_cast fits

/-- **What is read is finite.** -/
theorem isFinite_of_scaleSignificand? {significand : ℕ} {power : ℤ} {y : Binary64}
    (fits : significand < 0x1_0000_0000_0000_0000)
    (found : scaleSignificand? significand power = some y) : y.isFinite = true := by
  have hfinite := isFinite_significand fits
  rw [scaleSignificand?] at found
  generalize Binary64.ofRatio false significand 1 = x at hfinite found
  dsimp only at found
  -- scaled down in steps, not scaled, or scaled up once with a check
  split at found
  · cases found
    exact isFinite_divideByPowerOfTen hfinite _
  split at found
  · cases found
    exact hfinite
  split at found
  · cases found
  · rename_i nonnegative _ small
    split at found
    · cases found
    rename_i bounded
    cases found
    obtain ⟨p, rfl⟩ := Int.eq_ofNat_of_zero_le (Int.not_lt.mp nonnegative)
    have hsmall : p ≤ 308 := by omega
    obtain ⟨hpower, -⟩ := power_spec hsmall
    exact Binary64.isFinite_of_mul hfinite hpower (by simpa using bounded)

/-! ## What is read -/

/-- The numbers that are read: integers of 64 bits, with or without a sign, and finite numbers. -/
def IsNumber : Json → Prop
  | .integer n => -0x8000_0000_0000_0000 ≤ n ∧ n < 0x1_0000_0000_0000_0000
  | .float x => x.isFinite = true
  | _ => False

/-- The sign does not make a number infinite. -/
theorem isFinite_signed (negative : Bool) {x : Binary64} (finite : x.isFinite = true) :
    (if negative then x.negate else x).isFinite = true := by
  split
  · exact Binary64.isFinite_negate finite
  · exact finite

/-- **A numeral is read as a number.** -/
theorem numberValue?_spec {negative : Bool} {whole : List Char} {fraction : Option (List Char)}
    {exponent : Option ℤ} {value : Json}
    (found : numberValue? negative whole fraction exponent = some value) : IsNumber value := by
  have hhead := Gathered.significand_lt zero_fits whole
  have hscaled {significand : ℕ} {power : ℤ} (fits : significand < 0x1_0000_0000_0000_0000)
      (found : (scaleSignificand? significand power).map
        (fun x => Json.float (if negative then x.negate else x)) = some value) : IsNumber value := by
    obtain ⟨y, hy, rfl⟩ := Option.map_eq_some_iff.mp found
    exact isFinite_signed negative (isFinite_of_scaleSignificand? fits hy)
  rw [numberValue?.eq_def] at found
  dsimp only at found
  -- an integer that fits stays one; everything else is scaled
  split at found
  · split at found
    · exact hscaled hhead found
    split at found
    · cases found
      exact ⟨by omega, by omega⟩
    split at found
    · cases found
      exact isFinite_signed negative (isFinite_significand hhead)
    · cases found
      exact ⟨by omega, by omega⟩
  · exact hscaled (Gathered.significand_lt hhead _) found

/-! ## What is written is read -/

/-- A significand can be scaled up where the product stays below the limit. -/
theorem exists_scaled_of_lt {significand power : ℕ} (small : power ≤ 308)
    (fits : significand < 0x1_0000_0000_0000_0000)
    (below : (Binary64.ofRatio false significand 1).value *
      (Binary64.ofDecimal false 1 power).value < roundingLimit) :
    ∃ y, scaleSignificand? significand power = some y := by
  have hfinite := isFinite_significand fits
  obtain ⟨hpower, -⟩ := power_spec small
  have hproduct := Binary64.isFinite_mul hfinite hpower below
  rw [scaleSignificand?]
  dsimp only
  rw [if_neg (Int.not_lt.mpr (Int.natCast_nonneg power))]
  split
  · exact ⟨_, rfl⟩
  · rw [if_neg (by omega), Binary64.not_isInfinite_of_isFinite hproduct]
    exact ⟨_, rfl⟩

/-- Whether no significand up to a bound is too large for a power of ten. The bound is on the grid, so that
a significand below it is not rounded up beyond it. -/
def Scalable (bound power : ℕ) : Prop :=
  ∃ j < 13, bound % 2 ^ j = 0 ∧ bound < 2 ^ (j + 53) ∧
    bound * (Binary64.ofDecimal false 1 power).ratio.1 <
      (2 ^ 54 - 1) * 2 ^ 970 * (Binary64.ofDecimal false 1 power).ratio.2

instance (bound power : ℕ) : Decidable (Scalable bound power) :=
  inferInstanceAs (Decidable (∃ j < 13, _))

/-- A significand below a bound that can be scaled can be scaled too. -/
theorem exists_scaled_of_le {significand power bound : ℕ} (scalable : Scalable bound power)
    (small : power ≤ 308) (fits : significand < 0x1_0000_0000_0000_0000) (le : significand ≤ bound) :
    ∃ y, scaleSignificand? significand power = some y := by
  obtain ⟨j, -, hgrid, hshort, hbelow⟩ := scalable
  refine exists_scaled_of_lt small fits ?_
  have hbound : bound = bound / 2 ^ j * 2 ^ j := (Nat.div_mul_cancel (Nat.dvd_of_mod_eq_zero hgrid)).symm
  -- rounding the significand does not pass the bound, which is on its grid
  have hvalue : (Binary64.ofRatio false significand 1).value ≤ bound := by
    have hle : (significand : ℚ) / (1 : ℕ) ≤ (bound / 2 ^ j : ℕ) * 2 ^ j := by
      rw [Nat.cast_one, div_one]
      exact_mod_cast hbound ▸ le
    have hless : (significand : ℚ) / (1 : ℕ) < 2 ^ (j + 53) := by
      rw [Nat.cast_one, div_one]
      exact_mod_cast Nat.lt_of_le_of_lt le hshort
    refine (Binary64.value_ofRatio_le false (isFinite_significand fits) hle hless).trans ?_
    exact_mod_cast hbound.ge
  have hpower : (0 : ℚ) < (Binary64.ofDecimal false 1 power).ratio.2 := by
    exact_mod_cast Binary64.ratio_pos _
  have hlimit : (((2 ^ 54 - 1) * 2 ^ 970 : ℕ) : ℚ) = roundingLimit := by
    rw [Nat.cast_mul, Nat.cast_pow, roundingLimit, halfUnit]
    norm_num only
  refine lt_of_le_of_lt (mul_le_mul_of_nonneg_right hvalue (Binary64.value_nonneg _)) ?_
  rw [← Binary64.ratio_eq_value, ← mul_div_assoc, div_lt_iff₀ hpower, ← hlimit]
  exact_mod_cast hbelow

/-- A significand that is not scaled up is never too large. -/
theorem exists_scaled_of_nonpos {significand : ℕ} {power : ℤ} (small : power ≤ 0)
    (fits : significand < 0x1_0000_0000_0000_0000) :
    ∃ y, scaleSignificand? significand power = some y := by
  rcases Int.lt_or_eq_of_le small with negative | rfl
  · rw [scaleSignificand?, if_pos negative]
    exact ⟨_, rfl⟩
  · have hscalable : Scalable (2 ^ 64) 0 := by decide +kernel
    exact exists_scaled_of_le hscalable (by decide) fits (Nat.le_of_lt fits)

/-- Digits that stand for at most the greatest finite number less half a unit can be scaled. -/
theorem exists_scaled_of_shortest {digits power : ℕ} (positive : 0 < digits) (few : digits ≤ 10 ^ 17)
    (below : digits * 10 ^ power ≤ (2 ^ 54 - 3) * 2 ^ 970) :
    ∃ y, scaleSignificand? digits power = some y := by
  -- one bound for each power, checked once for all of them
  have table : ∀ power < 309,
      Scalable (min (10 ^ 17) ((2 ^ 54 - 3) * 2 ^ 970 / 10 ^ power)) power := by
    decide +kernel
  -- a greater power is too large for any digit
  have hsmall : power < 309 := by
    by_contra large
    have hpower := pow_le_pow_right₀ (show 1 ≤ 10 by decide) (Nat.le_of_not_lt large)
    have hless : ¬ 10 ^ 309 ≤ (2 ^ 54 - 3) * 2 ^ 970 := by decide +kernel
    have hone : 10 ^ power ≤ digits * 10 ^ power := Nat.le_mul_of_pos_left _ positive
    exact hless (hpower.trans (hone.trans below))
  have hbound : digits ≤ min (10 ^ 17) ((2 ^ 54 - 3) * 2 ^ 970 / 10 ^ power) :=
    le_min few ((Nat.le_div_iff_mul_le (Nat.pow_pos (by decide))).mpr below)
  exact exists_scaled_of_le (table power hsmall) (Nat.le_of_lt_succ hsmall)
    (Nat.lt_of_le_of_lt few (by decide)) hbound

/-- A numeral without an exponent is read if its whole part is gathered. -/
theorem exists_value_of_whole {n : Numeral} (plain : n.exponent = none)
    (few : n.whole.length ≤ 19) : ∃ value, n.value? = some value := by
  have hcomplete := dropped_of_length_le n.whole_digits.2 few
  have hhead := Gathered.significand_lt zero_fits n.whole
  rw [Numeral.value?, plain, Option.map_none, numberValue?.eq_def]
  dsimp only
  rw [hcomplete]
  cases n.fraction with
  | none =>
    dsimp only
    rw [if_neg (Nat.lt_irrefl 0)]
    split
    · exact ⟨_, rfl⟩
    split <;> exact ⟨_, rfl⟩
  -- a fraction only scales down, which always works
  | some fraction =>
    have hpower : (0 : ℕ) - ((Gathered.ofDigits (Gathered.ofDigits 0 n.whole).significand
        fraction).taken : ℤ) + (none : Option ℤ).getD 0 ≤ 0 := by
      rw [Option.getD_none]
      omega
    obtain ⟨y, hy⟩ := exists_scaled_of_nonpos hpower (Gathered.significand_lt hhead fraction)
    dsimp only
    rw [Option.getD_some, hy]
    exact ⟨_, rfl⟩

/-- A numeral with an exponent is read if its digits are gathered and can be scaled. -/
theorem exists_value_of_exponent {n : Numeral} {digits : ℕ} {lead : ℤ}
    (written : n.whole ++ n.fraction.getD [] = digitChars digits)
    (exponent : n.exponent.map Numeral.power = some lead)
    (fits : digits < 0x1_0000_0000_0000_0000)
    (scaled : ∃ y, scaleSignificand? digits (lead - (n.fraction.getD []).length) = some y) :
    ∃ value, n.value? = some value := by
  have hdigits : Nat.ofDigitChars 10 (n.fraction.getD []) (Nat.ofDigitChars 10 n.whole 0) = digits := by
    rw [← Nat.ofDigitChars_append, written]
    exact digitsValue_digitChars digits
  -- no digit is dropped, because all of them together fit
  have htail := gathered_of_fits (hdigits.trans_lt fits)
  have hhead := gathered_of_fits (lt_of_le_of_lt (le_ofDigitChars (n.fraction.getD [])
    (Nat.ofDigitChars 10 n.whole 0)) (hdigits.trans_lt fits))
  obtain ⟨y, hy⟩ := scaled
  have hpower : (0 : ℕ) - ((n.fraction.getD []).length : ℤ) + (some lead).getD 0 =
      lead - (n.fraction.getD []).length := by
    rw [Option.getD_some]
    omega
  rw [Numeral.value?, exponent, numberValue?.eq_def, hhead]
  dsimp only
  rw [htail, hdigits, hpower, hy]
  cases n.fraction <;> exact ⟨_, rfl⟩

/-! ## The shortest digits are read -/

/-- Half a unit above a magnitude below the greatest is still half a unit below the greatest. -/
theorem value_add_half_unit_le {x : Binary64} (below : x.magnitudeBits < Binary64.infinityBits - 1) :
    x.value + 2 ^ x.exponent / 2 ≤ (2 ^ 54 - 3) * halfUnit := by
  have hunit := Binary64.halfUnit_pos
  have hbit : Binary64.hiddenBit = 2 ^ 52 := by decide
  rw [Binary64.infinityBits] at below
  have hfinite : x.isFinite = true := decide_eq_true (show x.magnitudeBits < 2047 * _ by omega)
  rcases Int.lt_or_eq_of_le (Binary64.exponent_le hfinite) with small | greatest
  · -- a number of a smaller unit is far below
    have hmantissa : (x.mantissa : ℚ) + 1 ≤ 2 ^ 53 := by
      exact_mod_cast (Binary64.mantissa_lt x : x.mantissa + 1 ≤ 2 ^ 53)
    have hexponent : (2 : ℚ) ^ x.exponent ≤ halfUnit := by
      have hdouble : (2 : ℚ) ^ (x.exponent + 1) ≤ 2 ^ (971 : ℤ) :=
        zpow_le_zpow_right₀ (by norm_num) (by omega)
      rw [zpow_add_one₀ (by norm_num), Binary64.two_zpow_greatest] at hdouble
      linarith
    have hhalf : (0 : ℚ) ≤ x.mantissa + 1 / 2 := add_nonneg (Nat.cast_nonneg _) (by norm_num)
    calc x.value + 2 ^ x.exponent / 2 = (x.mantissa + 1 / 2) * 2 ^ x.exponent := by
          rw [Binary64.value]
          ring
      _ ≤ (x.mantissa + 1 / 2) * halfUnit := mul_le_mul_of_nonneg_left hexponent hhalf
      _ ≤ (2 ^ 54 - 3) * halfUnit :=
          mul_le_mul_of_nonneg_right (by linarith) (le_of_lt hunit)
  -- at the greatest exponent the mantissa is not the greatest one
  · have hmantissa : x.mantissa + 2 ≤ 2 ^ 53 := by
      rw [Binary64.exponent, hbit] at greatest
      rw [Binary64.mantissa, hbit]
      rw [hbit] at below
      split at greatest
      · omega
      · rename_i large
        rw [if_neg large]
        omega
    have hmantissa' : (x.mantissa : ℚ) + 2 ≤ 2 ^ 53 := by exact_mod_cast hmantissa
    rw [Binary64.value, greatest, Binary64.two_zpow_greatest]
    calc (x.mantissa : ℚ) * (2 * halfUnit) + 2 * halfUnit / 2 = (2 * x.mantissa + 1) * halfUnit := by
          ring
      _ ≤ (2 ^ 54 - 3) * halfUnit :=
          mul_le_mul_of_nonneg_right (by linarith) (le_of_lt hunit)

/-- The shortest digits of a number below the greatest can be scaled. -/
theorem exists_scaled_shortest {x : Binary64} (nonzero : x.isZero = false)
    (below : x.magnitudeBits < Binary64.infinityBits - 1) :
    ∃ y, scaleSignificand? x.shortest.digits x.shortest.power = some y := by
  obtain ⟨hpositive, hfew, hvalue⟩ := Binary64.shortest_spec nonzero
  rcases Int.le_total x.shortest.power 0 with small | large
  · exact exists_scaled_of_nonpos small (Nat.lt_of_le_of_lt hfew (by decide))
  obtain ⟨p, hp⟩ := Int.eq_ofNat_of_zero_le large
  have hlimit : (((2 ^ 54 - 3) * 2 ^ 970 : ℕ) : ℚ) = (2 ^ 54 - 3) * halfUnit := by
    rw [Nat.cast_mul, Nat.cast_pow, halfUnit]
    norm_num only
  rw [hp]
  refine exists_scaled_of_shortest hpositive hfew ?_
  have hle := hvalue.trans (value_add_half_unit_le below)
  rw [Decimal.Scaled.value, hp, zpow_natCast, ← hlimit] at hle
  exact_mod_cast hle

/-- The two finite numbers of the greatest magnitude. -/
theorem exists_number_greatest {x : Binary64}
    (greatest : x.magnitudeBits = Binary64.infinityBits - 1) :
    ∃ value, number? (numberLayout.write x) = some value := by
  obtain ⟨bits⟩ := x
  have hless := bits.toNat_lt
  have hgreatest : bits.toNat % 0x8000_0000_0000_0000 = 0x7fef_ffff_ffff_ffff := greatest
  have hbits : bits.toNat = 0x7fef_ffff_ffff_ffff ∨ bits.toNat = 0xffef_ffff_ffff_ffff := by omega
  refine Option.isSome_iff_exists.mp ?_
  rcases hbits with positive | negative
  · rw [show bits = 0x7fef_ffff_ffff_ffff from UInt64.toNat_inj.mp positive]
    decide +kernel
  · rw [show bits = 0xffef_ffff_ffff_ffff from UInt64.toNat_inj.mp negative]
    decide +kernel

/-- **A finite number is read from its text.** -/
theorem exists_number {x : Binary64} (finite : x.isFinite = true) :
    ∃ value, number? (numberLayout.write x) = some value := by
  rcases Nat.lt_or_eq_of_le (Nat.le_pred_of_lt (of_decide_eq_true finite)) with below | greatest
  swap
  · exact exists_number_greatest greatest
  rw [Layout.write, ← Numeral.signText]
  split
  · obtain ⟨numeral, htext, hplain, hlength⟩ :=
      exists_numeral_positional x.isNegative (n := 0) (.inr (rfl : (0 : ℤ) = 0))
    rw [← show Layout.positional (digitChars 0) 0 = ['0', '.', '0'] from rfl, htext, number?_text]
    exact exists_value_of_whole hplain (by
      have hzero : (digitChars 0).length = 1 := rfl
      omega)
  · rename_i nonzero
    dsimp only
    -- zero, a number with its point in place, or one with an exponent
    split
    · rename_i positional
      have hlimit : numberLayout.limit = 16 := rfl
      obtain ⟨numeral, htext, hplain, hlength⟩ :=
        exists_numeral_positional x.isNegative (shortest_scaled x)
      rw [htext, number?_text]
      exact exists_value_of_whole hplain (by omega)
    · obtain ⟨numeral, htext, hwritten, hone, hexponent⟩ :=
        exists_numeral_scientific x.isNegative x.shortest.digits
          ((digitChars x.shortest.digits).length - 1 + x.shortest.power)
      obtain ⟨-, hfew, -⟩ := Binary64.shortest_spec (Bool.eq_false_iff.mpr nonzero)
      have hlength := congrArg List.length hwritten
      rw [List.length_append, hone] at hlength
      rw [htext, number?_text]
      refine exists_value_of_exponent hwritten hexponent (Nat.lt_of_le_of_lt hfew (by decide)) ?_
      have hpower : (digitChars x.shortest.digits).length - 1 + x.shortest.power -
          ((numeral.fraction.getD []).length : ℤ) = x.shortest.power := by
        omega
      rw [hpower]
      exact exists_scaled_shortest (Bool.eq_false_iff.mpr nonzero) below

end BrowserAct.Json
