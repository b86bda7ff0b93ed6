import BrowserAct.Decimal.Binary64
import Mathlib.Algebra.Order.Field.Power
import Mathlib.Tactic.FieldSimp
import Mathlib.Tactic.Linarith
import Mathlib.Tactic.NormNum
import Mathlib.Tactic.Positivity
import Mathlib.Tactic.Ring

/-!
# What rounding does to a number

The numbers of the format are counted by the bits of their magnitudes, and `ofRatio` picks one of the two
neighbours of a quotient. Here the result is compared with the quotient itself, over the rationals.

* **`value`** is the magnitude of a finite number.
* **`value_ofRatio_le`** says that rounding passes no number that is on the grid.
* **`isFinite_ofRatio`** says what is rounded to a finite number.
-/

namespace BrowserAct.Decimal

/-! ## Powers

A scale is a quotient of naturals: where the exponent is negative, the power is on the other side. -/

/-- An integer power with a negative exponent as one with a natural exponent. -/
theorem zpow_of_neg (base : ℚ) {e : ℤ} (negative : e < 0) : base ^ e = (base ^ (-e).toNat)⁻¹ := by
  rw [← zpow_natCast, Int.toNat_of_nonneg (by omega), zpow_neg, inv_inv]

theorem zpow_of_not_neg (base : ℚ) {e : ℤ} (nonnegative : ¬ e < 0) : base ^ e = base ^ e.toNat := by
  rw [← zpow_natCast, Int.toNat_of_nonneg (Int.not_lt.mp nonnegative)]

namespace Binary64

/-! ## Values -/

/-- The magnitude of a finite number. -/
def value (x : Binary64) : ℚ :=
  x.mantissa * 2 ^ x.exponent

/-- The value is that of the magnitude, whatever the sign. -/
theorem value_nonneg (x : Binary64) : 0 ≤ x.value := by
  rw [value]
  positivity

theorem ratio_pos (x : Binary64) : 0 < x.ratio.2 := by
  rw [ratio]
  split
  · exact Nat.pow_pos (by decide)
  · exact Nat.one_pos

/-- The quotient of naturals is the value. -/
theorem ratio_eq_value (x : Binary64) : (x.ratio.1 : ℚ) / x.ratio.2 = x.value := by
  rw [ratio, value]
  split
  · rename_i negative
    rw [zpow_of_neg 2 negative]
    simp [div_eq_mul_inv]
  · rename_i nonnegative
    rw [zpow_of_not_neg 2 nonnegative]
    simp

/-! ## One rounding -/

section

variable {num den : ℕ} (positive : 0 < den)
include positive

/-- An integer that is not passed by a quotient is not passed by its rounding. -/
theorem roundHalfEven_le {bound : ℕ} (below : (num : ℚ) / den ≤ bound) :
    roundHalfEven num den ≤ bound := by
  have hnum : num ≤ bound * den := by
    rw [div_le_iff₀ (by exact_mod_cast positive)] at below
    exact_mod_cast below
  have hfloor : num / den ≤ bound := Nat.div_le_of_le_mul (Nat.mul_comm bound den ▸ hnum)
  rw [roundHalfEven]
  split
  · rename_i up
    refine Nat.lt_of_le_of_ne hfloor fun same => ?_
    -- the quotient is the integer itself, and there is nothing to round up
    have hparts := Nat.div_add_mod num den
    rw [same, Nat.mul_comm] at hparts
    omega
  · exact hfloor

/-- Rounding does not fall below a whole number that the quotient reaches. -/
theorem le_roundHalfEven {bound : ℕ} (above : (bound : ℚ) ≤ (num : ℚ) / den) :
    bound ≤ roundHalfEven num den := by
  have hnum : bound * den ≤ num := by
    rw [le_div_iff₀ (by exact_mod_cast positive)] at above
    exact_mod_cast above
  have hfloor : bound ≤ num / den := (Nat.le_div_iff_mul_le positive).mpr hnum
  rw [roundHalfEven]
  split
  · exact Nat.le_succ_of_le hfloor
  · exact hfloor

/-- Rounding up is by half a unit at most. -/
theorem roundHalfEven_le_add_half : (roundHalfEven num den : ℚ) ≤ (num : ℚ) / den + 1 / 2 := by
  have hparts := Nat.div_add_mod num den
  have hless := Nat.mod_lt num positive
  have hdouble : 2 * roundHalfEven num den * den ≤ 2 * num + den := by
    rw [roundHalfEven]
    -- rounded up only where the rest is half the denominator or more
    split
    · rename_i up
      have hrest : den ≤ 2 * (num % den) := by omega
      calc 2 * (num / den + 1) * den = 2 * (den * (num / den)) + 2 * den := by ring
        _ ≤ 2 * num + den := by omega
    · calc 2 * (num / den) * den = 2 * (den * (num / den)) := by ring
        _ ≤ 2 * num + den := by omega
  have hden : (0 : ℚ) < den := by exact_mod_cast positive
  have hdouble' : (2 : ℚ) * roundHalfEven num den * den ≤ 2 * num + den := by exact_mod_cast hdouble
  have hsum : (num : ℚ) / den + 1 / 2 = (2 * num + den) / (2 * den) := by
    field_simp
  rw [hsum, le_div_iff₀ (by linarith)]
  linarith

end

/-! ## The grid of a quotient -/

theorem hiddenBit_eq : (hiddenBit : ℚ) = 2 ^ 52 := by
  rw [hiddenBit]
  norm_num

/-- Scaling keeps the denominator positive. -/
theorem scaleByPowerOfTwo_pos (num : ℕ) {den : ℕ} (positive : 0 < den) (e : ℤ) :
    0 < (scaleByPowerOfTwo num den e).2 := by
  rw [scaleByPowerOfTwo]
  split
  · exact positive
  · exact Nat.mul_pos positive (Nat.pow_pos (by decide))

/-- Scaled, a quotient is divided by the power of two. -/
theorem scaleByPowerOfTwo_eq (num den : ℕ) (e : ℤ) :
    ((scaleByPowerOfTwo num den e).1 : ℚ) / (scaleByPowerOfTwo num den e).2 =
      (num : ℚ) / den / 2 ^ e := by
  rw [scaleByPowerOfTwo]
  split
  · rename_i negative
    rw [zpow_of_neg 2 negative]
    simp [div_eq_mul_inv]
    ring
  · rename_i nonnegative
    rw [zpow_of_not_neg 2 nonnegative]
    simp [div_eq_mul_inv]
    ring

/-- A scaled quotient has less than 53 binary digits where the quotient itself is below that power. -/
theorem scaled_lt_iff (num : ℕ) {den : ℕ} (hden : 0 < den) (e : ℤ) :
    (scaleByPowerOfTwo num den e).1 < (scaleByPowerOfTwo num den e).2 * hiddenBit ↔
      (num : ℚ) / den < 2 ^ (e + 52) := by
  have hscaled := scaleByPowerOfTwo_eq num den e
  have hpos := scaleByPowerOfTwo_pos num hden e
  generalize scaleByPowerOfTwo num den e = scaled at hscaled hpos
  have hd : (0 : ℚ) < scaled.2 := by exact_mod_cast hpos
  have hunit : (0 : ℚ) < 2 ^ e := by positivity
  have hbit : ((scaled.2 * hiddenBit : ℕ) : ℚ) = 2 ^ (52 : ℤ) * scaled.2 := by
    rw [Nat.cast_mul, hiddenBit_eq, mul_comm]
    rfl
  rw [zpow_add₀ (by norm_num), mul_comm ((2 : ℚ) ^ e), ← div_lt_iff₀ hunit, ← hscaled,
    div_lt_iff₀ hd, ← hbit]
  exact Nat.cast_lt.symm

section

variable {num den : ℕ} (hnum : 0 < num) (hden : 0 < den)
include hnum hden

/-- A quotient lies within one binary digit of what the digits of its parts say. -/
theorem quotient_between :
    (2 : ℚ) ^ ((num.log2 : ℤ) - den.log2 - 1) < (num : ℚ) / den ∧
      (num : ℚ) / den < 2 ^ ((num.log2 : ℤ) - den.log2 + 1) := by
  have hden' : (0 : ℚ) < den := by exact_mod_cast hden
  have hnumLow : (2 : ℚ) ^ (num.log2 : ℤ) ≤ num := by
    exact_mod_cast Nat.log2_self_le (Nat.pos_iff_ne_zero.mp hnum)
  have hnumHigh : (num : ℚ) < 2 ^ ((num.log2 : ℤ) + 1) := by
    exact_mod_cast Nat.lt_log2_self (n := num)
  have hdenLow : (2 : ℚ) ^ (den.log2 : ℤ) ≤ den := by
    exact_mod_cast Nat.log2_self_le (Nat.pos_iff_ne_zero.mp hden)
  have hdenHigh : (den : ℚ) < 2 ^ ((den.log2 : ℤ) + 1) := by
    exact_mod_cast Nat.lt_log2_self (n := den)
  -- the least numerator over the greatest denominator, and the other way round
  constructor
  · rw [lt_div_iff₀ hden']
    calc (2 : ℚ) ^ ((num.log2 : ℤ) - den.log2 - 1) * den
        < 2 ^ ((num.log2 : ℤ) - den.log2 - 1) * 2 ^ ((den.log2 : ℤ) + 1) := by gcongr
      _ = 2 ^ (num.log2 : ℤ) := by
        rw [← zpow_add₀ (by norm_num)]
        congr 1
        omega
      _ ≤ num := hnumLow
  · rw [div_lt_iff₀ hden']
    calc (num : ℚ) < 2 ^ ((num.log2 : ℤ) + 1) := hnumHigh
      _ = 2 ^ ((num.log2 : ℤ) - den.log2 + 1) * 2 ^ (den.log2 : ℤ) := by
        rw [← zpow_add₀ (by norm_num)]
        congr 1
        omega
      _ ≤ 2 ^ ((num.log2 : ℤ) - den.log2 + 1) * den := by gcongr

/-- A quotient is rounded to 53 binary digits, or to fewer at the power of the least number. -/
theorem roundingExponent_spec :
    -1074 ≤ roundingExponent num den ∧
      (num : ℚ) / den < 2 ^ (roundingExponent num den + 53) ∧
      (roundingExponent num den = -1074 ∨
        (2 : ℚ) ^ (roundingExponent num den + 52) ≤ (num : ℚ) / den) := by
  obtain ⟨hlow, hhigh⟩ := quotient_between hnum hden
  have hless := scaled_lt_iff num hden ((num.log2 : ℤ) - den.log2 - 52)
  rw [roundingExponent]
  dsimp only
  set guess : ℤ := (num.log2 : ℤ) - den.log2 - 52 with hguess
  generalize scaleByPowerOfTwo num den guess = scaled at hless
  obtain ⟨n, d⟩ := scaled
  dsimp only at hless ⊢
  -- the exponent of 53 digits, whatever the least number is
  have hexact : ∃ e : ℤ, (if n < d * hiddenBit then guess - 1 else guess) = e ∧
      (num : ℚ) / den < 2 ^ (e + 53) ∧ (2 : ℚ) ^ (e + 52) ≤ (num : ℚ) / den := by
    split
    -- one digit too few at the guessed exponent
    · rename_i small
      refine ⟨guess - 1, rfl, ?_, ?_⟩
      · rw [show guess - 1 + 53 = guess + 52 by ring]
        exact hless.mp small
      · rw [show guess - 1 + 52 = (num.log2 : ℤ) - den.log2 - 1 by omega]
        exact hlow.le
    -- the guess was right
    · rename_i large
      refine ⟨guess, rfl, ?_, not_lt.mp fun less => large (hless.mpr less)⟩
      rw [show guess + 53 = (num.log2 : ℤ) - den.log2 + 1 by omega]
      exact hhigh
  obtain ⟨e, he, habove, hbelow⟩ := hexact
  rw [he]
  refine ⟨le_max_left _ _, lt_of_lt_of_le habove ?_, ?_⟩
  · exact zpow_le_zpow_right₀ (by norm_num) (by omega)
  · rcases le_total e (-1074) with less | more
    · exact .inl (max_eq_left less)
    · rw [max_eq_right more]
      exact .inr hbelow

end

/-! ## Decoding what is encoded -/

/-- The sign does not touch the magnitude. -/
theorem magnitudeBits_ofMagnitudeBits (negative : Bool) {magnitude : ℕ}
    (fits : magnitude < signWeight) :
    (ofMagnitudeBits negative magnitude).magnitudeBits = magnitude := by
  rw [ofMagnitudeBits, magnitudeBits]
  have hbits : (if negative then signWeight else 0) + magnitude < 2 ^ 64 := by
    rw [signWeight] at *
    split <;> omega
  rw [UInt64.toNat_ofNat_of_lt' hbits]
  split
  · rw [Nat.add_mod_left, Nat.mod_eq_of_lt fits]
  · rw [Nat.zero_add, Nat.mod_eq_of_lt fits]

/-- A magnitude that is counted off as so many units of an exponent. A mantissa that is rounded up to
the next power of two carries into the exponent. -/
theorem value_of_magnitudeBits {x : Binary64} {k r : ℕ} (most : r ≤ 2 * hiddenBit)
    (least : k = 0 ∨ hiddenBit ≤ r) (bits : x.magnitudeBits = k * hiddenBit + r) :
    x.value = r * 2 ^ ((k : ℤ) - 1074) := by
  have hbit : hiddenBit = 2 ^ 52 := by decide
  rw [value, mantissa, exponent, bits]
  rcases Nat.lt_or_ge (k * hiddenBit + r) hiddenBit with small | large
  · -- a number with fewer digits
    rw [if_pos small, if_pos small]
    have hk : k = 0 := by
      rcases least with rfl | least
      · rfl
      · exact absurd small (Nat.not_lt.mpr (Nat.le_add_left_of_le least))
    subst hk
    simp
  · rw [if_neg (Nat.not_lt.mpr large), if_neg (Nat.not_lt.mpr large)]
    have hr : hiddenBit ≤ r := by
      rcases least with rfl | least
      · simpa using large
      · exact least
    -- the multiple fits the mantissa, or it is the least of the next exponent
    rcases Nat.lt_or_ge r (2 * hiddenBit) with short | long
    · obtain ⟨rest, rfl⟩ := Nat.exists_eq_add_of_le hr
      have hrest : rest < hiddenBit := by omega
      have hdiv : (k * hiddenBit + (hiddenBit + rest)) / hiddenBit = k + 1 := by
        rw [← Nat.add_assoc, ← Nat.succ_mul, Nat.mul_comm, Nat.mul_add_div (by decide),
          Nat.div_eq_of_lt hrest]
      have hmod : (k * hiddenBit + (hiddenBit + rest)) % hiddenBit = rest := by
        rw [← Nat.add_assoc, ← Nat.succ_mul, Nat.mul_comm, Nat.mul_add_mod, Nat.mod_eq_of_lt hrest]
      rw [hdiv, hmod]
      push_cast
      rw [show (k : ℤ) + 1 - 1075 = k - 1074 by ring]
    · obtain rfl := Nat.le_antisymm most long
      have hdiv : (k * hiddenBit + 2 * hiddenBit) / hiddenBit = k + 2 := by
        rw [← Nat.add_mul, Nat.mul_div_cancel _ (by decide)]
      have hmod : (k * hiddenBit + 2 * hiddenBit) % hiddenBit = 0 := by
        rw [← Nat.add_mul, Nat.mul_mod_left]
      rw [hdiv, hmod]
      push_cast
      rw [show (k : ℤ) + 2 - 1075 = k - 1074 + 1 by ring, zpow_add₀ (by norm_num)]
      ring

/-! ## Rounding a quotient -/

/-- How a quotient is rounded: to so many units of an exponent, counted from the least number. -/
structure Rounds (num den : ℕ) (x : Binary64) (k r : ℕ) : Prop where
  most : r ≤ 2 * hiddenBit
  least : k = 0 ∨ hiddenBit ≤ r
  exponent : k = 0 ∨ (2 : ℚ) ^ ((k : ℤ) - 1074 + 52) ≤ (num : ℚ) / den
  nearest : (r : ℚ) ≤ (num : ℚ) / den / 2 ^ ((k : ℤ) - 1074) + 1 / 2
  le_of_le : ∀ bound : ℕ, (num : ℚ) / den ≤ bound * 2 ^ ((k : ℤ) - 1074) → r ≤ bound
  bits : x.magnitudeBits = min (k * hiddenBit + r) infinityBits

/-- The last steps of rounding, on a grid that is known. They are stated for any unit and limit, as the
kernel must not compute with those of the format. -/
theorem encode_scaled (negative : Bool) {num den n d : ℕ} {e : ℤ} (unit limit : ℕ)
    (scaled : scaleByPowerOfTwo num den e = (n, d)) :
    (have e := e
     match scaleByPowerOfTwo num den e with
     | (n, d) =>
       have magnitude := (e + 1074).toNat * unit + roundHalfEven n d
       ofMagnitudeBits negative (min magnitude limit)) =
    ofMagnitudeBits negative (min ((e + 1074).toNat * unit + roundHalfEven n d) limit) := by
  dsimp only
  rw [scaled]

/-- The bits of a rounded quotient: the number of the grid, then the rounded multiple of its unit. A
carry goes into the number of the grid. -/
theorem magnitudeBits_ofRatio (negative : Bool) {num den n d k : ℕ} (hnum : 0 < num)
    (hden : 0 < den) (exponent : roundingExponent num den + 1074 = k)
    (scaled : scaleByPowerOfTwo num den (roundingExponent num den) = (n, d)) :
    (ofRatio negative num den).magnitudeBits =
      min (k * hiddenBit + roundHalfEven n d) infinityBits := by
  have hrounded : ofRatio negative num den =
      ofMagnitudeBits negative (min ((roundingExponent num den + 1074).toNat * hiddenBit +
        roundHalfEven n d) infinityBits) := by
    rw [ofRatio, if_neg (show ¬ (num = 0 ∨ den = 0) by omega)]
    exact encode_scaled negative hiddenBit infinityBits scaled
  rw [hrounded, exponent, Int.toNat_natCast]
  exact magnitudeBits_ofMagnitudeBits negative (Nat.lt_of_le_of_lt (Nat.min_le_right _ _) (by decide))

/-- **Every positive quotient is rounded** on the grid of its exponent. -/
theorem exists_rounds (negative : Bool) {num den : ℕ} (hnum : 0 < num) (hden : 0 < den) :
    ∃ k r, Rounds num den (ofRatio negative num den) k r := by
  obtain ⟨hleast, habove, hbelow⟩ := roundingExponent_spec hnum hden
  obtain ⟨k, hk⟩ := Int.eq_ofNat_of_zero_le (show 0 ≤ roundingExponent num den + 1074 by omega)
  have he : roundingExponent num den = (k : ℤ) - 1074 := by omega
  have hscaled := scaleByPowerOfTwo_eq num den (roundingExponent num den)
  have hpos := scaleByPowerOfTwo_pos num hden (roundingExponent num den)
  rcases hgrid : scaleByPowerOfTwo num den (roundingExponent num den) with ⟨n, d⟩
  have hbits := magnitudeBits_ofRatio negative hnum hden hk hgrid
  rw [hgrid] at hscaled hpos
  rw [he] at hscaled habove hbelow
  dsimp only at hscaled hpos
  have hunit : (0 : ℚ) < 2 ^ ((k : ℤ) - 1074) := by positivity
  -- all bounds are those of the scaled quotient, multiplied by the unit of the grid
  refine ⟨k, roundHalfEven n d, ?_, ?_, ?_, ?_, fun bound below => ?_, hbits⟩
  · refine roundHalfEven_le hpos ?_
    rw [hscaled, div_le_iff₀ hunit, Nat.cast_mul, hiddenBit_eq]
    refine habove.le.trans (le_of_eq ?_)
    rw [zpow_add₀ (by norm_num), mul_comm]
    norm_num
  · refine hbelow.imp (fun hzero => by omega) fun hbelow => le_roundHalfEven hpos ?_
    rw [hscaled, le_div_iff₀ hunit, hiddenBit_eq]
    refine le_trans (le_of_eq ?_) hbelow
    rw [zpow_add₀ (by norm_num), mul_comm]
    norm_num
  · exact hbelow.imp_left fun hzero => by omega
  · rw [← hscaled]
    exact roundHalfEven_le_add_half hpos
  · refine roundHalfEven_le hpos ?_
    rwa [hscaled, div_le_iff₀ hunit]

/-- Without a numerator or a denominator the number is zero. -/
theorem magnitudeBits_ofRatio_of_zero (negative : Bool) {num den : ℕ} (zero : num = 0 ∨ den = 0) :
    (ofRatio negative num den).magnitudeBits = 0 := by
  rw [ofRatio, if_pos zero]
  exact magnitudeBits_ofMagnitudeBits negative (by decide)

/-- A quotient is never rounded to an undefined number. -/
theorem magnitudeBits_ofRatio_le (negative : Bool) (num den : ℕ) :
    (ofRatio negative num den).magnitudeBits ≤ infinityBits := by
  by_cases zero : num = 0 ∨ den = 0
  · rw [magnitudeBits_ofRatio_of_zero negative zero]
    exact Nat.zero_le _
  · have hpositive : 0 < num ∧ 0 < den := by omega
    obtain ⟨k, r, hrounds⟩ := exists_rounds negative hpositive.1 hpositive.2
    rw [hrounds.bits]
    exact Nat.min_le_right _ _

/-- Half a unit of the greatest exponent. -/
def halfUnit : ℚ := 2 ^ 970

/-- Half a unit beyond the greatest finite number. -/
def roundingLimit : ℚ := (2 ^ 54 - 1) * halfUnit

theorem halfUnit_pos : 0 < halfUnit := by
  rw [halfUnit]
  positivity

/-- The greatest exponent is that of a whole unit. -/
theorem two_zpow_greatest : (2 : ℚ) ^ (971 : ℤ) = 2 * halfUnit := by
  rw [show (971 : ℤ) = 970 + 1 by norm_num, zpow_add₀ (by norm_num), halfUnit, mul_comm]
  rfl

/-- The limit lies below the power of two that has no number. -/
theorem roundingLimit_lt : roundingLimit < 2 ^ (1024 : ℤ) := by
  have hpower : (2 : ℚ) ^ (1024 : ℤ) = 2 ^ 53 * (2 * halfUnit) := by
    rw [← two_zpow_greatest, show (1024 : ℤ) = 53 + 971 by norm_num, zpow_add₀ (by norm_num)]
    rfl
  have hpositive := halfUnit_pos
  rw [hpower, roundingLimit]
  linarith only [hpositive]

/-- **What lies below the limit is rounded to a finite number.** -/
theorem isFinite_ofRatio (negative : Bool) {num den : ℕ}
    (below : (num : ℚ) / den < roundingLimit) : (ofRatio negative num den).isFinite = true := by
  rw [isFinite, decide_eq_true_eq]
  by_cases zero : num = 0 ∨ den = 0
  · rw [magnitudeBits_ofRatio_of_zero negative zero]
    decide
  have hpositive : 0 < num ∧ 0 < den := by omega
  obtain ⟨k, r, hrounds⟩ := exists_rounds negative hpositive.1 hpositive.2
  rw [hrounds.bits]
  refine Nat.lt_of_le_of_lt (Nat.min_le_left _ _) ?_
  have hmost := hrounds.most
  -- the exponent of a quotient below the limit is one that numbers have
  have hk : k ≤ 2045 := by
    rcases hrounds.exponent with rfl | habove
    · exact Nat.zero_le _
    · have hpower : (2 : ℚ) ^ ((k : ℤ) - 1074 + 52) < 2 ^ (1024 : ℤ) :=
        lt_of_le_of_lt habove (below.trans roundingLimit_lt)
      have hexponent := (zpow_lt_zpow_iff_right₀ (by norm_num : (1 : ℚ) < 2)).mp hpower
      omega
  rcases Nat.lt_or_eq_of_le hk with less | rfl
  · calc k * hiddenBit + r ≤ 2044 * hiddenBit + 2 * hiddenBit :=
          Nat.add_le_add (Nat.mul_le_mul_right _ (Nat.le_of_lt_succ less)) hmost
      _ < infinityBits := by decide
  · -- at the greatest exponent the mantissa does not carry
    have hunit : ((2045 : ℕ) : ℤ) - 1074 = 971 := by norm_num
    have hnearest := hrounds.nearest
    have hhalf := halfUnit_pos
    have hquotient : (num : ℚ) / den / (2 * halfUnit) < (2 ^ 54 - 1) / 2 := by
      rw [div_lt_iff₀ (by linarith)]
      refine below.trans_le (le_of_eq ?_)
      rw [roundingLimit]
      ring
    rw [hunit, two_zpow_greatest] at hnearest
    have hr : (r : ℚ) < 2 ^ 53 := by linarith
    have hr' : r < 2 * hiddenBit := by exact_mod_cast hr
    calc 2045 * hiddenBit + r < 2045 * hiddenBit + 2 * hiddenBit := Nat.add_lt_add_left hr' _
      _ = infinityBits := by decide

/-- **Rounding passes no number on the grid.** -/
theorem value_ofRatio_le (negative : Bool) {num den : ℕ}
    (finite : (ofRatio negative num den).isFinite = true) {bound j : ℕ}
    (le : (num : ℚ) / den ≤ bound * 2 ^ j) (short : (num : ℚ) / den < 2 ^ (j + 53)) :
    (ofRatio negative num den).value ≤ bound * 2 ^ j := by
  rw [isFinite, decide_eq_true_eq] at finite
  by_cases zero : num = 0 ∨ den = 0
  · have hzero : (ofRatio negative num den).magnitudeBits = 0 * hiddenBit + 0 :=
      (magnitudeBits_ofRatio_of_zero negative zero).trans (Nat.zero_mul _).symm
    rw [value_of_magnitudeBits (Nat.zero_le _) (.inl rfl) hzero]
    rw [Nat.cast_zero, zero_mul]
    exact mul_nonneg (Nat.cast_nonneg bound) (pow_nonneg (by norm_num) j)
  have hpositive : 0 < num ∧ 0 < den := by omega
  obtain ⟨k, r, hrounds⟩ := exists_rounds negative hpositive.1 hpositive.2
  have hbits : (ofRatio negative num den).magnitudeBits = k * hiddenBit + r := by
    have hmin := hrounds.bits
    rcases Nat.le_total (k * hiddenBit + r) infinityBits with less | more
    · rwa [Nat.min_eq_left less] at hmin
    · rw [Nat.min_eq_right more] at hmin
      exact absurd finite (hmin ▸ Nat.lt_irrefl _)
  -- the grid of the quotient is no coarser than that of the bound
  have hk : (k : ℤ) - 1074 ≤ j := by
    rcases hrounds.exponent with rfl | habove
    · omega
    · have hpower : (2 : ℚ) ^ ((k : ℤ) - 1074 + 52) < 2 ^ ((j + 53 : ℕ) : ℤ) := by
        rw [zpow_natCast]
        exact lt_of_le_of_lt habove short
      have hexponent := (zpow_lt_zpow_iff_right₀ (by norm_num : (1 : ℚ) < 2)).mp hpower
      omega
  obtain ⟨steps, hsteps⟩ := Int.eq_ofNat_of_zero_le (Int.sub_nonneg_of_le hk)
  have hscale : (2 : ℚ) ^ steps * 2 ^ ((k : ℤ) - 1074) = 2 ^ j := by
    rw [← zpow_natCast, ← zpow_natCast, ← zpow_add₀ (by norm_num)]
    congr 1
    omega
  -- the bound is a point of the grid, and rounding does not pass it
  have hr : r ≤ bound * 2 ^ steps := by
    refine hrounds.le_of_le _ ?_
    rw [Nat.cast_mul, Nat.cast_pow, Nat.cast_ofNat, mul_assoc, hscale]
    exact le
  rw [value_of_magnitudeBits hrounds.most hrounds.least hbits]
  calc (r : ℚ) * 2 ^ ((k : ℤ) - 1074) ≤ (bound * 2 ^ steps : ℕ) * 2 ^ ((k : ℤ) - 1074) := by
        gcongr
    _ = bound * 2 ^ j := by
        rw [Nat.cast_mul, Nat.cast_pow, Nat.cast_ofNat, mul_assoc, hscale]

/-! ## Finite numbers -/

/-- A mantissa has 53 binary digits at most. -/
theorem mantissa_lt (x : Binary64) : x.mantissa < 2 * hiddenBit := by
  have hmod := Nat.mod_lt x.magnitudeBits (show 0 < hiddenBit by decide)
  rw [mantissa]
  split <;> omega

/-- A finite number has an exponent below that of the infinities. -/
theorem exponent_le {x : Binary64} (finite : x.isFinite = true) : x.exponent ≤ 971 := by
  rw [isFinite, decide_eq_true_eq, infinityBits] at finite
  have hdiv : x.magnitudeBits / hiddenBit < 2047 := Nat.div_lt_of_lt_mul (Nat.mul_comm _ _ ▸ finite)
  rw [exponent]
  split <;> omega

/-- The greatest finite number. -/
theorem value_lt {x : Binary64} (finite : x.isFinite = true) : x.value < roundingLimit := by
  have hmantissa : (x.mantissa : ℚ) ≤ 2 ^ 53 - 1 := by
    have hless : x.mantissa + 1 ≤ 2 ^ 53 := mantissa_lt x
    have hless' : (x.mantissa : ℚ) + 1 ≤ 2 ^ 53 := by exact_mod_cast hless
    linarith
  have hunit : (2 : ℚ) ^ x.exponent ≤ 2 ^ (971 : ℤ) :=
    zpow_le_zpow_right₀ (by norm_num) (exponent_le finite)
  rw [value]
  calc (x.mantissa : ℚ) * 2 ^ x.exponent ≤ (2 ^ 53 - 1) * 2 ^ (971 : ℤ) :=
        mul_le_mul hmantissa hunit (by positivity) (by norm_num)
    _ < roundingLimit := by
        have hpositive := halfUnit_pos
        rw [two_zpow_greatest, roundingLimit]
        linarith only [hpositive]

theorem not_isNaN_of_isFinite {x : Binary64} (finite : x.isFinite = true) : x.isNaN = false := by
  rw [isFinite, decide_eq_true_eq] at finite
  rw [isNaN, decide_eq_false_iff_not]
  omega

theorem not_isInfinite_of_isFinite {x : Binary64} (finite : x.isFinite = true) :
    x.isInfinite = false := by
  rw [isFinite, decide_eq_true_eq] at finite
  rw [isInfinite, decide_eq_false_iff_not]
  omega

/-- Finite numbers are multiplied as quotients and rounded once. -/
theorem mul_of_isFinite {x y : Binary64} (finite : x.isFinite = true) (finite' : y.isFinite = true) :
    x.mul y = ofRatio (x.isNegative != y.isNegative) (x.ratio.1 * y.ratio.1)
      (x.ratio.2 * y.ratio.2) := by
  rw [mul]
  simp only [not_isNaN_of_isFinite finite, not_isNaN_of_isFinite finite',
    not_isInfinite_of_isFinite finite, not_isInfinite_of_isFinite finite', Bool.or_false,
    Bool.false_eq_true, if_false]

/-- **A product below the limit is finite.** -/
theorem isFinite_mul {x y : Binary64} (finite : x.isFinite = true) (finite' : y.isFinite = true)
    (below : x.value * y.value < roundingLimit) : (x.mul y).isFinite = true := by
  rw [mul_of_isFinite finite finite']
  refine isFinite_ofRatio _ ?_
  rw [← ratio_eq_value, ← ratio_eq_value, div_mul_div_comm] at below
  exact_mod_cast below

/-- A product that is not finite is infinite. -/
theorem isFinite_of_mul {x y : Binary64} (finite : x.isFinite = true) (finite' : y.isFinite = true)
    (bounded : (x.mul y).isInfinite = false) : (x.mul y).isFinite = true := by
  rw [mul_of_isFinite finite finite'] at bounded ⊢
  have hle := magnitudeBits_ofRatio_le (x.isNegative != y.isNegative) (x.ratio.1 * y.ratio.1)
    (x.ratio.2 * y.ratio.2)
  rw [isInfinite, decide_eq_false_iff_not] at bounded
  rw [isFinite, decide_eq_true_eq]
  omega

/-- A quotient by a number that is not below one is finite. -/
theorem isFinite_div {x y : Binary64} (finite : x.isFinite = true) (finite' : y.isFinite = true)
    (large : 1 ≤ y.value) : (x.div y).isFinite = true := by
  have hzero : y.isZero = false := by
    rw [isZero, decide_eq_false_iff_not]
    intro zero
    have hvalue : y.value = 0 := by
      rw [value, mantissa, zero]
      simp [hiddenBit]
    rw [hvalue] at large
    exact absurd large (by norm_num)
  rw [div]
  simp only [not_isNaN_of_isFinite finite, not_isNaN_of_isFinite finite',
    not_isInfinite_of_isFinite finite, not_isInfinite_of_isFinite finite', hzero, Bool.or_false,
    Bool.false_eq_true, if_false]
  refine isFinite_ofRatio _ ?_
  -- dividing by one or more does not leave the range
  have hquotient : x.value / y.value < roundingLimit :=
    lt_of_le_of_lt (div_le_self (value_nonneg x) large) (value_lt finite)
  rw [← ratio_eq_value, ← ratio_eq_value, div_div_div_eq] at hquotient
  exact_mod_cast hquotient

/-- A number changes its sign only. -/
theorem isFinite_negate {x : Binary64} (finite : x.isFinite = true) : x.negate.isFinite = true := by
  rw [isFinite, decide_eq_true_eq] at finite ⊢
  rw [negate, magnitudeBits_ofMagnitudeBits _ (Nat.lt_trans finite (by decide))]
  exact finite

end Binary64

end BrowserAct.Decimal
