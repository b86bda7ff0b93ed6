/-!
# Binary64 numbers over exact integers

A binary64 number is the 64 bits of its interchange format. Everything here is computed on the
decoded fields in `Nat` and `Int`: a finite number is `± m * 2 ^ e`, a real number is a quotient of
naturals, and `ofRatio` is the only place that rounds (to nearest, a half to the even neighbour).

* **`fields`** decodes, **`ofFields`** encodes.
* **`ofRatio`** is the number nearest to a quotient; the arithmetic below is `ofRatio` of the exact
  result.
-/

namespace BrowserAct.Decimal

/-- A binary64 number as the bits of its interchange format. -/
structure Binary64 where
  bits : UInt64
deriving DecidableEq, Inhabited

namespace Binary64

def signWeight : Nat := 0x8000_0000_0000_0000

/-- The weight of the lowest exponent bit, which is also the implicit bit of a normal number. -/
def hiddenBit : Nat := 0x10_0000_0000_0000

def infinityBits : Nat := 2047 * hiddenBit

/-! ## Fields -/

def isNegative (x : Binary64) : Bool :=
  decide (signWeight ≤ x.bits.toNat)

/-- The bits without the sign: the order of magnitudes is the order of these. -/
def magnitudeBits (x : Binary64) : Nat :=
  x.bits.toNat % signWeight

/-- A number that is neither infinite nor undefined. -/
def isFinite (x : Binary64) : Bool :=
  decide (x.magnitudeBits < infinityBits)

def isInfinite (x : Binary64) : Bool :=
  decide (x.magnitudeBits = infinityBits)

def isNaN (x : Binary64) : Bool :=
  decide (infinityBits < x.magnitudeBits)

def isZero (x : Binary64) : Bool :=
  decide (x.magnitudeBits = 0)

/-- The integer `m` of a finite magnitude `m * 2 ^ e`. -/
def mantissa (x : Binary64) : Nat :=
  if x.magnitudeBits < hiddenBit then x.magnitudeBits
  else hiddenBit + x.magnitudeBits % hiddenBit

/-- The power `e` of a finite magnitude `m * 2 ^ e`. -/
def exponent (x : Binary64) : Int :=
  if x.magnitudeBits < hiddenBit then -1074
  else (x.magnitudeBits / hiddenBit : Nat) - 1075

/-- The number with the given sign and the given bits of the magnitude. -/
def ofMagnitudeBits (negative : Bool) (magnitude : Nat) : Binary64 :=
  ⟨UInt64.ofNat ((if negative then signWeight else 0) + magnitude)⟩

def zero (negative : Bool) : Binary64 :=
  ofMagnitudeBits negative 0

def infinity (negative : Bool) : Binary64 :=
  ofMagnitudeBits negative infinityBits

def nan : Binary64 :=
  ofMagnitudeBits false (infinityBits + hiddenBit / 2)

/-! ## Rounding -/

/-- The integer nearest to `num / den`, a half going to the even neighbour. -/
def roundHalfEven (num den : Nat) : Nat :=
  let floor := num / den
  let rest := 2 * (num % den)
  if rest > den ∨ (rest = den ∧ floor % 2 = 1) then floor + 1 else floor

/-- The integer nearest to `num / den`, a half going up. -/
def roundHalfUp (num den : Nat) : Nat :=
  (2 * num + den) / (2 * den)

/-- `num / den / 2 ^ e` as a quotient of naturals. -/
def scaleByPowerOfTwo (num den : Nat) (e : Int) : Nat × Nat :=
  if e < 0 then (num * Nat.pow 2 (-e).toNat, den) else (num, den * Nat.pow 2 e.toNat)

/-- The power `e` at which `num / den` is rounded to an integer multiple of `2 ^ e`: the one that
leaves 53 binary digits, but never below the power of the least positive number. -/
def roundingExponent (num den : Nat) : Int :=
  let guess : Int := (num.log2 : Int) - den.log2 - 52
  let (n, d) := scaleByPowerOfTwo num den guess
  max (-1074) (if n < d * hiddenBit then guess - 1 else guess)

/-- The number nearest to `± num / den`, a half going to the even mantissa; what lies beyond the
greatest finite number by half a unit or more is infinite. -/
def ofRatio (negative : Bool) (num den : Nat) : Binary64 :=
  if num = 0 ∨ den = 0 then zero negative
  else
    let e := roundingExponent num den
    let (n, d) := scaleByPowerOfTwo num den e
    let magnitude := (e + 1074).toNat * hiddenBit + roundHalfEven n d
    ofMagnitudeBits negative (min magnitude infinityBits)

def ofInt (n : Int) : Binary64 :=
  ofRatio (decide (n < 0)) n.natAbs 1

/-- The number nearest to `± digits * 10 ^ power`. What has more than 400 places before the point is
infinite and what starts after 400 places is zero, so no larger power of ten is ever computed. -/
def ofDecimal (negative : Bool) (digits : Nat) (power : Int) : Binary64 :=
  let places := (Nat.toDigits 10 digits).length + power
  if digits = 0 ∨ places < -400 then zero negative
  else if 400 < places then infinity negative
  else if power < 0 then ofRatio negative digits (Nat.pow 10 (-power).toNat)
  else ofRatio negative (digits * Nat.pow 10 power.toNat) 1

/-! ## Exact values -/

/-- The magnitude of a finite number as a quotient of naturals. -/
def ratio (x : Binary64) : Nat × Nat :=
  if x.exponent < 0 then (x.mantissa, Nat.pow 2 (-x.exponent).toNat)
  else (x.mantissa * Nat.pow 2 x.exponent.toNat, 1)

/-- A finite number as an integer over a natural. -/
def signedRatio (x : Binary64) : Int × Nat :=
  let (num, den) := x.ratio
  (if x.isNegative then -(num : Int) else num, den)

def wholePart (x : Binary64) : Nat :=
  x.ratio.1 / x.ratio.2

def isWhole (x : Binary64) : Bool :=
  x.isFinite && decide (x.ratio.1 % x.ratio.2 = 0)

/-! ## Arithmetic -/

def negate (x : Binary64) : Binary64 :=
  ofMagnitudeBits (!x.isNegative) x.magnitudeBits

/-- The nearest number to a sum; two zeros of opposite sign, and any two numbers that cancel, give
the positive zero. -/
def add (x y : Binary64) : Binary64 :=
  if x.isNaN || y.isNaN then nan
  else if x.isInfinite then
    if y.isInfinite && x.isNegative != y.isNegative then nan else x
  else if y.isInfinite then y
  else
    let (n, d) := x.signedRatio
    let (k, b) := y.signedRatio
    let sum := n * b + k * d
    if sum = 0 then zero (x.isNegative && y.isNegative)
    else ofRatio (decide (sum < 0)) sum.natAbs (d * b)

def mul (x y : Binary64) : Binary64 :=
  let negative := x.isNegative != y.isNegative
  if x.isNaN || y.isNaN then nan
  else if x.isInfinite || y.isInfinite then
    if x.isZero || y.isZero then nan else infinity negative
  else ofRatio negative (x.ratio.1 * y.ratio.1) (x.ratio.2 * y.ratio.2)

def div (x y : Binary64) : Binary64 :=
  let negative := x.isNegative != y.isNegative
  if x.isNaN || y.isNaN then nan
  else if x.isInfinite then if y.isInfinite then nan else infinity negative
  else if y.isInfinite then zero negative
  else if y.isZero then if x.isZero then nan else infinity negative
  else ofRatio negative (x.ratio.1 * y.ratio.2) (x.ratio.2 * y.ratio.1)

/-- The nearest whole number, a half going away from zero; the sign is kept. -/
def round (x : Binary64) : Binary64 :=
  if x.isFinite then ofRatio x.isNegative (roundHalfUp x.ratio.1 x.ratio.2) 1 else x

/-! ## Order -/

/-- Numeric equality: the zeros are equal, and an undefined number equals nothing. -/
def numEq (x y : Binary64) : Bool :=
  !x.isNaN && !y.isNaN && (x.bits == y.bits || (x.isZero && y.isZero))

/-- Numeric order; an undefined number is below nothing. -/
def lt (x y : Binary64) : Bool :=
  if x.isNaN || y.isNaN || (x.isZero && y.isZero) then false
  else match x.isNegative, y.isNegative with
    | true, false => true
    | false, true => false
    | false, false => decide (x.magnitudeBits < y.magnitudeBits)
    | true, true => decide (y.magnitudeBits < x.magnitudeBits)

/-! ## Checks -/

example : (ofDecimal false 1 (-1)).bits = 0x3fb999999999999a := by decide +kernel
example : (ofDecimal false 5 (-324)).bits = 1 := by decide +kernel
example : (ofDecimal false 17976931348623157 292).bits = 0x7fefffffffffffff := by decide +kernel
example : (ofDecimal false 2 308).isInfinite = true := by decide +kernel
example : (add (ofInt 1) (ofInt (-1))).bits = 0 := by decide +kernel
example : (round (ofDecimal true 25 (-1))) = ofInt (-3) := by decide +kernel

end Binary64

end BrowserAct.Decimal
