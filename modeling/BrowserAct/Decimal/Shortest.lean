import BrowserAct.Decimal.Binary64

/-!
# The fewest decimal digits that read back

Every finite binary64 number owns an interval of reals: those that round to it. `shortest` finds the
decimal with the fewest digits in that interval and, among those, the one nearest to the number.
On each decimal grid only the two neighbours of the number can be nearest, so two candidates per
digit count suffice, and seventeen digits always do.
-/

namespace BrowserAct.Decimal

/-- A positive decimal `digits * 10 ^ power`. -/
structure Scaled where
  digits : Nat
  power : Int
deriving DecidableEq, Inhabited

namespace Scaled

def ratio (s : Scaled) : Nat × Nat :=
  if s.power < 0 then (s.digits, Nat.pow 10 (-s.power).toNat) else (s.digits * Nat.pow 10 s.power.toNat, 1)

/-- The same decimal without zeros at the end of its digits. -/
def trim (digits : Nat) (power : Int) : Scaled :=
  if digits ≠ 0 ∧ digits % 10 = 0 then trim (digits / 10) (power + 1) else ⟨digits, power⟩
termination_by digits
decreasing_by omega

end Scaled

namespace Binary64

/-- The interval of reals that round to a number, as quotients over one denominator; the ends belong
to it iff `closed`. -/
structure Interval where
  low : Nat
  value : Nat
  high : Nat
  den : Nat
  closed : Bool

/-- The interval of a finite nonzero magnitude. Below a power of two the neighbour is half as far. -/
def roundingInterval (x : Binary64) : Interval :=
  let m := x.mantissa
  let e := x.exponent - 2
  let low := if m = hiddenBit ∧ x.exponent ≠ -1074 then 4 * m - 1 else 4 * m - 2
  let scale := if e < 0 then 1 else Nat.pow 2 e.toNat
  let den := if e < 0 then Nat.pow 2 (-e).toNat else 1
  ⟨low * scale, 4 * m * scale, (4 * m + 2) * scale, den, decide (m % 2 = 0)⟩

def Interval.contains (i : Interval) (s : Scaled) : Bool :=
  let (n, d) := s.ratio
  if i.closed then decide (i.low * d ≤ n * i.den) && decide (n * i.den ≤ i.high * d)
  else decide (i.low * d < n * i.den) && decide (n * i.den < i.high * d)

/-- The power of ten of the first digit: the greatest `k` with `10 ^ k ≤ num / den`. -/
def leadingPower (num den : Nat) : Int :=
  if den ≤ num then ((Nat.toDigits 10 (num / den)).length : Int) - 1
  else
    let length := (Nat.toDigits 10 (den / num)).length
    if den ≤ num * Nat.pow 10 (length - 1) then -(length - 1 : Nat) else -(length : Int)

/-- The nearer of the two neighbours of the number on the grid of multiples of `10 ^ power`, if one
of them lies in the interval; a tie goes to the even one. -/
def Interval.onGrid (i : Interval) (power : Int) : Option Scaled :=
  let (n, d) := if power < 0 then (i.value * Nat.pow 10 (-power).toNat, i.den)
    else (i.value, i.den * Nat.pow 10 power.toNat)
  let below : Scaled := ⟨n / d, power⟩
  let above : Scaled := ⟨n / d + 1, power⟩
  let rest := 2 * (n % d)
  let preferAbove := rest > d ∨ (rest = d ∧ n / d % 2 = 1)
  let (first, second) := if preferAbove then (above, below) else (below, above)
  if 0 < first.digits ∧ i.contains first then some first
  else if 0 < second.digits ∧ i.contains second then some second
  else none

/-- The shortest decimal of a finite nonzero magnitude. A neighbour above may carry into a new first
digit, so zeros at the end are dropped. -/
def shortest (x : Binary64) : Scaled :=
  let i := x.roundingInterval
  let lead := leadingPower i.value i.den
  let grids := (List.range 17).map fun (n : Nat) => lead - n
  let hit := (grids.findSome? i.onGrid).getD ⟨i.value / i.den, 0⟩
  Scaled.trim hit.digits hit.power

end Binary64

end BrowserAct.Decimal
