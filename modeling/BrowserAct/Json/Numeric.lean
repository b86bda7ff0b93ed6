import BrowserAct.Json.Basic

/-!
# Numbers by value

`1` and `1.0` are two values, but one number. Here numbers are compared by what they stand for, without
any rounding.

* **`Json.same`** is equality up to the way in which numbers are written.
-/

namespace BrowserAct.Json

/-- The number a value stands for, as an integer over a natural. -/
def ratio? : Json → Option (Int × Nat)
  | .integer n => some (n, 1)
  | .float x => if x.isFinite then some x.signedRatio else none
  | _ => none

def compareRatios (a b : Int × Nat) : Ordering :=
  compare (a.1 * b.2) (b.1 * a.2)

/-- Whether both values are numbers, and one number. -/
def sameNumber (a b : Json) : Bool :=
  match a.ratio?, b.ratio? with
  | some a, some b => compareRatios a b == .eq
  | _, _ => false

/-- Whether a value is a whole number, however it is written. -/
def isWhole : Json → Bool
  | .integer _ => true
  | .float x => x.isWhole
  | _ => false

mutual

/-- Equality up to the way in which numbers are written. -/
def same : Json → Json → Bool
  | .null, .null => true
  | .bool a, .bool b => a == b
  | .string a, .string b => a == b
  | .array a, .array b => sameItems a b
  | .object a, .object b => sameFields a b
  | a, b => sameNumber a b

def sameItems : List Json → List Json → Bool
  | [], [] => true
  | a :: as, b :: bs => same a b && sameItems as bs
  | _, _ => false

def sameFields : List (String × Json) → List (String × Json) → Bool
  | [], [] => true
  | (k, a) :: as, (l, b) :: bs => k == l && same a b && sameFields as bs
  | _, _ => false

end

/-! ## Checks -/

example : same (.integer 1) (.float (.ofInt 1)) = true := by decide +kernel
example : same (.array [.integer 1]) (.array [.integer 2]) = false := by decide +kernel

end BrowserAct.Json
