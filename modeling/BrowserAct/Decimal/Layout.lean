import BrowserAct.Decimal.Shortest

/-!
# Writing numbers

How the digits of a number are laid out: the shortest digits with a point or an exponent
(`Layout.write`), and a fixed number of places (`fixedPlaces`).
-/

namespace BrowserAct.Decimal

/-- The decimal digits of a natural, most significant first. -/
def digitChars (n : Nat) : List Char :=
  Nat.toDigits 10 n

/-- Digits padded on the left with zeros to a width. -/
def padZeros (width : Nat) (digits : List Char) : List Char :=
  List.replicate (width - digits.length) '0' ++ digits

/-- Where positional notation ends: numbers whose first digit has a power of ten from `least` up to
but not including `limit` are written with a point, all others with an exponent. -/
structure Layout where
  least : Int
  limit : Int
deriving DecidableEq

namespace Layout

/-- A point goes into the digits, after them or before them; a whole number keeps one zero. -/
def positional (digits : List Char) (power : Int) : List Char :=
  let pointAt : Int := digits.length + power
  if 0 ≤ power then digits ++ List.replicate power.toNat '0' ++ ['.', '0']
  else if 0 < pointAt then digits.take pointAt.toNat ++ '.' :: digits.drop pointAt.toNat
  else '0' :: '.' :: List.replicate (-pointAt).toNat '0' ++ digits

/-- One digit before the point, and the power with its sign. -/
def scientific (digits : List Char) (lead : Int) : List Char :=
  let fraction := digits.drop 1
  let sign := if lead < 0 then '-' else '+'
  digits.take 1 ++ (if fraction.isEmpty then [] else '.' :: fraction)
    ++ 'e' :: sign :: digitChars lead.natAbs

def write (layout : Layout) (x : Binary64) : List Char :=
  let sign := if x.isNegative then ['-'] else []
  if x.isZero then sign ++ ['0', '.', '0']
  else
    let s := x.shortest
    let digits := digitChars s.digits
    let lead : Int := digits.length - 1 + s.power
    sign ++ if layout.least ≤ lead ∧ lead < layout.limit then positional digits s.power
      else scientific digits lead

end Layout

/-- A finite number with a fixed number of places, a half going to the even digit. -/
def fixedPlaces (places : Nat) (x : Binary64) : List Char :=
  let (num, den) := x.ratio
  let units := Binary64.roundHalfEven (num * Nat.pow 10 places) den
  let digits := padZeros (places + 1) (digitChars units)
  let whole := digits.length - places
  (if x.isNegative then ['-'] else []) ++ digits.take whole
    ++ if places = 0 then [] else '.' :: digits.drop whole

end BrowserAct.Decimal
