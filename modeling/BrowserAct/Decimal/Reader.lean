import BrowserAct.Decimal.Binary64

/-!
# Reading decimal numbers

An optional sign, digits with an optional point, an optional exponent; or one of the words for
infinity and for the undefined number, in any case. The number is the nearest to the decimal.
-/

namespace BrowserAct.Decimal

def isDigit (c : Char) : Bool :=
  decide ('0' ≤ c) && decide (c ≤ '9')

def digitsValue (digits : List Char) : Nat :=
  digits.foldl (fun n c => 10 * n + (c.toNat - '0'.toNat)) 0

/-- A sign at the start of a text: whether it is a minus, and the text after it. -/
def splitSign : List Char → Bool × List Char
  | '-' :: rest => (true, rest)
  | '+' :: rest => (false, rest)
  | text => (false, text)

/-- The exponent that makes up a whole text: nothing, or the letter, a sign or none, and digits. -/
def exponent? : List Char → Option Int
  | [] => some 0
  | c :: rest =>
    let (negative, digits) := splitSign rest
    if (c = 'e' ∨ c = 'E') ∧ !digits.isEmpty ∧ digits.all isDigit then
      let value : Int := digitsValue digits
      some (if negative then -value else value)
    else none

/-- A text without a sign that makes up a number: at least one digit before or after the point. -/
def unsigned? (negative : Bool) (text : List Char) : Option Binary64 :=
  let whole := text.takeWhile isDigit
  let (fraction, afterFraction) := match text.dropWhile isDigit with
    | '.' :: rest => (rest.takeWhile isDigit, rest.dropWhile isDigit)
    | rest => ([], rest)
  let digits := whole ++ fraction
  if digits.isEmpty then none
  else (exponent? afterFraction).map fun exponent =>
    .ofDecimal negative (digitsValue digits) (exponent - fraction.length)

def parse? (text : List Char) : Option Binary64 :=
  let (negative, unsigned) := splitSign text
  let word := unsigned.map Char.toLower
  if word = "inf".toList ∨ word = "infinity".toList then some (.infinity negative)
  else if word = "nan".toList then some .nan
  else unsigned? negative unsigned

end BrowserAct.Decimal
