/-!
# Punycode

A label with characters beyond ASCII is written with ASCII alone: first its ASCII characters, then,
after a hyphen, what says which characters are put in between and where. Those come in the order
of their code points; the step from each to the next is a number whose digits have the base 36, least
significant first, and whose last digit is the first that stays below a threshold.

* **`decode?`** reads a label.
-/

namespace BrowserAct.Url.Punycode

def digitValue? (c : Char) : Option Nat :=
  if 'a' ≤ c ∧ c ≤ 'z' then some (c.toNat - 'a'.toNat)
  else if 'A' ≤ c ∧ c ≤ 'Z' then some (c.toNat - 'A'.toNat)
  else if '0' ≤ c ∧ c ≤ '9' then some (c.toNat - '0'.toNat + 26)
  else none

/-- The threshold of a digit at a position, which is given as a multiple of 36. -/
def threshold (position bias : Nat) : Nat :=
  min (max (position - bias) 1) 26

/-- A step made small enough to set a bias, and 36 for each time it was divided. -/
def shrink (step : Nat) : Nat × Nat :=
  if 455 < step then
    let (small, added) := shrink (step / 35)
    (small, added + 36)
  else (step, 0)
termination_by step

/-- The bias after a step; `length` is that of the label with the new character. -/
def adapt (step length : Nat) (isFirst : Bool) : Nat :=
  let damped := if isFirst then step / 700 else step / 2
  let (small, added) := shrink (damped + damped / length)
  added + 36 * small / (small + 38)

/-- How far a label is read. -/
structure Reading where
  /-- The label so far. -/
  label : List Char
  /-- The code point of the character put in last. -/
  code : Nat := 0x80
  /-- Where the next character would be put in. -/
  index : Nat := 0
  bias : Nat := 72
  /-- The number read so far, from its digits up to here. -/
  step : Nat := 0
  /-- What the next digit counts. -/
  weight : Nat := 1
  position : Nat := 36

namespace Reading

/-- Puts in the character that a finished number stands for. -/
def insert? (r : Reading) (step : Nat) : Option Reading :=
  let length := r.label.length + 1
  let place := r.index + step
  let code := r.code + place / length
  let index := place % length
  if code.isValidChar then
    some
      { label := r.label.take index ++ Char.ofNat code :: r.label.drop index
        code, index := index + 1, bias := adapt step length (r.index == 0) }
  else none

def push? (r : Reading) (c : Char) : Option Reading :=
  (digitValue? c).bind fun digit =>
    let step := r.step + digit * r.weight
    let t := threshold r.position r.bias
    if 0x1_0000_0000 ≤ r.index + step then none
    else if digit < t then r.insert? step
    else some { r with step, weight := r.weight * (36 - t), position := r.position + 36 }

end Reading

/-- The characters before the last hyphen, and the digits after it; without a hyphen all are
digits. -/
def split (text : List Char) : List Char × List Char :=
  let backward := text.reverse
  if text.contains '-' then
    ((backward.dropWhile (· != '-')).tail.reverse, (backward.takeWhile (· != '-')).reverse)
  else ([], text)

def decode? (text : List Char) : Option (List Char) :=
  let (label, digits) := split text
  match digits.foldlM Reading.push? { label } with
  | some r => if r.position = 36 then some r.label else none
  | none => none

example : decode? "n3h".toList = some ['☃'] := by decide +kernel
example : decode? "mnchen-3ya".toList = some "münchen".toList := by decide +kernel
example : decode? "a".toList = some [Char.ofNat 0x80] := by decide +kernel
example : decode? "zz".toList = none := by decide +kernel

end BrowserAct.Url.Punycode
