/-!
# Bytes in base 64

Three bytes are written as four digits; a last group of one or two bytes is filled up with `=`. The
unused bits of a last group are zero, so each list of bytes has one text.
-/

namespace BrowserAct.Text.Base64

def alphabet : List Char :=
  "ABCDEFGHIJKLMNOPQRSTUVWXYZabcdefghijklmnopqrstuvwxyz0123456789+/".toList

def digit? (c : Char) : Option Nat :=
  alphabet.idxOf? c

/-- The value of digits, the first of which weighs most. -/
def value? (digits : List Char) : Option Nat :=
  digits.foldlM (fun n c => (digit? c).map (64 * n + ·)) 0

/-- The bytes of a number, the first of which weighs most. -/
def bytes (count n : Nat) : List UInt8 :=
  (List.range count).reverse.map fun i => UInt8.ofNat (n / Nat.pow 256 i)

/-- The bytes of a last group, which leaves so many bits unused. -/
def lastGroup? (count spare : Nat) (digits : List Char) : Option (List UInt8) :=
  match value? digits with
  | some n => if n % Nat.pow 2 spare = 0 then some (bytes count (n / Nat.pow 2 spare)) else none
  | none => none

def decode? : List Char → Option (List UInt8)
  | [] => some []
  | [a, b, '=', '='] => lastGroup? 1 4 [a, b]
  | [a, b, c, '='] => lastGroup? 2 2 [a, b, c]
  | a :: b :: c :: d :: rest =>
    match value? [a, b, c, d], decode? rest with
    | some n, some more => some (bytes 3 n ++ more)
    | _, _ => none
  | _ => none

/-! ## Checks -/

example : decode? "TWFu".toList = some [77, 97, 110] := by decide +kernel
example : decode? "TWE=".toList = some [77, 97] := by decide +kernel
example : decode? "TWF=".toList = none := by decide +kernel

end BrowserAct.Text.Base64
