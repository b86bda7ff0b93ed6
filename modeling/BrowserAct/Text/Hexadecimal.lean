/-!
# Hexadecimal

Bytes as two lower-case digits each, and the reading of digits in either case.
-/

namespace BrowserAct.Text.Hexadecimal

def digitValue? (c : Char) : Option Nat :=
  if '0' ≤ c ∧ c ≤ '9' then some (c.toNat - '0'.toNat)
  else if 'a' ≤ c ∧ c ≤ 'f' then some (c.toNat - 'a'.toNat + 10)
  else if 'A' ≤ c ∧ c ≤ 'F' then some (c.toNat - 'A'.toNat + 10)
  else none

/-- The lower-case digit of a value below sixteen. -/
def digitChar (n : Nat) : Char :=
  Nat.digitChar n

/-- A natural in hexadecimal, without leading zeros. -/
def digits (n : Nat) : List Char :=
  Nat.toDigits 16 n

/-- A natural in hexadecimal, with at least `width` digits. -/
def padded (width n : Nat) : List Char :=
  let text := digits n
  List.replicate (width - text.length) '0' ++ text

/-- The value of a fixed number of hexadecimal digits. -/
def value? (text : List Char) : Option Nat :=
  text.foldlM (fun n c => (digitValue? c).map (16 * n + ·)) 0

def encodeByte (b : UInt8) : List Char :=
  [digitChar (b.toNat / 16), digitChar (b.toNat % 16)]

/-- Bytes, two digits each. -/
def encode (bytes : List UInt8) : List Char :=
  bytes.flatMap encodeByte

/-- Why a text is not a sequence of bytes. -/
inductive DecodeError where
  | oddLength
  | badDigit (c : Char) (position : Nat)
deriving DecidableEq

/-- The bytes of a text of digit pairs; `position` counts from the start of the whole text. -/
def decodePairs (position : Nat) : List UInt8 → Except DecodeError (List UInt8)
  | [] => .ok []
  | [_] => .error .oddLength
  | a :: b :: rest =>
    let digit := fun (byte : UInt8) => Char.ofNat byte.toNat
    match digitValue? (digit a), digitValue? (digit b) with
    | none, _ => .error (.badDigit (digit a) position)
    | _, none => .error (.badDigit (digit b) (position + 1))
    | some high, some low =>
      (decodePairs (position + 2) rest).map (UInt8.ofNat (16 * high + low) :: ·)

/-- The bytes written in a text. An odd number of digits is found before a bad digit, and positions
count the bytes of the text. -/
def decode (text : String) : Except DecodeError (List UInt8) :=
  let bytes := text.toUTF8.data.toList
  if bytes.length % 2 = 1 then .error .oddLength else decodePairs 0 bytes

end BrowserAct.Text.Hexadecimal
