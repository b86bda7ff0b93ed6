import BrowserAct.Decimal.Reader
import BrowserAct.Text.Lines
import BrowserAct.Url.Percent
import BrowserAct.Url.Punycode

/-!
# Hosts

The host of an address is a name, an address of four bytes, or an address of eight pieces. A name whose
last label is a number has to be an address of four bytes.
-/

namespace BrowserAct.Url

/-- The machine an address names. -/
inductive Host where
  | domain (name : String)
  | ipv4 (address : Nat)
  | ipv6 (pieces : List Nat)
deriving DecidableEq

namespace Host

/-! ## Four bytes -/

/-- The digits and the base of a number: hexadecimal after `0x`, octal after another `0`. -/
def splitBase : List Char → List Char × Nat
  | '0' :: 'x' :: digits => (digits, 16)
  | '0' :: 'X' :: digits => (digits, 16)
  | '0' :: d :: digits => (d :: digits, 8)
  | digits => (digits, 10)

/-- The number of a label. The base alone is zero. -/
def number? (label : List Char) : Option Nat :=
  if label.isEmpty then none
  else
    let (digits, base) := splitBase label
    digits.foldlM
      (fun n c => (Text.Hexadecimal.digitValue? c).bind fun d =>
        if d < base then some (base * n + d) else none) 0

/-- Whether the last label that is not empty is a number. -/
def endsInNumber (name : List Char) : Bool :=
  let labels := Text.splitOn '.' name
  let last := match labels.reverse with
    | [] :: last :: _ => last
    | [[]] => []
    | last :: _ => last
    | [] => []
  (!last.isEmpty && last.all Decimal.isDigit) || (number? last).isSome

/-- The address of up to four numbers, the last of which fills the bytes that are left. -/
def ipv4? (name : List Char) : Option Nat :=
  let labels := Text.splitOn '.' name
  let labels := if labels.getLast? = some [] then labels.dropLast else labels
  match labels.mapM number? with
  | none => none
  | some numbers =>
    match numbers.reverse with
    | [] => none
    | last :: front =>
      if 3 < front.length || front.any (255 < ·) || Nat.pow 2 (32 - 8 * front.length) ≤ last then none
      else
        let parts := numbers.dropLast.zipIdx.map fun (n, i) => n * Nat.pow 2 (8 * (3 - i))
        some (parts.foldl (· + ·) last)

/-! ## Eight pieces -/

def piece? (text : List Char) : Option Nat :=
  if 1 ≤ text.length ∧ text.length ≤ 4 then Text.Hexadecimal.value? text else none

/-- A decimal number below 256 without a leading zero. -/
def byte? (text : List Char) : Option Nat :=
  let n := Decimal.digitsValue text
  if text.isEmpty || !text.all Decimal.isDigit || 255 < n
      || (text.head? == some '0' && text != ['0']) then none
  else some n

/-- The two pieces that four bytes between dots stand for. -/
def embedded? (text : List Char) : Option (List Nat) :=
  match (Text.splitOn '.' text).mapM byte? with
  | some [a, b, c, d] => some [256 * a + b, 256 * c + d]
  | _ => none

/-- The pieces between colons; four bytes may stand for the last two. -/
def pieces? (text : List Char) : Option (List Nat) :=
  if text.isEmpty then some []
  else
    let parts := Text.splitOn ':' text
    let last := parts.getLast?.getD []
    if last.contains '.' then do
      return (← parts.dropLast.mapM piece?) ++ (← embedded? last)
    else parts.mapM piece?

/-- The text before and after the first two colons. -/
def splitGap? : List Char → Option (List Char × List Char)
  | ':' :: ':' :: rest => some ([], rest)
  | c :: rest => (splitGap? rest).map fun (front, back) => (c :: front, back)
  | [] => none

/-- The eight pieces of an address; two colons stand for a gap of zeros. -/
def ipv6? (text : List Char) : Option (List Nat) :=
  match splitGap? text with
  | none => (pieces? text).bind fun pieces => if pieces.length = 8 then some pieces else none
  | some (front, back) =>
    if front.contains '.' then none
    else do
      let front ← pieces? front
      let back ← pieces? back
      let given := front.length + back.length
      if 7 < given then none else some (front ++ List.replicate (8 - given) 0 ++ back)

/-! ## Names -/

def isForbidden (c : Char) : Bool :=
  decide (c.toNat ≤ 0x20) || c.toNat == 0x7f
    || ['#', '%', '/', ':', '<', '>', '?', '@', '[', '\\', ']', '^', '|'].contains c

/-- The characters that no name of an address of unknown scheme may have. -/
def isForbiddenOpaque (c : Char) : Bool :=
  ['\x00', '\t', '\n', '\r', ' ', '#', '/', ':', '<', '>', '?', '@', '[', '\\', ']', '^', '|'].contains c

/-- Characters beyond ASCII that no name may have: private use, noncharacters and the mark of a
character that could not be read. -/
def isUnassignable (c : Char) : Bool :=
  let n := c.toNat
  (decide (0x80 ≤ n) && decide (n < 0xa0)) || n == 0xfffd || n % 0x10000 == 0xfffe
    || n % 0x10000 == 0xffff || (decide (0xe000 ≤ n) && decide (n ≤ 0xf8ff)) || decide (0xf0000 ≤ n)
    || (decide (0xfdd0 ≤ n) && decide (n ≤ 0xfdef)) || (decide (0x200e ≤ n) && decide (n ≤ 0x200f))
    || (decide (0x2028 ≤ n) && decide (n ≤ 0x202e))

def isIgnored (c : Char) : Bool :=
  let n := c.toNat
  n == 0xad || n == 0x200b || n == 0x2060 || n == 0x2064 || n == 0xfeff
    || (decide (0xfe00 ≤ n) && decide (n ≤ 0xfe0f))

/-- The character that a wide or upper-case character of a name stands for. -/
def folded (c : Char) : Char :=
  let n := c.toNat
  if 0xff01 ≤ n ∧ n ≤ 0xff5e then (Char.ofNat (n - 0xfee0)).toLower
  else if n = 0x3002 ∨ n = 0xff61 then '.'
  else if n = 0xa0 ∨ n = 0x3000 ∨ n = 0x202f ∨ n = 0x205f ∨ (0x2000 ≤ n ∧ n ≤ 0x200a) then ' '
  else c.toLower

/-- Whether a character may stand in a name as it is. -/
def isSettled (c : Char) : Bool :=
  !isIgnored c && !isForbidden c && !isUnassignable c && folded c == c

/-- Whether a label is what it says: one that is written with ASCII alone has to read as a label that
needs it. -/
def isSoundLabel (label : List Char) : Bool :=
  match Text.dropStart? "xn--".toList label with
  | none => true
  | some text =>
    match Punycode.decode? text with
    | some label => label.all isSettled && label.any (0x7f < ·.toNat)
    | none => false

/-- A name with its characters folded, if all of them may stand in a name. -/
def name? (bytes : List UInt8) : Option (List Char) :=
  match String.fromUTF8? ⟨bytes.toArray⟩ with
  | none => none
  | some text =>
    let name := (text.toList.filter (!isIgnored ·)).map folded
    if name.isEmpty || name.any isForbidden || name.any isUnassignable
        || !(Text.splitOn '.' name).all isSoundLabel then none
    else some name

def bracketed? (text : List Char) : Option Host :=
  if text.getLast? = some ']' then (ipv6? text.dropLast).map .ipv6 else none

/-- The host of a text in an address of known scheme. -/
def parse? : List Char → Option Host
  | '[' :: rest => bracketed? rest
  | text =>
    (name? (percentDecode text)).bind fun name =>
      if endsInNumber name then (ipv4? name).map .ipv4 else some (.domain (String.ofList name))

/-- The host of a text in an address of unknown scheme. -/
def parseOpaque? : List Char → Option Host
  | '[' :: rest => bracketed? rest
  | text =>
    if text.any isForbiddenOpaque then none
    else some (.domain (String.ofList (percentEncode isControl text)))

end Host

end BrowserAct.Url
