import BrowserAct.Cipher.Block

/-!
# The AES block cipher with keys of 32 bytes

A block is four columns of four bytes, the first byte of a column at the top of its word. A key is
expanded to fifteen round keys; fourteen rounds substitute bytes, shift rows, mix columns and add a
round key.
-/

namespace BrowserAct.Cipher.Aes

/-- Four columns. -/
structure Columns where
  first : UInt32
  second : UInt32
  third : UInt32
  fourth : UInt32
deriving DecidableEq

namespace Columns

def ofBlock (b : Block) : Columns :=
  ⟨(b.high >>> 32).toUInt32, b.high.toUInt32, (b.low >>> 32).toUInt32, b.low.toUInt32⟩

def toBlock (c : Columns) : Block :=
  ⟨c.first.toUInt64 <<< 32 ||| c.second.toUInt64, c.third.toUInt64 <<< 32 ||| c.fourth.toUInt64⟩

def add (a b : Columns) : Columns :=
  ⟨a.first ^^^ b.first, a.second ^^^ b.second, a.third ^^^ b.third, a.fourth ^^^ b.fourth⟩

end Columns

/-! ## Bytes as elements of a field -/

def double (b : UInt8) : UInt8 :=
  let shifted := b <<< 1
  if b < 0x80 then shifted else shifted ^^^ 0x1b

/-- The product of two bytes, of which the second is read bit by bit. -/
def timesLoop : Nat → UInt8 → UInt8 → UInt8
  | 0, _, _ => 0
  | n + 1, a, b => (if b &&& 1 = 1 then a else 0) ^^^ timesLoop n (double a) (b >>> 1)

def times (a b : UInt8) : UInt8 :=
  timesLoop 8 a b

/-- The inverse of a byte, which is its power 254; the inverse of zero is zero. -/
def inverse (b : UInt8) : UInt8 :=
  let square := times b b
  let upTo := fun (n : Nat) => n.fold (fun _ _ (p : UInt8 × UInt8) =>
    (times p.1 p.1, times p.2 p.1)) (square, 1)
  (upTo 7).2

def turn (b n : UInt8) : UInt8 :=
  b <<< n ||| b >>> (8 - n)

/-- The byte that replaces a byte: an affine image of its inverse. -/
def replacement (b : UInt8) : UInt8 :=
  let i := inverse b
  i ^^^ turn i 1 ^^^ turn i 2 ^^^ turn i 3 ^^^ turn i 4 ^^^ 0x63

def replacements : Vector UInt8 256 :=
  .ofFn fun i => replacement (UInt8.ofFin i)

/-- The byte that replaces a byte, looked up. -/
def substitute (b : UInt8) : UInt8 :=
  replacements[b.toFin]

/-! ## Columns -/

def byteAt (w : UInt32) (row : UInt32) : UInt8 :=
  (w >>> (24 - 8 * row)).toUInt8

def column (a b c d : UInt8) : UInt32 :=
  a.toUInt32 <<< 24 ||| b.toUInt32 <<< 16 ||| c.toUInt32 <<< 8 ||| d.toUInt32

def substituteColumn (w : UInt32) : UInt32 :=
  column (substitute (byteAt w 0)) (substitute (byteAt w 1)) (substitute (byteAt w 2))
    (substitute (byteAt w 3))

def rotate (w : UInt32) : UInt32 :=
  w <<< 8 ||| w >>> 24

def mixColumn (w : UInt32) : UInt32 :=
  let a := byteAt w 0
  let b := byteAt w 1
  let c := byteAt w 2
  let d := byteAt w 3
  let all := a ^^^ b ^^^ c ^^^ d
  column (a ^^^ all ^^^ double (a ^^^ b)) (b ^^^ all ^^^ double (b ^^^ c))
    (c ^^^ all ^^^ double (c ^^^ d)) (d ^^^ all ^^^ double (d ^^^ a))

/-- Replaces all bytes and shifts each row by its number. -/
def substituteAndShift (c : Columns) : Columns :=
  let pick := fun (w x y z : UInt32) =>
    column (substitute (byteAt w 0)) (substitute (byteAt x 1)) (substitute (byteAt y 2))
      (substitute (byteAt z 3))
  ⟨pick c.first c.second c.third c.fourth, pick c.second c.third c.fourth c.first,
    pick c.third c.fourth c.first c.second, pick c.fourth c.first c.second c.third⟩

def mixColumns (c : Columns) : Columns :=
  ⟨mixColumn c.first, mixColumn c.second, mixColumn c.third, mixColumn c.fourth⟩

/-! ## Round keys -/

/-- The first two round keys are the key itself, and each pair gives the next pair. -/
def nextPair (constant : UInt32) (a b : Columns) : Columns × Columns :=
  let chain := fun (seed : UInt32) (c : Columns) =>
    let first := c.first ^^^ seed
    let second := c.second ^^^ first
    let third := c.third ^^^ second
    (⟨first, second, third, c.fourth ^^^ third⟩ : Columns)
  let a' := chain (substituteColumn (rotate b.fourth) ^^^ constant) a
  (a', chain (substituteColumn a'.fourth) b)

/-- The round keys after a pair, one pair for each constant. -/
def expandFrom : List UInt32 → Columns → Columns → List Columns
  | [], _, _ => []
  | constant :: rest, a, b =>
    let (a', b') := nextPair constant a b
    a' :: b' :: expandFrom rest a' b'

def roundConstants : List UInt32 :=
  [0x01000000, 0x02000000, 0x04000000, 0x08000000, 0x10000000, 0x20000000, 0x40000000]

/-- The first round key and the fourteen others. -/
structure Schedule where
  first : Columns
  others : List Columns

def expand (key : List UInt8) : Schedule :=
  let a := Columns.ofBlock (.ofBytes key)
  let b := Columns.ofBlock (.ofBytes (key.drop 16))
  ⟨a, b :: (expandFrom roundConstants a b).take 13⟩

/-! ## Rounds -/

/-- The rounds for some round keys; the last one does not mix. -/
def rounds : List Columns → Columns → Columns
  | [], state => state
  | [last], state => (substituteAndShift state).add last
  | key :: rest, state => rounds rest ((mixColumns (substituteAndShift state)).add key)

def encipher (schedule : Schedule) (b : Block) : Block :=
  (rounds schedule.others ((Columns.ofBlock b).add schedule.first)).toBlock

example : replacement 0x00 = 0x63 := by decide
example : replacement 0x53 = 0xed := by decide

end BrowserAct.Cipher.Aes
