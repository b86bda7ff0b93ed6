/-!
# Blocks

The sixteen bytes on which a block cipher works, as two words with the first byte at the top.
-/

namespace BrowserAct.Cipher

/-- Sixteen bytes. -/
structure Block where
  high : UInt64
  low : UInt64
deriving DecidableEq

namespace Block

def zero : Block :=
  ⟨0, 0⟩

def xor (a b : Block) : Block :=
  ⟨a.high ^^^ b.high, a.low ^^^ b.low⟩

/-- The first eight bytes of a list as a word, with zeros for missing ones. -/
def wordOf (bytes : List UInt8) : UInt64 :=
  let given := bytes.take 8
  (given ++ List.replicate (8 - given.length) 0).foldl
    (fun (w : UInt64) (b : UInt8) => w <<< 8 ||| b.toUInt64) 0

/-- The first sixteen bytes of a list, with zeros for missing ones. -/
def ofBytes (bytes : List UInt8) : Block :=
  ⟨wordOf bytes, wordOf (bytes.drop 8)⟩

def bytesOfWord (w : UInt64) : List UInt8 :=
  [(w >>> 56).toUInt8, (w >>> 48).toUInt8, (w >>> 40).toUInt8, (w >>> 32).toUInt8,
    (w >>> 24).toUInt8, (w >>> 16).toUInt8, (w >>> 8).toUInt8, w.toUInt8]

def toBytes (b : Block) : List UInt8 :=
  bytesOfWord b.high ++ bytesOfWord b.low

/-- The bytes of a list in blocks, the last one filled up with zeros. -/
def blocks (bytes : List UInt8) : List Block :=
  if bytes.isEmpty then [] else ofBytes bytes :: blocks (bytes.drop 16)
termination_by bytes.length
decreasing_by
  cases bytes
  · simp_all
  · simp only [List.length_drop, List.length_cons]
    omega

@[simp] theorem length_toBytes (b : Block) : b.toBytes.length = 16 := rfl

end Block

end BrowserAct.Cipher
