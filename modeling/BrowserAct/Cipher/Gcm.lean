import BrowserAct.Cipher.Block

/-!
# Encryption with a counter and a tag

A text is encrypted under a block cipher: it is added to the enciphered values of a counter, and a tag
of sixteen bytes over the result is put behind it. An encrypted text is decrypted only if it carries
the tag that belongs to it.

* **`decrypt?_encrypt`** says that decryption undoes encryption, for every block cipher.
-/

namespace BrowserAct.Cipher.Gcm

/-- The twelve bytes that make the counters of one text differ from those of any other. -/
structure Nonce where
  bytes : List UInt8
  length_eq : bytes.length = 12 := by decide

def counterBlock (nonce : Nonce) (n : Nat) : Block :=
  let high := Block.wordOf nonce.bytes
  let low := Block.wordOf (nonce.bytes.drop 8)
  ⟨high, low ||| (UInt32.ofNat n).toUInt64⟩

/-! ## The tag -/

/-- Multiplication in the field of the tag, bit by bit: `x` is the part of the first factor that is
left, and `v` the second factor times the power reached. -/
def multiplyLoop : Nat → Block → Block → Block → Block
  | 0, _, _, sum => sum
  | n + 1, x, v, sum =>
    let sum := if x.high >>> 63 = 1 then sum.xor v else sum
    let x : Block := ⟨x.high <<< 1 ||| x.low >>> 63, x.low <<< 1⟩
    let high := v.high >>> 1
    let low := v.low >>> 1 ||| v.high <<< 63
    let v : Block := if v.low &&& 1 = 1 then ⟨high ^^^ 0xe100000000000000, low⟩ else ⟨high, low⟩
    multiplyLoop n x v sum

def multiply (x y : Block) : Block :=
  multiplyLoop 128 x y .zero

/-- The hash of a list of blocks under a hash key. -/
def hash (key : Block) (blocks : List Block) : Block :=
  blocks.foldl (fun sum b => multiply (sum.xor b) key) .zero

def tag (encipher : Block → Block) (nonce : Nonce) (text : List UInt8) : List UInt8 :=
  let lengths : Block := ⟨0, UInt64.ofNat (8 * text.length)⟩
  let hashed := hash (encipher .zero) (Block.blocks text ++ [lengths])
  (hashed.xor (encipher (counterBlock nonce 1))).toBytes

/-! ## The stream -/

def stream (encipher : Block → Block) (nonce : Nonce) : Nat → Nat → List UInt8
  | 0, _ => []
  | n + 1, counter =>
    (encipher (counterBlock nonce counter)).toBytes ++ stream encipher nonce n (counter + 1)

/-- Adds the stream to a text; doing so twice gives the text back. -/
def addStream (encipher : Block → Block) (nonce : Nonce) (text : List UInt8) : List UInt8 :=
  List.zipWith (· ^^^ ·) text (stream encipher nonce ((text.length + 15) / 16) 2)

/-! ## Encryption and decryption -/

def encrypt (encipher : Block → Block) (nonce : Nonce) (text : List UInt8) : List UInt8 :=
  let enciphered := addStream encipher nonce text
  enciphered ++ tag encipher nonce enciphered

/-- Decrypts a text, if its tag is right. -/
def decrypt? (encipher : Block → Block) (nonce : Nonce) (text : List UInt8) :
    Option (List UInt8) :=
  let length := text.length - 16
  let enciphered := text.take length
  if text.length < 16 ∨ text.drop length ≠ tag encipher nonce enciphered then none
  else some (addStream encipher nonce enciphered)

/-! ## Laws -/

theorem length_stream (encipher : Block → Block) (nonce : Nonce) (n counter : Nat) :
    (stream encipher nonce n counter).length = 16 * n := by
  induction n generalizing counter with
  | zero => rfl
  | succ n ih => simp [stream, ih]; omega

theorem length_addStream (encipher : Block → Block) (nonce : Nonce) (text : List UInt8) :
    (addStream encipher nonce text).length = text.length := by
  simp [addStream, length_stream]
  omega

theorem zipWith_xor_self : ∀ (text key : List UInt8), text.length ≤ key.length →
    List.zipWith (· ^^^ ·) (List.zipWith (· ^^^ ·) text key) key = text
  | [], _, _ => by simp
  | _ :: _, [], h => by simp at h
  | a :: text, k :: key, h => by
    have ih := zipWith_xor_self text key (by simpa using h)
    simp only [List.zipWith_cons_cons, UInt8.xor_assoc, UInt8.xor_self, UInt8.xor_zero, ih]

/-- Adding the stream twice gives the text back. -/
theorem addStream_addStream (encipher : Block → Block) (nonce : Nonce) (text : List UInt8) :
    addStream encipher nonce (addStream encipher nonce text) = text := by
  have h : (stream encipher nonce ((text.length + 15) / 16) 2).length ≥ text.length := by
    rw [length_stream]
    omega
  rw [addStream, length_addStream, addStream]
  exact zipWith_xor_self _ _ h

@[simp] theorem length_tag (encipher : Block → Block) (nonce : Nonce) (text : List UInt8) :
    (tag encipher nonce text).length = 16 := by
  simp [tag]

/-- Decryption undoes encryption. -/
theorem decrypt?_encrypt (encipher : Block → Block) (nonce : Nonce) (text : List UInt8) :
    decrypt? encipher nonce (encrypt encipher nonce text) = some text := by
  simp [decrypt?, encrypt, addStream_addStream]

end BrowserAct.Cipher.Gcm
