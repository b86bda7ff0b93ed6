import BrowserAct.Channel.Key
import BrowserAct.Cipher.Aes
import BrowserAct.Cipher.Gcm
import BrowserAct.Json.Printer
import BrowserAct.Json.Reader

/-!
# Envelopes

Messages travel in envelopes: the text of a message, encrypted under the key of the channel with a
nonce of its own, both as lists of numbers.

* **`encrypt`** puts a message into an envelope, **`decrypt`** takes it out.
-/

namespace BrowserAct.Channel

open Cipher (Gcm.Nonce)

def envelopeType : String := "autonomy-encrypted-message"

def Key.encipher (key : Key) : Cipher.Block → Cipher.Block :=
  Cipher.Aes.encipher (Cipher.Aes.expand key.bytes)

def bytesJson (bytes : List UInt8) : Json :=
  .array (bytes.map fun b => .integer b.toNat)

def byteOf? : Json → Option UInt8
  | .integer n => if 0 ≤ n ∧ n < 256 then some (UInt8.ofNat n.toNat) else none
  | _ => none

def bytesOf? (j : Json) : Option (List UInt8) :=
  j.asArray?.bind fun items => items.mapM byteOf?

def envelope (nonce encrypted : List UInt8) : Json :=
  .ofFields
    [("type", .string envelopeType), ("iv", bytesJson nonce), ("encrypted", bytesJson encrypted)]

def encrypt (key : Key) (nonce : Gcm.Nonce) (message : Json) : Json :=
  let schedule := Cipher.Aes.expand key.bytes
  let text := message.compress.toUTF8.data.toList
  envelope nonce.bytes (Cipher.Gcm.encrypt (Cipher.Aes.encipher schedule) nonce text)

def messageOf (text : List UInt8) : Except Error Json :=
  match (String.fromUTF8? ⟨text.toArray⟩).bind Json.parse? with
  | some message => .ok message
  | none => .error .malformedText

def decryptBytes (key : Key) (nonce encrypted : List UInt8) : Except Error Json :=
  if h : nonce.length = 12 then
    let schedule := Cipher.Aes.expand key.bytes
    match Cipher.Gcm.decrypt? (Cipher.Aes.encipher schedule) ⟨nonce, h⟩ encrypted with
    | some text => messageOf text
    | none => .error .decryption
  else .error (.nonceLength nonce.length)

/-- The type of a message, the empty text if it has none. -/
def typeOf (message : Json) : String :=
  (message.field "type").stringOrEmpty

def decrypt (key : Key) (envelope : Json) : Except Error Json :=
  if typeOf envelope = envelopeType then
    match bytesOf? (envelope.field "encrypted"), bytesOf? (envelope.field "iv") with
    | some encrypted, some nonce => decryptBytes key nonce encrypted
    | _, _ => .error .malformedEnvelope
  else .error (.notEncrypted (typeOf envelope))

end BrowserAct.Channel
