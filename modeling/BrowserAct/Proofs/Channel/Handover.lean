import BrowserAct.Proofs.Channel.RoundTrip
import BrowserAct.Proofs.Json.Standard
import BrowserAct.Proofs.Text.Hexadecimal

/-!
# What a key opens

Both sides of a channel hold the same key, one of them from the message that hands it over. Under that
key an envelope gives back the message that was put into it, and nothing but an envelope gives a message.

* **`Key.ofHex_eq_ok_iff`** says which key is read from a text, **`Key.exists_ofHex_iff`** from which texts
  one is read.
* **`Opens`** says what an envelope is that holds a message, **`decrypt_eq_ok_iff`** that these are the
  values that are decrypted.
* **`opens_on_both_sides`** puts them together for a key that was handed over.
-/

namespace BrowserAct.Channel

open Cipher (Gcm.Nonce Gcm.tag Gcm.addStream)
open Text.Hexadecimal (IsDigit encode decode_eq_ok_iff exists_encode_iff map_toLower_encode)

/-! ## Keys -/

namespace Key

/-- When a text in lower case is that of a key. -/
theorem toHex_eq_toLower_iff {text : String} {key : Key} :
    key.toHex = text.toLower ↔ text.toList.map Char.toLower = encode key.bytes := by
  have hlower : text.toLower.toList = text.toList.map Char.toLower := String.toList_map
  rw [← String.toList_inj, hlower, toHex, String.toList_ofList, eq_comm]

/-- **The key of a text** is the one that is written as this text is in lower case. -/
theorem ofHex_eq_ok_iff {text : String} {key : Key} :
    ofHex text = .ok key ↔ key.toHex = text.toLower := by
  rw [toHex_eq_toLower_iff, ← decode_eq_ok_iff, ofHex]
  cases hread : Text.Hexadecimal.decode text with
  | error cause => simp
  | ok bytes =>
    show ofBytes bytes = .ok key ↔ _
    rw [ofBytes, Except.ok.injEq]
    split
    · rw [Except.ok.injEq]
      constructor
      · rintro rfl
        rfl
      · rintro rfl
        rfl
    -- a key has its length, so bytes of another length are those of no key
    · rename_i hlength
      constructor
      · intro found
        cases found
      · rintro rfl
        exact (hlength key.length_eq).elim

/-- A written key is read back. -/
theorem ofHex_toHex (key : Key) : ofHex key.toHex = .ok key := by
  rw [ofHex_eq_ok_iff, toHex_eq_toLower_iff, toHex, String.toList_ofList, map_toLower_encode]

/-- **Which texts are read as a key**: those of 64 digits. -/
theorem exists_ofHex_iff {text : String} :
    (∃ key, ofHex text = .ok key) ↔ text.length = 64 ∧ ∀ c ∈ text.toList, IsDigit c := by
  have hexists : (∃ key, ofHex text = .ok key) ↔
      ∃ bytes : List UInt8, bytes.length = 32 ∧ text.toList.map Char.toLower = encode bytes := by
    constructor
    · rintro ⟨key, read⟩
      exact ⟨key.bytes, key.length_eq, toHex_eq_toLower_iff.mp (ofHex_eq_ok_iff.mp read)⟩
    · rintro ⟨bytes, hlength, hwritten⟩
      exact ⟨⟨bytes, hlength⟩, ofHex_eq_ok_iff.mpr (toHex_eq_toLower_iff.mpr hwritten)⟩
  rw [hexists, exists_encode_iff, String.length_toList]

/-- The message that hands over a key has its text. -/
theorem get?_setKeyMessage (key : Key) :
    key.setKeyMessage.get? "key" = some (.string key.toHex) :=
  Json.get?_ofFields_append [("type", .string setKeyType)] _ (by simp)

end Key

/-! ## Bytes from numbers -/

/-- A byte is read of its number and of nothing else. -/
theorem byteOf?_eq_some_iff {j : Json} {b : UInt8} :
    byteOf? j = some b ↔ j = .integer b.toNat := by
  constructor
  · intro read
    cases j with
    | integer n =>
      rw [byteOf?] at read
      split at read
      · rename_i hbyte
        cases read
        obtain ⟨n, rfl⟩ := Int.eq_ofNat_of_zero_le hbyte.1
        have hsmall : n < 256 := by omega
        rw [Int.toNat_natCast, UInt8.toNat_ofNat_of_lt' hsmall]
      · cases read
    | _ => cases read
  · rintro rfl
    exact byteOf?_integer b

/-- Only the numbers from 0 to 255 are read as bytes. -/
theorem bytesOf?_eq_some_iff {j : Json} {bytes : List UInt8} :
    bytesOf? j = some bytes ↔ j = bytesJson bytes := by
  constructor
  · intro read
    cases j with
    | array items =>
      replace read : items.mapM byteOf? = some bytes := read
      rw [bytesJson]
      -- number by number
      congr 1
      induction items generalizing bytes with
      | nil =>
        cases read
        rfl
      | cons item items ih =>
        rw [List.mapM_cons] at read
        obtain ⟨b, hb, read⟩ := Option.bind_eq_some_iff.mp read
        obtain ⟨rest, hrest, read⟩ := Option.bind_eq_some_iff.mp read
        cases read
        rw [List.map_cons, byteOf?_eq_some_iff.mp hb, ih hrest]
    | _ => cases read
  · rintro rfl
    exact bytesOf?_bytesJson bytes

/-! ## Text from bytes -/

/-- Bytes are read as a message exactly if they are those of a text that is. -/
theorem messageOf_eq_ok_iff {bytes : List UInt8} {message : Json} :
    messageOf bytes = .ok message ↔
      ∃ text : String, bytes = text.toUTF8.data.toList ∧ Json.parse? text = some message := by
  constructor
  · intro read
    rw [messageOf] at read
    cases hread : (String.fromUTF8? ⟨bytes.toArray⟩).bind Json.parse? with
    | none =>
      rw [hread] at read
      cases read
    | some found =>
      rw [hread] at read
      cases read
      obtain ⟨text, htext, hparsed⟩ := Option.bind_eq_some_iff.mp hread
      refine ⟨text, ?_, hparsed⟩
      -- bytes that are valid are those of their text
      rw [String.fromUTF8?] at htext
      split at htext
      · cases htext
        rfl
      · cases htext
  · rintro ⟨text, rfl, hparsed⟩
    exact messageOf_toUTF8_eq_ok_iff.mpr hparsed

/-- What is encrypted is the text added to the stream, with the tag that belongs to it behind. -/
theorem decrypt?_eq_some_iff {encipher : Cipher.Block → Cipher.Block} {nonce : Gcm.Nonce}
    {encrypted text : List UInt8} :
    Cipher.Gcm.decrypt? encipher nonce encrypted = some text ↔
      ∃ enciphered, encrypted = enciphered ++ Gcm.tag encipher nonce enciphered ∧
        Gcm.addStream encipher nonce enciphered = text := by
  constructor
  · intro decrypted
    rw [Cipher.Gcm.decrypt?] at decrypted
    split at decrypted
    · cases decrypted
    · rename_i htagged
      obtain ⟨-, htag⟩ := not_or.mp htagged
      cases decrypted
      -- the last sixteen bytes are the tag
      refine ⟨encrypted.take (encrypted.length - 16), ?_, rfl⟩
      rw [← Decidable.not_not.mp htag, List.take_append_drop]
  · rintro ⟨enciphered, rfl, rfl⟩
    simp [Cipher.Gcm.decrypt?]

/-! ## Envelopes -/

/-- A value is an envelope that holds a message: its type says so, its nonce has twelve bytes, what is
encrypted carries the tag that belongs to it, and it is deciphered to the text of the message. -/
inductive Opens (key : Key) (envelope message : Json) : Prop where
  | intro (nonce : Gcm.Nonce) (enciphered : List UInt8) (text : String)
      (typed : envelope.get? "type" = some (.string envelopeType))
      (iv : envelope.get? "iv" = some (bytesJson nonce.bytes))
      (encrypted : envelope.get? "encrypted" =
        some (bytesJson (enciphered ++ Gcm.tag key.encipher nonce enciphered)))
      (deciphered : Gcm.addStream key.encipher nonce enciphered = text.toUTF8.data.toList)
      (read : Json.parse? text = some message)

/-- An envelope names its type. -/
theorem typeOf_eq_envelopeType_iff {j : Json} :
    typeOf j = envelopeType ↔ j.get? "type" = some (.string envelopeType) := by
  have hnull : Json.string envelopeType ≠ .null := by simp
  rw [← Json.field_eq_iff hnull, typeOf]
  cases j.field "type" <;> simp [Json.stringOrEmpty, Json.asString?, envelopeType]

/-- Bytes are read of a field that holds their numbers. -/
theorem bytesOf?_field_eq_some_iff {j : Json} {name : String} {bytes : List UInt8} :
    bytesOf? (j.field name) = some bytes ↔ j.get? name = some (bytesJson bytes) := by
  have hnull : bytesJson bytes ≠ .null := by simp [bytesJson]
  rw [bytesOf?_eq_some_iff, Json.field_eq_iff hnull]

/-- A text is opened with a nonce of the right length only. -/
theorem decryptBytes_eq_ok_iff {key : Key} {nonce encrypted : List UInt8} {message : Json} :
    decryptBytes key nonce encrypted = .ok message ↔
      ∃ (hnonce : nonce.length = 12) (text : List UInt8),
        Cipher.Gcm.decrypt? key.encipher ⟨nonce, hnonce⟩ encrypted = some text ∧
          messageOf text = .ok message := by
  rw [decryptBytes]
  constructor
  · intro decrypted
    split at decrypted
    · rename_i hnonce
      dsimp only at decrypted
      split at decrypted
      · rename_i text htext
        exact ⟨hnonce, text, htext, decrypted⟩
      · cases decrypted
    · cases decrypted
  · rintro ⟨hnonce, text, htext, hread⟩
    rw [Key.encipher] at htext
    rw [dif_pos hnonce]
    dsimp only
    rw [htext]
    exact hread

/-- **What is decrypted** are the envelopes that hold a message, and nothing else. -/
theorem decrypt_eq_ok_iff {key : Key} {envelope message : Json} :
    decrypt key envelope = .ok message ↔ Opens key envelope message := by
  rw [decrypt]
  constructor
  · intro decrypted
    split at decrypted
    · rename_i htype
      split at decrypted
      -- each check that was passed determines a part of the envelope
      · rename_i encrypted nonce hencrypted hnonce
        obtain ⟨hlength, bytes, hbytes, hread⟩ := decryptBytes_eq_ok_iff.mp decrypted
        obtain ⟨enciphered, rfl, hdeciphered⟩ := decrypt?_eq_some_iff.mp hbytes
        obtain ⟨text, rfl, hparsed⟩ := messageOf_eq_ok_iff.mp hread
        exact .intro ⟨nonce, hlength⟩ enciphered text (typeOf_eq_envelopeType_iff.mp htype)
          (bytesOf?_field_eq_some_iff.mp hnonce) (bytesOf?_field_eq_some_iff.mp hencrypted)
          hdeciphered hparsed
      · cases decrypted
    · cases decrypted
  · rintro ⟨nonce, enciphered, text, htype, hnonce, hencrypted, hdeciphered, hparsed⟩
    rw [if_pos (typeOf_eq_envelopeType_iff.mpr htype), bytesOf?_field_eq_some_iff.mpr hencrypted,
      bytesOf?_field_eq_some_iff.mpr hnonce]
    dsimp only
    rw [decryptBytes_eq_ok_iff]
    exact ⟨nonce.length_eq, _, decrypt?_eq_some_iff.mpr ⟨enciphered, rfl, hdeciphered⟩,
      messageOf_eq_ok_iff.mpr ⟨text, rfl, hparsed⟩⟩

/-! ## Both sides -/

/-- **A key that is handed over** opens what was encrypted on the other side, in either direction: a
standard message, nested no deeper than the reader goes, comes out of its envelope as it was put in. A
key is read from 64 digits and from no other text, and written as that text in lower case. Whatever the
key, only an envelope that holds a message is decrypted, to that message; all else is refused. -/
theorem opens_on_both_sides (key : Key) (nonce : Gcm.Nonce) {message : Json}
    (standard : message.Standard) (within : message.depth ≤ Json.nestingLimit) :
    decrypt key (encrypt key nonce message) = .ok message ∧
    (∃ text rebuilt, key.setKeyMessage.get? "key" = some (.string text) ∧
      Key.ofHex text = .ok rebuilt ∧
      decrypt rebuilt (encrypt key nonce message) = .ok message ∧
      decrypt key (encrypt rebuilt nonce message) = .ok message) ∧
    (∀ text : String, (∃ read, Key.ofHex text = .ok read) ↔
      text.length = 64 ∧ ∀ c ∈ text.toList, IsDigit c) ∧
    (∀ (text : String) (read : Key), Key.ofHex text = .ok read →
      read.toHex = text.toLower ∧ Key.ofHex read.toHex = .ok read) ∧
    (∀ (other : Key) (envelope held : Json),
      decrypt other envelope = .ok held ↔ Opens other envelope held) ∧
    ∀ (other : Key) (envelope : Json), (¬ ∃ held, Opens other envelope held) →
      ∃ cause, decrypt other envelope = .error cause := by
  have hread := Json.parse?_compress_of_standard standard within
  have hopens := decrypt_encrypt hread key nonce
  refine ⟨hopens, ⟨key.toHex, key, key.get?_setKeyMessage, key.ofHex_toHex, hopens, hopens⟩,
    fun text => Key.exists_ofHex_iff, ?_, fun other envelope held => decrypt_eq_ok_iff, ?_⟩
  · intro text read hkey
    exact ⟨Key.ofHex_eq_ok_iff.mp hkey, read.ofHex_toHex⟩
  · intro other envelope hclosed
    -- what does not open gives a cause, as decryption always ends
    cases hdecrypted : decrypt other envelope with
    | error cause => exact ⟨cause, rfl⟩
    | ok held => exact (hclosed ⟨held, decrypt_eq_ok_iff.mp hdecrypted⟩).elim

namespace Sample

/-- A message with values inside values. -/
def greeting : Json :=
  .object
    [("items", .array [.integer (-3), .string "a \"b\" é", .null, .array []]),
      ("type", .string "hello")]

/-- A key of ones, and a nonce of twos. -/
def ones : Key := ⟨List.replicate 32 1, List.length_replicate⟩

def twos : Gcm.Nonce := ⟨List.replicate 12 2, List.length_replicate⟩

/-- The message comes out of its envelope on both sides. -/
theorem greeting_opens :
    greeting.Standard ∧ greeting.depth ≤ Json.nestingLimit ∧
      decrypt ones (encrypt ones twos greeting) = .ok greeting ∧
      ∃ text rebuilt, ones.setKeyMessage.get? "key" = some (.string text) ∧
        Key.ofHex text = .ok rebuilt ∧
        decrypt rebuilt (encrypt ones twos greeting) = .ok greeting ∧
        decrypt ones (encrypt rebuilt twos greeting) = .ok greeting := by
  have order : "items" < "type" := by decide
  have hsorted : Json.Fields.Sorted
      [("items", .array [.integer (-3), .string "a \"b\" é", .null, .array []]),
        ("type", .string "hello")] := List.pairwise_pair.mpr order
  have hnumber : (Json.integer (-3)).Standard := by
    simp [Json.Standard]
  -- its fields are in order and its number is of 64 bits
  have hstandard : greeting.Standard :=
    ⟨hsorted, ⟨hnumber, trivial, trivial, ⟨trivial, trivial⟩⟩, trivial, trivial⟩
  have hwithin : greeting.depth ≤ Json.nestingLimit := by decide
  have hboth := opens_on_both_sides ones twos hstandard hwithin
  exact ⟨hstandard, hwithin, hboth.1, hboth.2.1⟩

end Sample

end BrowserAct.Channel
