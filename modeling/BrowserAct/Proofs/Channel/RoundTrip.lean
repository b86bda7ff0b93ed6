import BrowserAct.Channel.Inbound

/-!
# Opening what was put into an envelope

A message whose text is read back comes out of its envelope as it was put in, under the same key.

* **`decrypt_encrypt_eq_ok_iff`** says what an envelope gives back, whatever was put into it.
* **`decrypt_encrypt`** opens an envelope, given that the text of the message is read back.
* **`receive_encrypt`** is the same for a message that is read as a report.
-/

namespace BrowserAct.Channel

/-! ## Bytes as numbers -/

@[simp] theorem byteOf?_integer (b : UInt8) : byteOf? (.integer b.toNat) = some b := by
  have small : b.toNat < 256 := b.toNat_lt
  simp only [byteOf?]
  rw [if_pos (by omega), Int.toNat_natCast, UInt8.ofNat_toNat]

/-- Bytes written as numbers are read back. -/
@[simp] theorem bytesOf?_bytesJson (bytes : List UInt8) : bytesOf? (bytesJson bytes) = some bytes := by
  show (bytes.map fun b => Json.integer b.toNat).mapM byteOf? = some bytes
  induction bytes with
  | nil => rfl
  | cons b rest ih =>
    rw [List.map_cons, List.mapM_cons, byteOf?_integer, ih]
    rfl

/-! ## The parts of an envelope -/

section Parts

variable (nonce encrypted : List UInt8)

@[simp] theorem typeOf_envelope : typeOf (envelope nonce encrypted) = envelopeType := by
  rw [typeOf, Json.field, envelope, Json.get?_ofFields_cons _ (by simp)]
  rfl

@[simp] theorem field_iv_envelope : (envelope nonce encrypted).field "iv" = bytesJson nonce := by
  have found : (envelope nonce encrypted).get? "iv" = some (bytesJson nonce) :=
    Json.get?_ofFields_append [("type", .string envelopeType)] _ (by simp)
  rw [Json.field, found, Option.getD_some]

@[simp] theorem field_encrypted_envelope :
    (envelope nonce encrypted).field "encrypted" = bytesJson encrypted := by
  have found : (envelope nonce encrypted).get? "encrypted" = some (bytesJson encrypted) :=
    Json.get?_ofFields_append
      [("type", .string envelopeType), ("iv", bytesJson nonce)] _ (by simp)
  rw [Json.field, found, Option.getD_some]

@[simp] theorem isObject_envelope : (envelope nonce encrypted).isObject = true := rfl

/-- An envelope is no text, so it is no heartbeat. -/
@[simp] theorem asString?_envelope : (envelope nonce encrypted).asString? = none := rfl

end Parts

/-! ## Opening an envelope -/

/-- The bytes of a text are read as what the text is read as. -/
theorem messageOf_toUTF8_eq_ok_iff {text : String} {message : Json} :
    messageOf text.toUTF8.data.toList = .ok message ↔ Json.parse? text = some message := by
  have decoded : String.fromUTF8? ⟨text.toUTF8.data.toList.toArray⟩ = some text := by
    have valid : text.toByteArray.IsValidUTF8 := text.isValidUTF8
    simp [String.fromUTF8?, String.fromUTF8, valid]
  rw [messageOf, decoded, Option.bind_some]
  cases Json.parse? text <;> simp

/-- An envelope gives back what is read of the text of its message. -/
theorem decrypt_encrypt_eq_ok_iff {message opened : Json} {key : Key} {nonce : Cipher.Gcm.Nonce} :
    decrypt key (encrypt key nonce message) = .ok opened ↔
      Json.parse? message.compress = some opened := by
  obtain ⟨nonceBytes, nonceLength⟩ := nonce
  rw [encrypt, decrypt, typeOf_envelope, if_pos rfl, field_encrypted_envelope, field_iv_envelope,
    bytesOf?_bytesJson, bytesOf?_bytesJson]
  -- both parts are there, and the tag is the one that belongs to the text
  show decryptBytes key nonceBytes _ = _ ↔ _
  rw [decryptBytes, dif_pos nonceLength]
  simp only [Cipher.Gcm.decrypt?_encrypt]
  exact messageOf_toUTF8_eq_ok_iff

/-- A message whose text is read back comes out of its envelope. -/
theorem decrypt_encrypt {message : Json} (read : Json.parse? message.compress = some message)
    (key : Key) (nonce : Cipher.Gcm.Nonce) :
    decrypt key (encrypt key nonce message) = .ok message :=
  decrypt_encrypt_eq_ok_iff.mpr read

/-- A message whose text is read back is received as the report it is. -/
theorem receive_encrypt {message : Json} {inbound : Inbound}
    (read : Json.parse? message.compress = some message)
    (parsed : Inbound.parse message = .ok inbound) (key : Key) (nonce : Cipher.Gcm.Nonce) :
    receive key (encrypt key nonce message) = .ok (some inbound) := by
  have noHeartbeat : (encrypt key nonce message).asString? ≠ some Message.heartbeat := by
    intro same
    cases same
  have opened := decrypt_encrypt read key nonce
  have isObject : (encrypt key nonce message).isObject = true := rfl
  rw [receive, if_neg noHeartbeat, if_pos isObject, opened]
  show (Inbound.parse message >>= _) = _
  rw [parsed]
  rfl

end BrowserAct.Channel
