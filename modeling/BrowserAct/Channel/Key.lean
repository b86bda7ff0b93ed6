import BrowserAct.Channel.Error
import BrowserAct.Json.Basic

/-!
# Keys

One key of 32 bytes protects a channel. It is written in hexadecimal, and handed over in the only
message that is not encrypted.

* **`Key.toHex`** writes a key, **`Key.ofHex`** reads one.
-/

namespace BrowserAct.Channel

/-- A key. -/
structure Key where
  bytes : List UInt8
  length_eq : bytes.length = 32
deriving DecidableEq

namespace Key

def ofBytes (bytes : List UInt8) : Except Error Key :=
  if h : bytes.length = 32 then .ok ⟨bytes, h⟩ else .error .keyLength

def ofHex (text : String) : Except Error Key :=
  match Text.Hexadecimal.decode text with
  | .ok bytes => ofBytes bytes
  | .error cause => .error (.keyText cause)

/-- A key in hexadecimal, in lower case. -/
def toHex (key : Key) : String :=
  String.ofList (Text.Hexadecimal.encode key.bytes)

/-- A key as diagnostics show it: not at all. -/
def shown : String :=
  "MessageEncrypter \x7b key: \"<redacted>\" \x7d"

/-- The type of the message that hands over a key. -/
def setKeyType : String := "autonomy-set-key"

def setKeyMessage (key : Key) : Json :=
  .ofFields [("type", .string setKeyType), ("key", .string key.toHex)]

end Key

end BrowserAct.Channel
