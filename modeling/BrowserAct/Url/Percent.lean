import BrowserAct.Text.Hexadecimal

/-!
# Percent encoding

A byte may be written as `%` and two hexadecimal digits. Which characters of a part of an address have
to be written so depends on the part.
-/

namespace BrowserAct.Url

def bytesOf (text : List Char) : List UInt8 :=
  (String.ofList text).toUTF8.toList

/-- A byte as `%` and two upper-case digits. -/
def percentByte (b : UInt8) : List Char :=
  '%' :: (Text.Hexadecimal.encodeByte b).map Char.toUpper

/-- A text with the characters of a set, and all beyond ASCII, percent encoded. -/
def percentEncode (encoded : Char → Bool) (text : List Char) : List Char :=
  text.flatMap fun c =>
    if encoded c || 0x7f ≤ c.toNat then (bytesOf [c]).flatMap percentByte else [c]

/-- The bytes of a text with its percent-encoded bytes decoded. A `%` that two digits do not follow
stands for itself. -/
def percentDecode : List Char → List UInt8
  | '%' :: high :: low :: rest =>
    match Text.Hexadecimal.digitValue? high, Text.Hexadecimal.digitValue? low with
    | some h, some l => UInt8.ofNat (16 * h + l) :: percentDecode rest
    | _, _ => bytesOf ['%'] ++ percentDecode (high :: low :: rest)
  | c :: rest => bytesOf [c] ++ percentDecode rest
  | [] => []

def isControl (c : Char) : Bool :=
  decide (c.toNat < 0x20) || c.toNat == 0x7f

/-- The characters encoded in the query of an address. -/
def isQueryEncoded (c : Char) : Bool :=
  isControl c || [' ', '"', '#', '<', '>', '\''].contains c

/-- The characters encoded in the path of an address. -/
def isPathEncoded (c : Char) : Bool :=
  isControl c || [' ', '"', '#', '<', '>', '?', '^', '\x60', '\x7b', '\x7d'].contains c

end BrowserAct.Url
