import BrowserAct.Json.Basic
import BrowserAct.Decimal.Layout
import BrowserAct.Text.Hexadecimal

/-!
# The compact text of a JSON value

No blanks, fields in the order of the object, quotes and backslashes and control characters
escaped, every other character as it is.
-/

namespace BrowserAct.Json

/-- Numbers are written with a point from a hundred-thousandth up to below ten to the sixteenth. -/
def numberLayout : Decimal.Layout := ⟨-5, 16⟩

def quoteChar (c : Char) : List Char :=
  if c = '"' then ['\\', '"']
  else if c = '\\' then ['\\', '\\']
  else if c = '\n' then ['\\', 'n']
  else if c = '\r' then ['\\', 'r']
  else if c = '\t' then ['\\', 't']
  else if c.toNat = 8 then ['\\', 'b']
  else if c.toNat = 12 then ['\\', 'f']
  else if c.toNat < 32 then '\\' :: 'u' :: Text.Hexadecimal.padded 4 c.toNat
  else [c]

def quote (text : List Char) : List Char :=
  '"' :: text.flatMap quoteChar ++ ['"']

def integerChars (n : Int) : List Char :=
  if n < 0 then '-' :: Decimal.digitChars n.natAbs else Decimal.digitChars n.natAbs

mutual

def render : Json → List Char
  | .null => ['n', 'u', 'l', 'l']
  | .bool true => ['t', 'r', 'u', 'e']
  | .bool false => ['f', 'a', 'l', 's', 'e']
  | .integer n => integerChars n
  | .float x => numberLayout.write x
  | .string s => quote s.toList
  | .array items => '[' :: renderItems items
  | .object fields => '\x7b' :: renderFields fields

/-- The items of an array up to its closing bracket. -/
def renderItems : List Json → List Char
  | [] => [']']
  | [last] => render last ++ [']']
  | item :: next :: rest => render item ++ ',' :: renderItems (next :: rest)

/-- The fields of an object up to its closing brace. -/
def renderFields : List (String × Json) → List Char
  | [] => ['\x7d']
  | [(key, value)] => quote key.toList ++ ':' :: render value ++ ['\x7d']
  | (key, value) :: next :: rest =>
    quote key.toList ++ ':' :: render value ++ ',' :: renderFields (next :: rest)

end

def compress (j : Json) : String :=
  String.ofList j.render

end BrowserAct.Json
