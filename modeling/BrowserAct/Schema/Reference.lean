import BrowserAct.Json.Basic
import BrowserAct.Text.Lines
import BrowserAct.Url.Percent

/-!
# References inside a document

A reference names a part of its document by the keys and indices that lead there.

* **`Schema.resolve?`** finds the part that a reference names.
-/

namespace BrowserAct.Schema

/-- A key as a reference writes it: `~1` stands for a slash and `~0` for a tilde. -/
def unescape : List Char → List Char
  | '~' :: '1' :: rest => '/' :: unescape rest
  | '~' :: '0' :: rest => '~' :: unescape rest
  | c :: rest => c :: unescape rest
  | [] => []

/-- An index in digits, without a leading zero. -/
def index? (key : String) : Option Nat :=
  if key = "0" then some 0
  else if key.toList.all Char.isDigit && key.toList.head? != some '0' then key.toNat? else none

def child? (part : Json) (key : String) : Option Json :=
  match part with
  | .object fields => Json.Fields.get? fields key
  | .array items => (index? key).bind (items[·]?)
  | _ => none

def follow? (document : Json) (keys : List String) : Option Json :=
  keys.foldlM child? document

/-- The keys of a path, which starts with a slash. -/
def keys? : List Char → Option (List String)
  | [] => some []
  | '/' :: rest => some ((Text.splitOn '/' rest).map (String.ofList ∘ unescape))
  | _ => none

/-- The part of a document that a reference names. -/
def resolve? (document : Json) (reference : String) : Option Json := do
  match reference.toList with
  | '#' :: path =>
    let path ← String.fromUTF8? ⟨(Url.percentDecode path).toArray⟩
    follow? document (← keys? path.toList)
  | [] => some document
  | _ => none

/-! ## Checks -/

example : unescape "a~1b~01".toList = "a/b~1".toList := by decide +kernel
example : index? "01" = none := by decide +kernel

end BrowserAct.Schema
