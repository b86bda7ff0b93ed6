import BrowserAct.Json.Basic

/-!
# Fields that may be missing

Scripts leave out what they do not care about. A field that is missing, or holds a value of another
kind, reads as the plainest value of its kind.
-/

namespace BrowserAct.Json

/-- The text of a field, if it holds one. -/
def text? (j : Json) (key : String) : Option String :=
  (j.field key).asString?

/-- The text of a field, else the empty text. -/
def text (j : Json) (key : String) : String :=
  (j.text? key).getD ""

/-- The truth of a field, else false. -/
def flag (j : Json) (key : String) : Bool :=
  (j.field key).asBool?.getD false

/-- The items of a field, else none. -/
def items (j : Json) (key : String) : List Json :=
  (j.field key).asArray?.getD []

def texts (j : Json) (key : String) : List String :=
  (j.items key).map stringOrEmpty

/-- The number of a field, if it holds one that is not negative. -/
def natural? (j : Json) (key : String) : Option Nat :=
  (j.field key).asNat64?

/-- The number of a field, else zero. -/
def natural (j : Json) (key : String) : Nat :=
  (j.natural? key).getD 0

/-- The integer of a field, if it holds one. -/
def int? (j : Json) (key : String) : Option Int :=
  (j.field key).asInt64?

end BrowserAct.Json
