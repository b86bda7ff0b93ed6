import BrowserAct.Decimal.Reader
import BrowserAct.Yaml.Node

/-!
# What scalars mean

A plain scalar can stand for null, a truth value or a number. A quoted scalar is a text. A tag can make
a block of lines stand for what a plain scalar would.
-/

namespace BrowserAct.Yaml

def coreTag (kind : String) : String :=
  "tag:yaml.org,2002:" ++ kind

def isNullText (text : String) : Bool :=
  ["null", "Null", "NULL", "~"].contains text

def boolOf? (text : String) : Option Bool :=
  if ["true", "True", "TRUE"].contains text then some true
  else if ["false", "False", "FALSE"].contains text then some false
  else none

/-- A number in digits of a base, at least one. -/
def digits? (base : Nat) (text : List Char) : Option Nat :=
  if text.isEmpty then none
  else text.foldlM (fun n c =>
    match Text.Hexadecimal.digitValue? c with
    | some d => if d < base then some (base * n + d) else none
    | none => none) 0

def withoutPlus : List Char → List Char
  | '+' :: text => text
  | text => text

/-- A natural number in decimal without leading zeros, or in another base after its mark. -/
def naturalOf? (text : String) : Option Nat :=
  match withoutPlus text.toList with
  | '0' :: 'x' :: digits => digits? 16 digits
  | '0' :: 'o' :: digits => digits? 8 digits
  | '0' :: 'b' :: digits => digits? 2 digits
  | '0' :: _ :: _ => none
  | digits => digits? 10 digits

/-- A binary64 number; infinities and the undefined number are written with a point. -/
def floatOf? (text : String) : Option Decimal.Binary64 :=
  let unsigned := match text.toList with
    | '+' :: rest => if rest.head?.any ['+', '-'].contains then none else some rest
    | all => some all
  match unsigned.map String.ofList with
  | none => none
  | some unsigned =>
    if [".inf", ".Inf", ".INF"].contains unsigned then some (.infinity false)
    else if ["-.inf", "-.Inf", "-.INF"].contains text then some (.infinity true)
    else if [".nan", ".NaN", ".NAN"].contains text then some .nan
    else (Decimal.parse? unsigned.toList).filter (·.isFinite)

namespace Node

/-- The text of a scalar that can stand for a kind of value. -/
def valueText? (kind : String) : Node → Option String
  | .scalar text .plain _ => some text
  | .scalar text .literal (some tag) => if tag = coreTag kind then some text else none
  | _ => none

def text? : Node → Option String
  | .scalar text _ _ => some text
  | _ => none

/-- Whether a node is a scalar that was not written. -/
def isUnwritten : Node → Bool
  | .scalar "" .plain _ => true
  | _ => false

/-- Whether a node is null; nothing if it claims to be and is not. -/
def isNull? : Node → Option Bool
  | .scalar text .plain tag =>
    match tag with
    | some tag =>
      if tag = coreTag "null" then if isNullText text then some true else none else some false
    | none => some (text = "" || isNullText text)
  | .cycle => none
  | _ => some false

/-- Whether a node can stand where nothing is wanted. -/
def isNothing (node : Node) : Bool :=
  match node with
  | .scalar "" _ _ => true
  | _ => (node.valueText? "null").any isNullText

end Node

/-! ## Checks -/

example : naturalOf? "+3" = some 3 := by decide +kernel
example : naturalOf? "010" = none := by decide +kernel
example : naturalOf? "1_000" = none := by decide +kernel
example : naturalOf? "0x1F" = some 31 := by decide +kernel

end BrowserAct.Yaml
