import BrowserAct.Program.Literal
import BrowserAct.Program.Pieces
import BrowserAct.Text.Inspect
import BrowserAct.Text.Lines

/-!
# Statements

A statement calls something by name with quoted arguments, returns a value or throws a message.

* **`Statement.ofText`** reads one statement.
* **`tokenize`** reads all statements of a program.
* **`Statement.write`** writes a statement so that it reads back.
-/

namespace BrowserAct.Program

/-- One statement, before the meaning of its name and arguments is looked at. -/
inductive Statement where
  /-- A call; only quoted texts count as arguments. -/
  | call (name : String) (args : List String)
  /-- A return, with the text of the value as it was written. -/
  | returns (value : Option String)
  /-- A throw. -/
  | throws (message : String)
deriving DecidableEq

namespace Statement

/-- The text after a keyword, without blanks around it, if the keyword stands alone. -/
def afterKeyword? (keyword text : List Char) : Option (List Char) :=
  match Text.dropStart? keyword text with
  | none => none
  | some [] => some []
  | some (c :: rest) => if Text.isBlank c then some (Text.trim (c :: rest)) else none

def isNameChar (c : Char) : Bool :=
  c.isAlphanum || c == '_'

/-- What stands between an opening bracket at the start of a text and a closing one at its end. -/
def betweenBrackets? (text : List Char) : Option (List Char) :=
  (Text.dropStart? ['('] text).bind (Text.dropEnd? [')'])

def isQuoted (text : List Char) : Bool :=
  text.head? == some '"' && text.getLast? == some '"'

/-- The message of a throw: the literal, if the text is one literal, and else the text itself. -/
def thrown (text : List Char) : Except ParseError String :=
  (Literal.all text).map fun literals =>
    match literals with
    | [message] => if isQuoted text then message else String.ofList text
    | _ => String.ofList text

/-- A call: a name and, between brackets, the literals that are its arguments. -/
def callOfText (text : List Char) : Except ParseError Statement :=
  let name := text.takeWhile isNameChar
  match betweenBrackets? (Text.trim (text.dropWhile isNameChar)) with
  | some inner =>
    if name.isEmpty then .error (.invalidStatement (String.ofList text))
    else (Literal.all inner).map (.call (String.ofList name))
  | none => .error (.invalidStatement (String.ofList text))

def ofText (text : List Char) : Except ParseError Statement :=
  match afterKeyword? "return".toList text with
  | some value =>
    .ok (.returns (if value.isEmpty then none else some (String.ofList value)))
  | none =>
    match afterKeyword? "throw".toList text with
    | some message => (thrown message).map .throws
    | none => callOfText text

def inspect : Statement → String
  | .call name args =>
    "Call \x7b name: " ++ Text.inspect name ++ ", args: ["
      ++ ", ".intercalate (args.map Text.inspect) ++ "] \x7d"
  | .returns none => "Return \x7b value: None \x7d"
  | .returns (some value) => "Return \x7b value: Some(" ++ Text.inspect value ++ ") \x7d"
  | .throws message => "Throw \x7b message: " ++ Text.inspect message ++ " \x7d"

/-- Arguments as they are written between the brackets of a call. -/
def writeArgs : List String → List Char
  | [] => []
  | [last] => Literal.quote last
  | arg :: next :: rest => Literal.quote arg ++ ", ".toList ++ writeArgs (next :: rest)

def write : Statement → List Char
  | .call name args => name.toList ++ '(' :: writeArgs args ++ [')']
  | .returns none => "return".toList
  | .returns (some value) => "return ".toList ++ value.toList
  | .throws message => "throw ".toList ++ Literal.quote message

end Statement

/-- The statements of a program text; the first that cannot be read is the error. -/
def tokenize (source : String) : Except ParseError (List Statement) := do
  let texts ← pieces source.toList
  texts.mapM Statement.ofText

end BrowserAct.Program
