/-!
# What can be wrong with a program

The causes, and their wording in one place.
-/

namespace BrowserAct.Program

/-- Why a program text is not a program. -/
inductive ParseError where
  /-- There is no statement. -/
  | empty
  /-- A statement is neither a call nor a keyword with its value. -/
  | invalidStatement (text : String)
  /-- A quoted text has no end. -/
  | unterminatedString (text : String)
  /-- No action has this name. -/
  | unknownAction (name : String)
  /-- An action is called with the wrong number of arguments. -/
  | argumentCount (name expected : String) (got : Nat)
  /-- There are more statements than a thought and an action. -/
  | tooManyStatements (count : Nat)
  /-- The statement before the action is not a thought; it is given as diagnostics show it. -/
  | unexpectedStatement (shown : String)
  /-- A text is not a box of four numbers. -/
  | invalidBox (text : String)
deriving DecidableEq

namespace ParseError

def message : ParseError → String
  | .empty => "No action found in the program body"
  | .invalidStatement text => "Invalid action format: " ++ text
  | .unterminatedString text => "Unterminated string literal: " ++ text
  | .unknownAction name => "Unknown action: " ++ name
  | .argumentCount name expected got =>
    "Invalid number of arguments for " ++ name ++ ": expected " ++ expected ++ ", got "
      ++ toString got
  | .tooManyStatements count =>
    "Programs hold one action and an optional think, got " ++ toString count ++ " statements"
  | .unexpectedStatement shown => "Only think may precede the action: " ++ shown
  | .invalidBox text => "Invalid bounding box: " ++ text

end ParseError

end BrowserAct.Program
