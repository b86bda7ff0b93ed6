import BrowserAct.Program.Statement

/-!
# Programs

A program is one action, optionally after a thought. The names of the actions and the number of
their arguments are fixed (`Action.ofStatement`).
-/

namespace BrowserAct

namespace Program

/-- What a program does in the browser. -/
inductive Action where
  | click (box : String)
  | type (value box : String) (pressEnter : Bool)
  | scroll (direction box : String)
  | goToUrl (url : String)
  | think (thought : String)
  /-- Ends the task with a value, or without one. -/
  | returns (value : Option Json)
  /-- Ends the task as impossible. -/
  | throws (message : String)

namespace Action

/-- A returned value: what its text means as JSON, and else the text itself. -/
def returnedValue (text : String) : Json :=
  (Json.parse? text).getD (.string text)

def ofCall (name : String) (args : List String) : Except ParseError Action :=
  let wrongCount := fun expected => Except.error (ParseError.argumentCount name expected args.length)
  if name = "agentClick" then
    match args with
    | box :: _ => .ok (.click box)
    | _ => wrongCount "at least 1"
  else if name = "agentType" then
    match args with
    | [value, box] => .ok (.type value box false)
    | [value, box, flag] => .ok (.type value box (flag == "pressEnter"))
    | _ => wrongCount "2 or 3"
  else if name = "agentScroll" then
    match args with
    | [direction, box] => .ok (.scroll direction box)
    | _ => wrongCount "2"
  else if name = "goToUrl" then
    match args with
    | [url] => .ok (.goToUrl url)
    | _ => wrongCount "1"
  else if name = "think" then
    match args with
    | thought :: _ => .ok (.think thought)
    | _ => wrongCount "at least 1"
  else .error (.unknownAction name)

def ofStatement : Statement → Except ParseError Action
  | .returns value => .ok (.returns (value.map returnedValue))
  | .throws message => .ok (.throws message)
  | .call name args => ofCall name args

end Action

end Program

/-- One action, optionally after a thought. -/
structure Program where
  thought : Option String
  action : Program.Action

namespace Program

/-- The thought of the statement before an action. -/
def thoughtOf : Statement → Except ParseError String
  | .call name args =>
    if name = "think" then
      match args with
      | thought :: _ => .ok thought
      | [] => .error (.argumentCount name "1" 0)
    else .error (.unexpectedStatement (Statement.inspect (.call name args)))
  | other => .error (.unexpectedStatement other.inspect)

def ofStatements : List Statement → Except ParseError Program
  | [] => .error .empty
  | [only] => (Action.ofStatement only).map fun action => ⟨none, action⟩
  | [first, last] => do
    let thought ← thoughtOf first
    let action ← Action.ofStatement last
    return ⟨some thought, action⟩
  | many => .error (.tooManyStatements many.length)

def parse (source : String) : Except ParseError Program := do
  ofStatements (← tokenize source)

end Program

end BrowserAct
