import BrowserAct.Json.Lenient
import BrowserAct.Json.Printer
import BrowserAct.Program.Actuator
import BrowserAct.Program.Box

/-!
# A scripted actuator

Dispatchers are rehearsed without a browser: the parties outside are played from a script, and all
that they are asked is written down. A script is a JSON object; each party reads the fields it knows.

* **`Scene`** is what was asked so far.
* **`Scene.perform`** carries out an action as the script says.
-/

namespace BrowserAct.Rehearsal

open Program (Refusal)

/-- A binary64 number as the hexadecimal digits of its bits; all NaNs are one. -/
def bits (x : Decimal.Binary64) : Json :=
  if x.isNaN then .string "nan"
  else .string (String.ofList (Text.Hexadecimal.padded 16 x.bits.toNat))

def embedded (j : Json) : Json :=
  .string j.compress

def orNull (value : Option Json) : Json :=
  value.getD .null

/-- What the scripted parties were asked so far. -/
structure Scene where
  /-- The calls of the actuator, latest first. -/
  calls : List Json := []
  /-- How often each kind of call was made. -/
  counts : List (String × Nat) := []
  /-- The requests to the planner, latest first. -/
  requests : List String := []

/-- A scripted move: how it begins, how long it takes, and what it ends with. -/
structure Play (α : Type) where
  begun : Scene
  delay : Nat
  ended : Scene
  answer : α

namespace Scene

def count (s : Scene) (name : String) : Nat :=
  (s.counts.lookup name).getD 0

def record (s : Scene) (call : List Json) : Scene :=
  { s with calls := .array call :: s.calls }

def bump (s : Scene) (name : String) : Scene :=
  { s with counts := (name, s.count name + 1) :: s.counts.filter (·.1 != name) }

def refusal (entry : Json) : Refusal :=
  if entry.text "kind" = "redirect" then .redirect (entry.text "message")
  else .failed (entry.text "message")

/-- A call, with the refusal of the first entry of the script that fits it. -/
def call (script : Json) (name : String) (args : List Json) (s : Scene) :
    Play (Except Refusal Unit) :=
  let begun := (s.record (.string name :: args)).bump name
  let fits := fun entry : Json =>
    entry.text "call" == name && (entry.natural? "nth").all (· == begun.count name)
  match (script.items "errors").find? fits with
  | some entry => ⟨begun, 0, begun, .error (refusal entry)⟩
  | none =>
    match (script.field "delays_ms").natural? name with
    | some delay => ⟨begun, delay, begun.record [.string "finished", .string name], .ok ()⟩
    | none => ⟨begun, 0, begun, .ok ()⟩

/-- How the call for an action is written down. -/
def callOf : Program.Action → String × List Json
  | .click box => ("click", [.string box])
  | .type value box enter => ("type", [.string value, .string box, .bool enter])
  | .scroll direction box => ("scroll", [.string direction, .string box])
  | .goToUrl url => ("goto", [.string url])
  | .think thought => ("think", [.string thought])
  | .returns value => ("return", [orNull (value.map embedded)])
  | .throws message => ("throw", [.string message])

/-- The answer to an action that a plain actuator does not notice. -/
def quiet? : Program.Action → Option Json
  | .think _ | .throws _ => some .null
  | .returns value => some (orNull value)
  | _ => none

/-- What follows an action that was not refused: an answer, and what is written down. -/
def follow (script : Json) (action : Program.Action) (s : Scene) : Except Refusal Json × Scene :=
  match action with
  | .click box =>
    if script.flag "check_boxes" then
      match Program.Box.parse box with
      | .error e => (.error (.failed e.message), s)
      | .ok parsed =>
        (.ok .null, s.record [.string "center", bits parsed.center.1, bits parsed.center.2])
    else (.ok .null, s)
  | .returns value => (.ok ((script.get? "returned").getD (orNull value)), s)
  | _ => (.ok .null, s)

def perform (script : Json) (action : Program.Action) (s : Scene) : Play (Except Refusal Json) :=
  match if script.flag "plain" then quiet? action else none with
  | some value => ⟨s, 0, s, .ok value⟩
  | none =>
    let (name, args) := callOf action
    let play := call script name args s
    match play.answer with
    | .error refusal => ⟨play.begun, play.delay, play.ended, .error refusal⟩
    | .ok _ =>
      let (answer, ended) := follow script action play.ended
      ⟨play.begun, play.delay, ended, answer⟩

/-- The scripted actuator, on whose time nothing depends. -/
def actuator (script : Json) : Program.Actuator Scene where
  toBrowser := .of fun action s =>
    let play := perform script action s
    (play.answer, play.ended)

end Scene

end BrowserAct.Rehearsal
