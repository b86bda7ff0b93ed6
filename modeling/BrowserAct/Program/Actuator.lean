import BrowserAct.Program.Action

/-!
# Actuators

An actuator has one method for each kind of action. It is given by what the methods do to its own
state: each call is answered with a value or with a refusal, and changes the state. The methods that have
no effect on the surroundings need not be given.

* **`Browser`** are the methods, **`Actuator`** is what has them.
* **`Browser.of`** makes methods of what is to be done for an action as data.
-/

namespace BrowserAct.Program

/-- Why an action was not carried out. -/
inductive Refusal where
  /-- The planner is asked to try something else. -/
  | redirect (message : String)
  | failed (message : String)
deriving DecidableEq

namespace Refusal

def message : Refusal → String
  | .redirect message => message
  | .failed message => message

def kindName : Refusal → String
  | .redirect _ => "AgentRedirectError"
  | .failed _ => "ActuationError"

def describe (r : Refusal) : String :=
  r.kindName ++ ": " ++ r.message

end Refusal

/-- How long and how carefully to wait for a page that stops changing. -/
structure SettleOptions where
  maxTimeoutMs : Nat := 180000
  checkCount : Nat := 3
  percentDifference : Nat := 25
  pollingIntervalMs : Nat := 500
deriving DecidableEq

/-- The methods by which something is done in a browser; a call of one is of type `μ`. -/
structure Browser (μ : Type) where
  click (box : String) : μ
  type (value box : String) (pressEnter : Bool) : μ
  scroll (direction box : String) : μ
  goToUrl (url : String) : μ
  think (thought : String) : μ
  returns (value : Option Json) : μ
  throws (message : String) : μ

/-- Methods that do what is to be done for each action. -/
def Browser.of {μ : Type} (perform : Action → μ) : Browser μ where
  click box := perform (.click box)
  type value box pressEnter := perform (.type value box pressEnter)
  scroll direction box := perform (.scroll direction box)
  goToUrl url := perform (.goToUrl url)
  think thought := perform (.think thought)
  returns value := perform (.returns value)
  throws message := perform (.throws message)

/-- What carries out actions, with a state of type `σ`. -/
structure Actuator (σ : Type) extends Browser (σ → Except Refusal Json × σ) where
  think := fun _ s => (.ok .null, s)
  returns := fun value s => (.ok (value.getD .null), s)
  throws := fun _ s => (.ok .null, s)
  /-- What the planner is told about the surroundings. -/
  domain : String := "browser-use"
  started : Bool := true
  start : σ → Except Refusal Unit × σ := fun s => (.ok (), s)
  stop : σ → Except Refusal Unit × σ := fun s => (.ok (), s)

namespace Actuator

/-- An actuator in whose surroundings nothing happens. -/
def idle : Actuator Unit where
  click _ s := (.ok .null, s)
  type _ _ _ s := (.ok .null, s)
  scroll _ _ s := (.ok .null, s)
  goToUrl _ s := (.ok .null, s)

end Actuator

end BrowserAct.Program
