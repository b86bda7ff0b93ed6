import BrowserAct.Act.Payload
import BrowserAct.Program.Actuator

/-!
# Running programs

A program is run by handing its thought and then its action to an actuator. A text that is no
program reaches no actuator, and nothing is handed over after a refusal.

* **`Browser.perform`** is the method of an action.
* **`Program.run`** runs a program, **`Program.interpret`** a text.
-/

namespace BrowserAct.Program

/-- A failed program that fails its act. -/
inductive Fault where
  /-- The program says that the task is impossible. -/
  | agent (message : String)
  /-- An action could not be carried out. -/
  | actuation (message : String)
deriving DecidableEq

def Fault.payload : Fault → Json
  | .agent message => Act.Payload.agent message
  | .actuation message => Act.Payload.client .actuationError (some message)

/-- What running a program came to. -/
inductive Interpretation where
  /-- The task goes on. -/
  | continue
  /-- The task is done; the value is what the actuator handed back. -/
  | done (value : Json)
  | failed (fault : Fault)
  /-- The actuator asks the planner to try something else. -/
  | redirect (message : String)

namespace Interpretation

def ofRefusal : Refusal → Interpretation
  | .redirect message => .redirect message
  | .failed message => .failed (.actuation message)

/-- What the answer to an action makes of a program. -/
def ofAnswer : Action → Json → Interpretation
  | .returns _, value => .done value
  | .throws message, _ => .failed (.agent message)
  | _, _ => .continue

/-- Whether the task is over: it returned, or the program says that it is impossible. -/
def isTaskDone : Interpretation → Bool
  | .done _ | .failed (.agent _) => true
  | _ => false

end Interpretation

/-- The call of the method for an action. -/
def Browser.perform {μ : Type} (browser : Browser μ) : Action → μ
  | .click box => browser.click box
  | .type value box pressEnter => browser.type value box pressEnter
  | .scroll direction box => browser.scroll direction box
  | .goToUrl url => browser.goToUrl url
  | .think thought => browser.think thought
  | .returns value => browser.returns value
  | .throws message => browser.throws message

variable {σ : Type}

def runAction (actuator : Actuator σ) (action : Action) (s : σ) : Interpretation × σ :=
  match actuator.perform action s with
  | (.ok value, s) => (.ofAnswer action value, s)
  | (.error refusal, s) => (.ofRefusal refusal, s)

/-- Hands the thought of a program, if it has one, and then its action to an actuator. -/
def run (actuator : Actuator σ) (program : Program) (s : σ) : Interpretation × σ :=
  match program.thought with
  | none => runAction actuator program.action s
  | some thought =>
    match actuator.think thought s with
    | (.ok _, s) => runAction actuator program.action s
    | (.error refusal, s) => (.ofRefusal refusal, s)

def interpret (actuator : Actuator σ) (source : String) (s : σ) :
    Except ParseError Interpretation × σ :=
  match parse source with
  | .error e => (.error e, s)
  | .ok program =>
    let (interpretation, s) := run actuator program s
    (.ok interpretation, s)

end BrowserAct.Program
