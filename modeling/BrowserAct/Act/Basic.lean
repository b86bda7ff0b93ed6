import BrowserAct.Act.Metadata
import BrowserAct.Act.Step

/-!
# Acts

An act is one instruction in natural language being carried out. Its request never changes; the rest
changes only through the six operations, and a complete act refuses all of them.

* **`Operation`** is an operation as data.
* **`Act.apply`** carries one out, or refuses it and changes nothing.
-/

namespace BrowserAct

namespace Act

/-- How an act ended. -/
inductive Ending where
  | succeeded (response : String)
  | canceled
  | failed (payload : Json)

/-- Optional settings handed on to the planner. -/
structure ModelKnobs where
  temperature : Option Int
  topK : Option Int
  seed : Option Int
deriving DecidableEq, Inhabited

/-- What an act was asked to do. -/
structure Request where
  prompt : String
  sessionId : String
  endpointName : String
  /-- The time allowed for the whole act, if it is limited. -/
  timeout : Option Duration
  maxSteps : Nat
  knobs : ModelKnobs
deriving DecidableEq

/-- The number of steps allowed where a request does not say. -/
def defaultMaxSteps : Nat := 30

/-- The number of characters in the id of an act. -/
def idLength : Nat := 36

end Act

/-- One instruction being carried out. -/
structure Act where
  id : String
  request : Act.Request
  startedAt : Moment
  endedAt : Option Moment
  steps : List Act.Step
  result : Option Act.Ending
  acknowledged : Bool
  timedOut : Bool

namespace Act

/-- A new act, open and without steps. -/
def new (id : String) (request : Request) (now : Moment) : Act :=
  { id, request, startedAt := now, endedAt := none, steps := [], result := none,
    acknowledged := false, timedOut := false }

def isComplete (a : Act) : Bool :=
  a.result.isSome

/-! ## Time -/

def remaining (a : Act) (now : Moment) : Option Duration :=
  a.request.timeout.map (· - (now - a.startedAt))

def isPastDeadline (a : Act) (now : Moment) : Bool :=
  a.remaining now == some 0

/-- The moment at which the time allowed is used up. -/
def deadline (a : Act) : Option Moment :=
  a.request.timeout.map (a.startedAt + ·)

def roundToMillis (t : Decimal.Binary64) : Decimal.Binary64 :=
  (t.mul (.ofInt 1000)).round.div (.ofInt 1000)

def metadata (a : Act) : Metadata :=
  { sessionId := a.request.sessionId
    actId := a.id
    stepCount := a.steps.length
    startTime := some (.ofMoment a.startedAt)
    endTime := a.endedAt.map .ofMoment
    prompt := a.request.prompt
    stepTimes := (a.steps.filterMap (·.serverTime)).map roundToMillis }

/-! ## Operations -/

/-- A change of an act. -/
inductive Operation where
  | acknowledge
  | addStep (step : Step)
  | markTimedOut
  | complete (response : String)
  | cancel
  | fail (payload : Json)

namespace Operation

def name : Operation → String
  | .acknowledge => "acknowledge"
  | .addStep _ => "add_step"
  | .markTimedOut => "mark_timed_out"
  | .complete _ => "complete"
  | .cancel => "cancel"
  | .fail _ => "fail"

/-- The ending an operation brings, if it ends the act. -/
def ending? : Operation → Option Ending
  | .complete response => some (.succeeded response)
  | .cancel => some .canceled
  | .fail payload => some (.failed payload)
  | _ => none

end Operation

def finish (a : Act) (ending : Ending) (now : Moment) : Act :=
  { a with endedAt := some now, result := some ending }

def perform (a : Act) (operation : Operation) (now : Moment) : Act :=
  match operation with
  | .acknowledge => { a with acknowledged := true }
  | .addStep step => { a with steps := a.steps ++ [step] }
  | .markTimedOut => { a with timedOut := true }
  | .complete response => a.finish (.succeeded response) now
  | .cancel => a.finish .canceled now
  | .fail payload => a.finish (.failed payload) now

/-- An operation on an act; a complete act refuses it. -/
def apply (a : Act) (operation : Operation) (now : Moment) : Except StateError Act :=
  if a.isComplete then .error (.alreadyComplete a.id operation.name)
  else .ok (a.perform operation now)

/-- An operation on an act, a refused one changing nothing. -/
def attempt (a : Act) (operation : Operation) (now : Moment) : Act :=
  match a.apply operation now with
  | .ok a' => a'
  | .error _ => a

/-! ## Laws -/

@[simp] theorem apply_of_complete {a : Act} (h : a.isComplete = true) (operation : Operation)
    (now : Moment) : a.apply operation now = .error (.alreadyComplete a.id operation.name) := by
  simp [apply, h]

@[simp] theorem apply_of_open {a : Act} (h : a.isComplete = false) (operation : Operation)
    (now : Moment) : a.apply operation now = .ok (a.perform operation now) := by
  simp [apply, h]

/-- No operation changes who asked for what. -/
theorem perform_request (a : Act) (operation : Operation) (now : Moment) :
    (a.perform operation now).id = a.id ∧ (a.perform operation now).request = a.request := by
  cases operation <;> exact ⟨rfl, rfl⟩

end Act

end BrowserAct
