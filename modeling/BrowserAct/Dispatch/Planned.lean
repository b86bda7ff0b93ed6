import BrowserAct.Act.Classify
import BrowserAct.Course.Basic
import BrowserAct.Dispatch.Failure
import BrowserAct.Planner.Answer
import BrowserAct.Planner.Request
import BrowserAct.Program.Interpreter
import BrowserAct.Trace

/-!
# Dispatching by planning

An act is carried out in rounds: wait for the page to settle, observe it, ask the planner for a program,
record the step, run the program. The time allowed for the act can cut short only what comes before
the program; a program that was started runs to its end. A request to cancel is heard between rounds.

* **`Planned.dispatch`** carries out an act.
* **`Planned.settle`** and **`Planned.goToUrl`** act on the page outside any act.
-/

namespace BrowserAct.Dispatch.Planned

open Act (StateError)
open Program (Refusal SettleOptions)

variable {σ : Type}

/-- The parties outside: a page that is acted on, and a planner. -/
structure Site (σ : Type) extends Program.Browser (σ → Pending σ (Except Refusal Json)) where
  settle : SettleOptions → σ → Pending σ (Except Refusal Json)
  observe : σ → Pending σ (Except Refusal Planner.Observation)
  plan : Act → String → σ → Pending σ (Except Planner.Error Planner.Answer)

/-- What is fixed for a session. -/
structure Settings where
  service : Service
  trace : Trace
  /-- The longest wait for the page to settle. -/
  settleTimeout : Duration := 180 * 1_000_000_000

/-- An act on its way, and the course of its run. -/
structure Run (σ : Type) where
  act : Act
  course : Course σ

namespace Run

/-- A change of the act; a refused one changes nothing. -/
def change (r : Run σ) (operation : Act.Operation) : Except StateError (Run σ) :=
  (r.act.apply operation r.course.now).map fun act => { r with act }

end Run

/-- What one round comes to. -/
inductive Round (σ : Type) where
  /-- The next round follows; it tells the planner of this refusal, if there is one. -/
  | next (refusal : Option Refusal) (run : Run σ)
  /-- No further round: the act is over, or a change of it was refused. -/
  | over (error : Option StateError) (run : Run σ)

/-- The last round, which ends with a change of the act. -/
def Round.last (r : Run σ) (operation : Act.Operation) : Round σ :=
  match r.change operation with
  | .ok r => .over none r
  | .error e => .over (some e) r

/-! ## Asking for a program -/

/-- The options of a wait for the page to settle. -/
def settleOptions (timeout : Duration) : SettleOptions :=
  { maxTimeoutMs := min (timeout / 1_000_000) 0xffff_ffff_ffff_ffff }

def actuationPayload (refusal : Refusal) : Json :=
  Act.Payload.client .actuationError (some refusal.message)

/-- Waits for the page to settle and observes it; nothing if that was cut short. -/
def observe (site : Site σ) (settings : Settings) (deadline : Option Moment) (c : Course σ) :
    Option (Except Refusal Planner.Observation) × Course σ :=
  let options := settleOptions settings.settleTimeout
  let c := c.log (.settling options)
  match c.awaitUntil deadline (site.settle options c.world) with
  | (none, c) => (none, c)
  | (some (.error refusal), c) => (some (.error refusal), c.log (.settled (.error refusal)))
  | (some (.ok value), c) =>
    let c := (c.log (.settled (.ok value))).log .observing
    match c.awaitUntil deadline (site.observe c.world) with
    | (none, c) => (none, c)
    | (some answer, c) => (some answer, c.log (.observed answer))

/-- What an act goes on with once the planner was asked: a planner that cannot be used fails the
act. -/
def answerOf : Except Planner.Error Planner.Answer → Planner.Answer
  | .ok answer => answer
  | .error e => .failed e.payload

/-- Asks for the next program; nothing if that was cut short. -/
def plan (site : Site σ) (settings : Settings) (isInitial : Bool) (refusal : Option Refusal)
    (r : Run σ) : Option Planner.Answer × Course σ :=
  match observe site settings r.act.deadline r.course with
  | (none, c) => (none, c)
  | (some (.error refusal), c) => (some (.failed (actuationPayload refusal)), c)
  | (some (.ok observation), c) =>
    let request := Planner.Request.text
      { actId := r.act.id, prompt := r.act.request.prompt
        endpointName := r.act.request.endpointName, observation, isInitial, refusal }
    let c := (c.trace [settings.trace.line "..."]).log (.planning request)
    match c.awaitUntil r.act.deadline (site.plan r.act request c.world) with
    | (none, c) => (none, c)
    | (some answer, c) => (some (answerOf answer), c.log (.answered answer))

/-! ## Running a program -/

/-- A call of the page for an action, which runs to its end. -/
def acting (action : Program.Action) (move : σ → Pending σ (Except Refusal Json)) (c : Course σ) :
    Except Refusal Json × Course σ :=
  let c := c.log (.acting action)
  let (answer, c) := c.await (move c.world)
  (answer, c.log (.acted answer))

/-- The site as an actuator. -/
def actuator (site : Site σ) : Program.Actuator (Course σ) where
  click box := acting (.click box) (site.click box)
  type value box pressEnter :=
    acting (.type value box pressEnter) (site.type value box pressEnter)
  scroll direction box := acting (.scroll direction box) (site.scroll direction box)
  goToUrl url := acting (.goToUrl url) (site.goToUrl url)
  think thought := acting (.think thought) (site.think thought)
  returns value := acting (.returns value) (site.returns value)
  throws message := acting (.throws message) (site.throws message)

/-- Whichever method an action calls, the call is logged with that action. -/
theorem perform_actuator (site : Site σ) (action : Program.Action) (c : Course σ) :
    (actuator site).perform action c = acting action (site.perform action) c := by
  cases action <;> rfl

/-- The response of an act whose program returned a value: nothing, a text itself, or the text of any
other value. -/
def responseOf : Json → String
  | .null => ""
  | .string text => text
  | value => value.compress

def record (r : Run σ) (message : Json) : Except StateError (Run σ) := do
  let step ← Act.Step.ofMessage message r.course.now
  let r ← r.change (.addStep step)
  return { r with course := r.course.log (.stepped step) }

def runProgram (site : Site σ) (source : String) (r : Run σ) : Round σ :=
  let (result, course) := Program.interpret (actuator site) source r.course
  let r := { r with course }
  match result with
  | .error e => .last r (.fail (Act.Payload.client .badResponse (some e.message)))
  | .ok .continue => .next none r
  | .ok (.redirect message) => .next (some (.redirect message)) r
  | .ok (.done value) => .last r (.complete (responseOf value))
  | .ok (.failed fault) => .last r (.fail fault.payload)

def execute (site : Site σ) (settings : Settings) (answer : Planner.Answer) (r : Run σ) : Round σ :=
  match answer with
  | .failed payload => .last r (.fail payload)
  | .program source message =>
    let r := { r with course := r.course.trace (settings.trace.programLines source) }
    match record r message with
    -- the act stays open where its record makes no step
    | .error e => .over (some e) r
    | .ok r => runProgram site source r

/-! ## Rounds -/

def timeOut (r : Run σ) : Round σ :=
  match r.change .markTimedOut with
  | .ok r => .last r (.fail timeOutPayload)
  | .error e => .over (some e) r

def round (site : Site σ) (settings : Settings) (isInitial : Bool) (refusal : Option Refusal)
    (r : Run σ) : Round σ :=
  if r.act.isPastDeadline r.course.now then timeOut r
  else if r.course.cancelRequested then
    let line := settings.trace.line "Terminating agent workflow"
    .last { r with course := r.course.resetCancel.trace [line] } .cancel
  else
    match plan site settings isInitial refusal r with
    -- only the time allowed cuts a move short
    | (none, course) => timeOut { r with course }
    | (some answer, course) => execute site settings answer { r with course }

/-- Ends an act that is still open once its steps are used up. -/
def exhaust (r : Run σ) : Option StateError × Run σ :=
  if r.act.isComplete then (none, r)
  else
    match r.change (.fail (Act.Payload.client .maxStepsExceeded none)) with
    | .ok r => (none, r)
    | .error e => (some e, r)

/-- Round after round, up to a number of steps. -/
def rounds (site : Site σ) (settings : Settings) :
    Nat → Bool → Option Refusal → Run σ → Option StateError × Run σ
  | 0, _, _, r => exhaust r
  | n + 1, isInitial, refusal, r =>
    match round site settings isInitial refusal r with
    | .next refusal r => rounds site settings n false refusal r
    | .over error r => (error, r)

/-- What an act comes to: a refused change is a failure of the client. -/
def conclude (settings : Settings) (error : Option StateError) (act : Act) : Act.Outcome :=
  match error with
  | none => act.outcome settings.service
  | some e => .error (actFailure .client act e.message)

/-- Carries out an act. Earlier requests to cancel do not count. -/
def dispatch (site : Site σ) (settings : Settings) (act : Act) (c : Course σ) :
    Act.Outcome × Run σ :=
  let (error, r) := rounds site settings act.request.maxSteps true none ⟨act, c.resetCancel⟩
  (conclude settings error r.act, r)

/-! ## Outside any act -/

def settle (site : Site σ) (settings : Settings) (sessionId : String) (timeout : Option Duration)
    (c : Course σ) : Except Act.Failure Unit × Course σ :=
  let options := settleOptions (timeout.getD settings.settleTimeout)
  let c := c.log (.settling options)
  let (answer, c) := c.await (site.settle options c.world)
  let c := c.log (.settled answer)
  match answer with
  | .ok _ => (.ok (), c)
  | .error refusal => (.error (sessionFailure .actuation sessionId refusal.message), c)

/-- Sends the browser to an address and waits for the page to settle. -/
def goToUrl (site : Site σ) (settings : Settings) (url sessionId : String)
    (timeout : Option Duration) (c : Course σ) : Except Act.Failure Unit × Course σ :=
  match (actuator site).goToUrl url c with
  | (.ok _, c) => settle site settings sessionId timeout c
  | (.error refusal, c) => (.error (sessionFailure .actuation sessionId refusal.message), c)

end BrowserAct.Dispatch.Planned
