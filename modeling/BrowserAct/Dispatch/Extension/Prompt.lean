import BrowserAct.Act.Classify
import BrowserAct.Dispatch.Extension.Link
import BrowserAct.Dispatch.Failure

/-!
# Dispatching through the extension

An act is handed to the extension as a prompt, again and again until it is accepted, and then followed
until it is complete: steps are traced as they come in, an act that runs out of time is canceled,
and so is one that others ask to cancel.

* **`Extension.dispatch`** carries out an act. How many polls it takes is up to the other side, so
  each wait is given a bound on its polls, and running into it is no answer.
* **`Extension.dispatchWithin`** is how far it comes within the bound, with or without an answer.
-/

namespace BrowserAct.Dispatch.Extension

open Channel (Binding)

variable {σ : Type}

/-- An act on its way, and the course of its run. -/
structure Run (σ : Type) where
  act : Act
  course : Course (Link σ)

/-- What ends a run other than the end of its act. -/
inductive Trouble where
  /-- The key could not be posted, or the act not be bound. -/
  | channel (cause : Channel.Error)
  /-- A change of the act was refused. -/
  | state (cause : Act.StateError)
  /-- No prompt was accepted. -/
  | notAccepted
  /-- A cancellation was not confirmed. -/
  | notCanceled

namespace Trouble

def kind : Trouble → Act.FailureKind
  | .channel _ | .state _ => .client
  | .notAccepted | .notCanceled => .dispatch

def message : Trouble → String
  | .channel cause => cause.message
  | .state cause => cause.message
  | .notAccepted => "Failed to receive Acknowledgment after dispatching a prompt to browser"
  | .notCanceled => "Failed to cancel Act"

end Trouble

/-! ## Waiting -/

/-- Polls once: everything the extension sent is applied to what is bound. -/
def poll (surface : Surface σ) (settings : Settings) (r : Run σ) : Run σ :=
  let (messages, c) := fetch surface settings r.course
  let (binding, act) :=
    Binding.handleAll settings.key c.now (c.world.binding, r.act) messages
  ⟨act, (rebind c binding).log (.polled act)⟩

/-- Polls until the act is accepted or complete, or a deadline has come. -/
def untilAccepted (surface : Surface σ) (settings : Settings) (fuel : Nat) (deadline : Moment)
    (r : Run σ) : Option Bool × Run σ :=
  Course.repeatUntil
    (fun r =>
      -- the deadline comes first: what the poll that reaches it brought is not looked at
      if deadline ≤ r.course.now then some false
      else if r.act.acknowledged || r.act.isComplete then some true
      else none)
    (poll surface settings) fuel r

/-- Polls until the act is complete, or a deadline has come. -/
def untilComplete (surface : Surface σ) (settings : Settings) (fuel : Nat) (deadline : Moment)
    (r : Run σ) : Option Bool × Run σ :=
  Course.repeatUntil
    (fun r =>
      -- here the act comes first, so that the last poll counts
      if r.act.isComplete then some true
      else if deadline ≤ r.course.now then some false
      else none)
    (poll surface settings) fuel r

/-! ## Prompts -/

def postPrompt (surface : Surface σ) (settings : Settings) (r : Run σ) : Run σ :=
  let message := Channel.Message.pendingPrompt r.act settings.apiKey settings.service.apiUri
    settings.credentials
  { r with course := post surface settings message r.course }

/-- How long to wait for a prompt to be accepted that is posted now: no longer than the act has. -/
def acceptanceTime (settings : Settings) (act : Act) (now : Moment) : Duration :=
  match act.remaining now with
  | some left => min left settings.timings.ackTimeout
  | none => settings.timings.ackTimeout

/-- Posts the prompt once: whether to go on, as the act was accepted or is out of time. -/
def attempt (surface : Surface σ) (settings : Settings) (fuel : Nat) (r : Run σ) :
    Option Bool × Run σ :=
  let r := postPrompt surface settings r
  let deadline := r.course.now + acceptanceTime settings r.act r.course.now
  match untilAccepted surface settings fuel deadline r with
  | (none, r) => (none, r)
  -- an act that ran out of time meanwhile is followed too, to be ended there
  | (some accepted, r) => (some (accepted || r.act.isPastDeadline r.course.now), r)

/-- Posts the prompt up to a number of times, pausing in between. -/
def attempts (surface : Surface σ) (settings : Settings) (fuel : Nat) :
    Nat → Run σ → Option Bool × Run σ
  | 0, r => (some false, r)
  | n + 1, r =>
    match attempt surface settings fuel r with
    | (some false, r) =>
      if n = 0 then (some false, r)
      else
        let course := r.course.advance settings.timings.retryDelay
        attempts surface settings fuel n { r with course }
    | other => other

def tries (settings : Settings) : Nat :=
  if settings.retry then max settings.timings.retryTries 1 else 1

/-! ## Following an act -/

/-- Asks the extension to cancel the act, and waits until the act is complete. -/
def cancelAndWait (surface : Surface σ) (settings : Settings) (fuel : Nat) (r : Run σ) :
    Option Bool × Run σ :=
  let r := { r with course := post surface settings Channel.Message.cancel r.course }
  untilComplete surface settings fuel (r.course.now + settings.timings.ackTimeout) r

def Run.change (r : Run σ) (operation : Act.Operation) : Option Trouble × Run σ :=
  match r.act.apply operation r.course.now with
  | .ok act => (none, { r with act })
  | .error cause => (some (.state cause), r)

/-- Ends an act that ran out of time: it is canceled, and if that is not confirmed it fails. -/
def timeOut (surface : Surface σ) (settings : Settings) (fuel : Nat) (r : Run σ) :
    Option (Option Trouble) × Run σ :=
  match r.change .markTimedOut with
  | (some trouble, r) => (some (some trouble), r)
  | (none, r) =>
    match cancelAndWait surface settings fuel r with
    | (none, r) => (none, r)
    | (some true, r) => (some none, r)
    | (some false, r) =>
      let (trouble, r) := r.change (.fail timeOutPayload)
      (some trouble, r)

/-- Traces the programs of the steps after those observed before. -/
def traceSteps (settings : Settings) (observed : Nat) (r : Run σ) : Run σ :=
  let lines := (r.act.steps.drop observed).flatMap fun step =>
    settings.trace.programLines step.program
  { r with course := r.course.trace lines }

def hearCancel (settings : Settings) (r : Run σ) : Run σ :=
  let line := settings.trace.line "Terminating agent workflow"
  { r with course := r.course.resetCancel.trace [line] }

/-- Follows an act until it is complete; so many of its steps were observed before. -/
def follow (surface : Surface σ) (settings : Settings) (waitFuel : Nat) :
    Nat → Nat → Run σ → Option (Option Trouble) × Run σ
  | 0, _, r => (none, r)
  | n + 1, observed, r =>
    if r.act.isComplete then (some none, r)
    else if r.act.isPastDeadline r.course.now then timeOut surface settings waitFuel r
    else
      let r := traceSteps settings observed (poll surface settings r)
      -- a poll can complete the act, and then there is nothing left to cancel
      let observed := r.act.steps.length
      if r.course.cancelRequested && !r.act.isComplete then
        match cancelAndWait surface settings waitFuel (hearCancel settings r) with
        | (none, r) => (none, r)
        | (some false, r) => (some (some .notCanceled), r)
        | (some true, r) => follow surface settings waitFuel n observed r
      else follow surface settings waitFuel n observed r

/-! ## Whole acts -/

def runBound (surface : Surface σ) (settings : Settings) (fuel : Nat) (r : Run σ) :
    Option (Option Trouble) × Run σ :=
  match attempts surface settings fuel (tries settings) r with
  | (none, r) => (none, r)
  | (some false, r) => (some (some .notAccepted), r)
  | (some true, r) => follow surface settings fuel fuel 0 r

/-- Runs an act: it needs the key and the window first. Earlier requests to cancel do not count. -/
def run (surface : Surface σ) (settings : Settings) (fuel : Nat) (act : Act)
    (c : Course (Link σ)) : Option (Option Trouble) × Run σ :=
  match installKey surface settings c with
  | (.error cause, c) => (some (some (.channel cause)), ⟨act, c⟩)
  | (.ok _, c) =>
    match c.world.binding.bind act with
    | .error cause => (some (some (.channel cause)), ⟨act, c⟩)
    | .ok binding => runBound surface settings fuel ⟨act, (rebind c binding).resetCancel⟩

def conclude (settings : Settings) (trouble : Option Trouble) (act : Act) : Act.Outcome :=
  match trouble with
  | none => act.outcome settings.service
  | some trouble => .error (actFailure trouble.kind act trouble.message)

/-- How far an act is carried out within the bound. Nothing is bound once there is an outcome. -/
def dispatchWithin (surface : Surface σ) (settings : Settings) (fuel : Nat) (act : Act)
    (c : Course (Link σ)) : Option Act.Outcome × Run σ :=
  match run surface settings fuel act c with
  | (none, r) => (none, r)
  | (some trouble, r) =>
    (some (conclude settings trouble r.act), { r with course := rebind r.course .idle })

def dispatch (surface : Surface σ) (settings : Settings) (fuel : Nat) (act : Act)
    (c : Course (Link σ)) : Option (Act.Outcome × Run σ) :=
  match dispatchWithin surface settings fuel act c with
  | (none, _) => none
  | (some outcome, r) => some (outcome, r)

end BrowserAct.Dispatch.Extension
