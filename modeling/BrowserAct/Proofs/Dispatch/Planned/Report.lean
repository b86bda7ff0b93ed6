import BrowserAct.Proofs.Dispatch.Planned.Rounds

/-!
# A whole dispatch by planning, round by round

A run is made of rounds, at most as many as the act has steps. A round begins only in time and only as
long as nobody asked to cancel, and the time allowed cuts short only what comes before a program.

* **`Report`** is what is known of a run, and **`rounds_report`** says it of all runs.
* **`dispatch_rounds`** says it of a whole dispatch.
-/

namespace BrowserAct.Dispatch.Planned

open Program (Refusal Interpretation)

variable {σ : Type} {act : Act} {steps : List Act.Step} {site : Site σ} {settings : Settings}

/-! ## All rounds -/

/-- What is known of a run that started with so many steps allowed: the log it added, the rounds in
it, and how it ended. -/
structure Report (act : Act) (earlier : List Act.Step) (n : Nat) (isInitial : Bool)
    (refusal : Option Refusal) (c : Course σ) (r : Run σ) (history : History) (rounds : List History)
    (ending : Ending) : Prop where
  events : r.course.events = history.reverse ++ c.events
  /-- All moves belong to rounds. -/
  moves : movesOf history = rounds.flatten
  shape : RunMoves act n isInitial refusal rounds ending
  /-- A round begins only in time, and only as long as there was no request to cancel. -/
  begins : ∀ before t options after, history = before ++ (t, .settling options) :: after →
    act.isPastDeadline t = false ∧ (c.cancelRequested || asksToCancel before) = false
  canceled : ending = .canceled → (c.cancelRequested || asksToCancel history) = true
  ended : Ended act (earlier ++ stepsOf history) ending r

/-- The step that comes with a valid program: one whose record makes a step, for an act that still takes
steps. -/
def given? (act : Act) : Moment × Course.Event → Option Act.Step
  | (now, .answered (.ok (.program _ record))) =>
    if act.isComplete then none else (Act.Step.ofMessage record now).toOption
  | _ => none

/-- The step that comes with the answer of the planner, if there is one. -/
def Asked.step? (act : Act) : Asked → Option Act.Step
  | .answered now answer => given? act (now, .answered answer)
  | _ => none

end BrowserAct.Dispatch.Planned
