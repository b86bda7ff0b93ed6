import BrowserAct.Course.Basic

/-!
# Looking for some of the events

The log of a run holds all that happened. A statement is about some of it, and an observer says about
which. Requests to cancel and lines of the trace come with moves of every kind, so no observer
looks for these.

* **`Course.seen`** is what an observer sees of a run, with the times, latest first.
* The lemmas say what the ways of a course to go on add to that, which is mostly nothing.
-/

namespace BrowserAct.Course

/-- A kind of events to look for. -/
structure Observer (β : Type) where
  observe : Event → Option β
  observe_cancelRequested : observe .cancelRequested = none
  observe_traced : ∀ line, observe (.traced line) = none

variable {σ α β : Type}

/-- What an observer sees of a run so far, latest first. -/
def seen (o : Observer β) (c : Course σ) : List (Moment × β) :=
  c.events.filterMap fun entry => (o.observe entry.2).map (entry.1, ·)

variable (o : Observer β)

/-- An event that an observer does not see leaves it what it saw. -/
theorem seen_log_of_none {event : Event} (blind : o.observe event = none) (c : Course σ) :
    (c.log event).seen o = c.seen o := by
  rw [seen, log_events, List.filterMap_cons, blind]
  rfl

/-- An event that it sees is seen with its moment. -/
theorem seen_log_of_some {event : Event} {b : β} (sees : o.observe event = some b) (c : Course σ) :
    (c.log event).seen o = (c.now, b) :: c.seen o := by
  rw [seen, log_events, List.filterMap_cons, sees]
  rfl

@[simp] theorem seen_resetCancel (c : Course σ) : c.resetCancel.seen o = c.seen o := rfl

@[simp] theorem seen_advance (c : Course σ) (d : Duration) : (c.advance d).seen o = c.seen o := rfl

@[simp] theorem seen_requestCancel (c : Course σ) : c.requestCancel.seen o = c.seen o :=
  seen_log_of_none o o.observe_cancelRequested c

@[simp] theorem seen_trace (c : Course σ) (lines : List String) :
    (c.trace lines).seen o = c.seen o := by
  rw [trace]
  induction lines generalizing c with
  | nil => rfl
  | cons line rest ih => rw [List.foldl_cons, ih, seen_log_of_none o (o.observe_traced line)]

@[simp] theorem seen_react (c : Course σ) (r : Reaction σ α) : (c.react r).2.seen o = c.seen o := by
  rw [react]
  dsimp only
  split
  · rw [seen_requestCancel]
    rfl
  · rfl

@[simp] theorem seen_await (c : Course σ) (p : Pending σ α) : (c.await p).2.seen o = c.seen o := by
  rw [await, seen_react, seen_advance, seen_react]

@[simp] theorem seen_awaitUntil (c : Course σ) (deadline : Option Moment) (p : Pending σ α) :
    (c.awaitUntil deadline p).2.seen o = c.seen o := by
  cases deadline with
  | none => exact seen_await o c p
  | some deadline =>
    rw [awaitUntil]
    split
    · exact seen_await o c p
    · rw [seen_advance, seen_react]

/-- The same for a wait whose answer is known. -/
theorem seen_of_awaitUntil {c d : Course σ} {deadline : Option Moment} {p : Pending σ α}
    {answer : Option α} (waited : c.awaitUntil deadline p = (answer, d)) : d.seen o = c.seen o := by
  rw [← seen_awaitUntil o c deadline p, waited]

end BrowserAct.Course
