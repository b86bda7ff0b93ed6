import BrowserAct.Course.Event

/-!
# The course of a run

A run goes on under one clock, beside a world of parties outside about which nothing is assumed. The
flag by which others ask to cancel can be raised with every move of the world.

* **`Course.react`** takes in a move of the world that takes no time, **`Course.await`** one that does.
* **`Course.events`** is the log of all that happened, with the times, latest first.
-/

namespace BrowserAct

/-- A move of the world: the answer it gives, and whether a request to cancel came with it. -/
structure Reaction (σ α : Type) where
  answer : α
  world : σ
  cancels : Bool := false

/-- A move of the world that takes time. Until it ends the world is as it was when it began. -/
structure Pending (σ α : Type) where
  begun : Reaction σ Unit
  delay : Duration
  ended : Reaction σ α

section

variable {σ τ α : Type}

/-- The same move of a part of another world. -/
def Reaction.lift (place : σ → τ) (r : Reaction σ α) : Reaction τ α :=
  ⟨r.answer, place r.world, r.cancels⟩

/-- A move that takes no time. -/
def Pending.atOnce (r : Reaction σ α) : Pending σ α :=
  ⟨{ answer := (), world := r.world }, 0, r⟩

/-- The same move of a part of another world. -/
def Pending.lift (place : σ → τ) (p : Pending σ α) : Pending τ α :=
  ⟨p.begun.lift place, p.delay, p.ended.lift place⟩

end

/-- How far a run has come. -/
structure Course (σ : Type) where
  world : σ
  now : Moment
  /-- The flag by which others ask to cancel. -/
  cancelRequested : Bool
  /-- All that happened, latest first. -/
  events : List (Moment × Course.Event)

namespace Course

variable {σ α : Type}

def start (world : σ) : Course σ :=
  ⟨world, 0, false, []⟩

def log (c : Course σ) (event : Event) : Course σ :=
  { c with events := (c.now, event) :: c.events }

def trace (c : Course σ) (lines : List String) : Course σ :=
  lines.foldl (fun c line => c.log (.traced line)) c

def requestCancel (c : Course σ) : Course σ :=
  { c.log .cancelRequested with cancelRequested := true }

def resetCancel (c : Course σ) : Course σ :=
  { c with cancelRequested := false }

def advance (c : Course σ) (d : Duration) : Course σ :=
  { c with now := c.now + d }

/-- Takes in a move of the world that takes no time. -/
def react (c : Course σ) (r : Reaction σ α) : α × Course σ :=
  let c := { c with world := r.world }
  (r.answer, if r.cancels then c.requestCancel else c)

def await (c : Course σ) (p : Pending σ α) : α × Course σ :=
  ((c.react p.begun).2.advance p.delay).react p.ended

/-- Waits for a move of the world, up to a deadline. A move that ends at the deadline is in time. One
that would end later is cut short: it began, but gives no answer. -/
def awaitUntil (c : Course σ) (deadline : Option Moment) (p : Pending σ α) : Option α × Course σ :=
  match deadline with
  | none =>
    let (answer, c) := c.await p
    (some answer, c)
  | some deadline =>
    if c.now + p.delay ≤ deadline then
      let (answer, c) := c.await p
      (some answer, c)
    else (none, (c.react p.begun).2.advance (deadline - c.now))

/-- The lines of the trace, first to last. -/
def lines (c : Course σ) : List String :=
  (c.events.filterMap fun (_, event) => event.line?).reverse

/-! ## Laws -/

@[simp] theorem log_now (c : Course σ) (e : Event) : (c.log e).now = c.now := rfl

@[simp] theorem log_events (c : Course σ) (e : Event) :
    (c.log e).events = (c.now, e) :: c.events := rfl

@[simp] theorem trace_now (c : Course σ) (lines : List String) : (c.trace lines).now = c.now := by
  rw [trace]
  induction lines generalizing c with
  | nil => rfl
  | cons line rest ih => rw [List.foldl_cons, ih, log_now]

@[simp] theorem react_now (c : Course σ) (r : Reaction σ α) : (c.react r).2.now = c.now := by
  unfold react
  dsimp only
  split <;> rfl

/-- A move takes the time it was to take. -/
@[simp] theorem now_await (c : Course σ) (p : Pending σ α) :
    (c.await p).2.now = c.now + p.delay := by
  simp [await, advance]

theorem world_react (c : Course σ) (r : Reaction σ α) : (c.react r).2.world = r.world := by
  rw [react]
  dsimp only
  split <;> rfl

/-- The world is left as the end of a move leaves it. -/
theorem world_await (c : Course σ) (p : Pending σ α) : (c.await p).2.world = p.ended.world :=
  world_react _ p.ended

end Course

end BrowserAct
