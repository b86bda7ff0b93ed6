import BrowserAct.Course.Basic

/-!
# What is added to a log

The log of a run only grows. Where a part of a run makes events of some kinds only, these are what it
adds to the log.

* **`Extends`** says that a log goes on with events of one kind.
* **`Event.IsInner`** is the kind that a dispatcher makes while it is at work.
* The lemmas say what the ways of a course to go on add to it. Requests to cancel can come with every
  move of the world.
-/

namespace BrowserAct.Course

namespace Event

def isDispatched : Event → Bool
  | .dispatched _ => true
  | _ => false

def isKeyPosted : Event → Bool
  | .keyPosted _ => true
  | _ => false

/-- An event that neither begins an attempt nor hands over the key. -/
def IsInner (event : Event) : Prop :=
  event.isDispatched = false ∧ event.isKeyPosted = false

end Event

variable {σ α : Type} {P : Event → Prop}

/-- The log of a course goes on, with events of one kind only. -/
def Extends (P : Event → Prop) (c d : Course σ) : Prop :=
  ∃ new, d.events = new ++ c.events ∧ ∀ entry ∈ new, P entry.2

namespace Extends

theorem of_events_eq {c d : Course σ} (same : d.events = c.events) : Extends P c d :=
  ⟨[], same, List.forall_mem_nil _⟩

theorem refl (c : Course σ) : Extends P c c :=
  of_events_eq rfl

/-- Extended twice is extended once by both parts. -/
theorem trans {c d e : Course σ} (first : Extends P c d) (second : Extends P d e) :
    Extends P c e := by
  obtain ⟨new, hnew, hkind⟩ := first
  obtain ⟨later, hlater, hkind'⟩ := second
  refine ⟨later ++ new, ?_, List.forall_mem_append.mpr ⟨hkind', hkind⟩⟩
  rw [hlater, hnew, List.append_assoc]

/-- Events of one kind are events of every wider kind. -/
theorem mono {Q : Event → Prop} {c d : Course σ} (grows : Extends P c d)
    (weaker : ∀ event, P event → Q event) : Extends Q c d := by
  obtain ⟨new, hnew, hkind⟩ := grows
  exact ⟨new, hnew, fun entry hmem => weaker _ (hkind entry hmem)⟩

end Extends

theorem extends_log {event : Event} (kind : P event) (c : Course σ) : Extends P c (c.log event) :=
  ⟨[(c.now, event)], rfl, by simpa using kind⟩

/-- Lines extend the log by lines. -/
theorem extends_trace (traced : ∀ line, P (.traced line)) (c : Course σ) (lines : List String) :
    Extends P c (c.trace lines) := by
  rw [trace]
  induction lines generalizing c with
  | nil => exact .refl c
  | cons line rest ih => exact (extends_log (traced line) c).trans (ih _)

/-- Lines of the trace are all that tracing changes. -/
theorem world_trace (c : Course σ) (lines : List String) : (c.trace lines).world = c.world := by
  rw [trace]
  induction lines generalizing c with
  | nil => rfl
  | cons line rest ih => exact ih (c.log (.traced line))

variable (request : P .cancelRequested)
include request

/-- What a party does by itself it logs as it does. -/
theorem extends_react (c : Course σ) (r : Reaction σ α) : Extends P c (c.react r).2 := by
  rw [react]
  dsimp only
  split
  · exact extends_log request { c with world := r.world }
  · exact .of_events_eq rfl

theorem extends_await (c : Course σ) (p : Pending σ α) : Extends P c (c.await p).2 :=
  (extends_react request c p.begun).trans (extends_react request _ p.ended)

theorem extends_awaitUntil (c : Course σ) (deadline : Option Moment) (p : Pending σ α) :
    Extends P c (c.awaitUntil deadline p).2 := by
  cases deadline with
  | none => exact extends_await request c p
  | some deadline =>
    rw [awaitUntil]
    split
    · exact extends_await request c p
    · exact extends_react request c p.begun

end BrowserAct.Course
