import BrowserAct.Act.Basic

/-!
# The life cycle of an act

An act is made open. Operations carry it on, each asked for at a moment of its own, until one of them
ends it; what is asked for after that is refused.

* **`Act.replay`** is what a history of operations makes of an act, the refused ones included.
* **`Act.ofHistory`** says field by field what a new act becomes: the operations before the first that
  ends it add up, and that one gives the result and the time of the end.
* **`replay_new_lifeCycle`** puts together what holds all along a history.
-/

namespace BrowserAct.Act

/-! ## Histories -/

/-- Operations and the moments at which they are asked for, first to last. -/
abbrev History := List (Operation × Moment)

namespace Operation

/-- The step that an operation adds. -/
def step? : Operation → Option Step
  | .addStep step => some step
  | _ => none

def isAcknowledge : Operation → Bool
  | .acknowledge => true
  | _ => false

def isMarkTimedOut : Operation → Bool
  | .markTimedOut => true
  | _ => false

end Operation

namespace History

/-- The first ending that is asked for, and when. -/
def ending? (history : History) : Option (Ending × Moment) :=
  history.findSome? fun call => call.1.ending?.map (·, call.2)

/-- The operations before the first that ends an act. -/
def counted (history : History) : History :=
  history.takeWhile fun call => call.1.ending?.isNone

variable {operation : Operation} (now : Moment) (rest : History)

/-- An operation that ends nothing leaves the ending to the later ones. -/
theorem ending?_cons_of_none (goesOn : operation.ending? = none) :
    ending? ((operation, now) :: rest) = ending? rest := by
  rw [ending?, List.findSome?_cons, goesOn]
  rfl

/-- The first operation that ends an act ends it. -/
theorem ending?_cons_of_some {ending : Ending} (ends : operation.ending? = some ending) :
    ending? ((operation, now) :: rest) = some (ending, now) := by
  rw [ending?, List.findSome?_cons, ends]
  rfl

/-- Operations count up to the ending. -/
theorem counted_cons_of_none (goesOn : operation.ending? = none) :
    counted ((operation, now) :: rest) = (operation, now) :: counted rest := by
  rw [counted, List.takeWhile_cons, goesOn]
  rfl

theorem counted_cons_of_some {ending : Ending} (ends : operation.ending? = some ending) :
    counted ((operation, now) :: rest) = [] := by
  rw [counted, List.takeWhile_cons, ends]
  rfl

end History

/-- What a history makes of an act. A refused operation changes nothing. -/
def replay (a : Act) (history : History) : Act :=
  history.foldl (fun a call => a.attempt call.1 call.2) a

/-- The act that a history makes of a new one, field by field. -/
def ofHistory (id : String) (request : Request) (start : Moment) (history : History) : Act where
  id := id
  request := request
  startedAt := start
  endedAt := history.ending?.map (·.2)
  steps := history.counted.filterMap (·.1.step?)
  result := history.ending?.map (·.1)
  acknowledged := history.counted.any (·.1.isAcknowledge)
  timedOut := history.counted.any (·.1.isMarkTimedOut)

/-! ## One operation -/

@[simp] theorem attempt_of_complete {a : Act} (complete : a.isComplete = true)
    (operation : Operation) (now : Moment) : a.attempt operation now = a := by
  rw [attempt, apply_of_complete complete]

@[simp] theorem attempt_of_open {a : Act} (isOpen : a.isComplete = false) (operation : Operation)
    (now : Moment) : a.attempt operation now = a.perform operation now := by
  rw [attempt, apply_of_open isOpen]

/-- An operation that ends an act gives it the result and the time of its end, and no more. -/
theorem perform_of_ending {operation : Operation} {ending : Ending}
    (ends : operation.ending? = some ending) (a : Act) (now : Moment) :
    a.perform operation now = a.finish ending now := by
  cases operation with
  | acknowledge | addStep | markTimedOut => cases ends
  | complete | cancel | fail =>
    cases ends
    rfl

/-- Any other operation adds to an act what it says, and no more. -/
theorem perform_of_no_ending {operation : Operation} (goesOn : operation.ending? = none) (a : Act)
    (now : Moment) :
    a.perform operation now =
      { a with
        steps := a.steps ++ operation.step?.toList
        acknowledged := a.acknowledged || operation.isAcknowledge
        timedOut := a.timedOut || operation.isMarkTimedOut } := by
  cases operation with
  | complete | cancel | fail => cases goesOn
  | acknowledge | addStep | markTimedOut =>
    simp [perform, Operation.step?, Operation.isAcknowledge, Operation.isMarkTimedOut]

/-! ## Histories of operations -/

theorem replay_append (a : Act) (earlier later : History) :
    a.replay (earlier ++ later) = (a.replay earlier).replay later :=
  List.foldl_append

/-- Nothing that is asked for changes an act that is complete. -/
theorem replay_of_complete {a : Act} (complete : a.isComplete = true) (history : History) :
    a.replay history = a := by
  induction history with
  | nil => rfl
  | cons call rest ih =>
    rw [replay, List.foldl_cons, attempt_of_complete complete]
    exact ih

/-- What a history makes of an open act. The induction follows the history up to its first ending,
after which the act is complete. -/
theorem replay_of_open {a : Act} (isOpen : a.isComplete = false) (history : History) :
    a.replay history =
      { a with
        endedAt := (history.ending?.map (·.2)).or a.endedAt
        steps := a.steps ++ history.counted.filterMap (·.1.step?)
        result := history.ending?.map (·.1)
        acknowledged := a.acknowledged || history.counted.any (·.1.isAcknowledge)
        timedOut := a.timedOut || history.counted.any (·.1.isMarkTimedOut) } := by
  induction history generalizing a with
  | nil =>
    have noResult : a.result = none :=
      Option.isNone_iff_eq_none.mp (Option.isSome_eq_false_iff.mp isOpen)
    simp [replay, History.ending?, History.counted, ← noResult]
  | cons call rest ih =>
    obtain ⟨operation, now⟩ := call
    rw [replay, List.foldl_cons, attempt_of_open isOpen]
    cases ends : operation.ending? with
    -- the act is complete from here on, and the rest of the history counts no more
    | some ending =>
      have complete : (a.finish ending now).isComplete = true := rfl
      rw [perform_of_ending ends]
      show (a.finish ending now).replay rest = _
      rw [replay_of_complete complete, History.ending?_cons_of_some now rest ends,
        History.counted_cons_of_some now rest ends]
      simp [finish]
    -- the act stays open, so the rest of the history decides about its ending
    | none =>
      have staysOpen : (a.perform operation now).isComplete = false := by
        rw [perform_of_no_ending ends]
        exact isOpen
      show (a.perform operation now).replay rest = _
      rw [ih staysOpen, perform_of_no_ending ends, History.ending?_cons_of_none now rest ends,
        History.counted_cons_of_none now rest ends]
      cases hstep : operation.step? <;> simp [hstep, Bool.or_assoc]

/-- A new act becomes what its history says. -/
theorem replay_new (id : String) (request : Request) (start : Moment) (history : History) :
    (new id request start).replay history = ofHistory id request start history := by
  have isOpen : (new id request start).isComplete = false := rfl
  rw [replay_of_open isOpen]
  simp [new, ofHistory]

/-- Whatever a history does to an act, it takes nothing back. -/
theorem replay_grows (a : Act) (history : History) :
    a.steps <+: (a.replay history).steps ∧
      (a.acknowledged = true → (a.replay history).acknowledged = true) ∧
      (a.timedOut = true → (a.replay history).timedOut = true) := by
  cases hcomplete : a.isComplete with
  | true =>
    rw [replay_of_complete hcomplete]
    exact ⟨List.prefix_refl _, fun acknowledged => acknowledged, fun timedOut => timedOut⟩
  | false =>
    rw [replay_of_open hcomplete]
    refine ⟨List.prefix_append _ _, fun acknowledged => ?_, fun timedOut => ?_⟩
    · simp [acknowledged]
    · simp [timedOut]

/-- **The life cycle of an act.** After any history of operations on a new act:

* what it became is told by the operations before the first that ends it, and by that one;
* it has a time of end exactly with a result;
* once it has these, every operation is refused by name, and nothing that follows changes it;
* before, every operation is carried out;
* all along, its steps grow at their end, its flags stay raised, and who asked for what stays. -/
theorem replay_new_lifeCycle (id : String) (request : Request) (start : Moment)
    (earlier later : History) :
    let a := (new id request start).replay earlier
    let b := (new id request start).replay (earlier ++ later)
    a = ofHistory id request start earlier ∧
      a.endedAt.isSome = a.result.isSome ∧
      (earlier.ending?.isSome = true → b = a ∧ ∀ operation now,
        a.apply operation now = .error (.alreadyComplete id operation.name)) ∧
      (earlier.ending? = none → ∀ operation now,
        a.apply operation now = .ok (a.replay [(operation, now)])) ∧
      a.steps <+: b.steps ∧ (a.acknowledged = true → b.acknowledged = true) ∧
      (a.timedOut = true → b.timedOut = true) ∧
      b.id = id ∧ b.request = request ∧ b.startedAt = start := by
  intro a b
  have ha : a = ofHistory id request start earlier := replay_new id request start earlier
  have hb : b = a.replay later := replay_append _ earlier later
  -- the act is complete exactly where its history has an ending
  have hresult : a.isComplete = earlier.ending?.isSome := by
    rw [ha, isComplete, ofHistory, Option.isSome_map]
  obtain ⟨hsteps, hacknowledged, htimedOut⟩ := replay_grows a later
  refine ⟨ha, ?_, fun ended => ⟨?_, fun operation now => ?_⟩, fun ongoing operation now => ?_, ?_⟩
  · rw [ha, ofHistory, Option.isSome_map, Option.isSome_map]
  · rw [hb, replay_of_complete (hresult.trans ended)]
  · rw [apply_of_complete (hresult.trans ended), ha]
    rfl
  · have isOpen : a.isComplete = false := by rw [hresult, ongoing]; rfl
    rw [apply_of_open isOpen, replay, List.foldl_cons, List.foldl_nil, attempt_of_open isOpen]
  -- what is never taken back, and what no operation touches
  · have hwhole : b = ofHistory id request start (earlier ++ later) :=
      replay_new id request start (earlier ++ later)
    rw [← hb] at hsteps hacknowledged htimedOut
    refine ⟨hsteps, hacknowledged, htimedOut, ?_⟩
    rw [hwhole]
    exact ⟨rfl, rfl, rfl⟩

end BrowserAct.Act
