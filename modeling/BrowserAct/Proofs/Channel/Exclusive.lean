import BrowserAct.Proofs.Channel.Stream
import Mathlib.Data.List.Induction
import Mathlib.Logic.Function.Basic

/-!
# One act at a time

A window is asked to bind acts and pages, to let go of what is bound, and to handle messages, in any
order and with any of several acts at hand. The acts may also be changed elsewhere between two calls.

* **`Window.call`** is one call, **`Window.run`** several; those that are refused change nothing.
* **`Held`** says that an act was bound and neither completed by a message nor let go since.
* **`openAct?_after_iff`** says what one call does to an open binding, **`openAct?_run_iff`** that the
  binding is open for an act exactly while that act is held.
* **`exclusive`** says what is refused after any calls, and what a call can change.
-/

namespace BrowserAct.Channel

/-! ## Messages that report a completion -/

/-- The message is a completion, encrypted under the key. -/
def ReportsCompletion (key : Key) (raw : Json) : Prop :=
  raw.isObject = true ∧ ∃ message completion,
    decrypt key raw = .ok message ∧ Inbound.parse message = .ok (.completion completion)

/-- Whether a message is received as a completion. -/
def isCompletion (key : Key) (raw : Json) : Bool :=
  match receive key raw with
  | .ok (some inbound) => inbound.isCompletion
  | _ => false

/-- The test for a completion is the one that was described. -/
theorem isCompletion_iff {key : Key} {raw : Json} :
    isCompletion key raw = true ↔ ReportsCompletion key raw := by
  constructor
  · intro completes
    rw [isCompletion] at completes
    split at completes
    case h_2 => cases completes
    case h_1 inbound received =>
      obtain ⟨shape, message, opened, parsed⟩ := receive_eq_some_iff.mp received
      cases inbound with
      | completion completion => exact ⟨shape, message, completion, opened, parsed⟩
      | accepted | step | tab | unknown => cases completes
  · rintro ⟨shape, message, completion, opened, parsed⟩
    rw [isCompletion, receive_eq_some_iff.mpr ⟨shape, message, opened, parsed⟩]
    rfl

namespace Binding

/-! ## What one message does to a binding -/

/-- The session of the page that is bound. -/
def pageSession? : Binding → Option String
  | .page sessionId _ => some sessionId
  | _ => none

@[simp] theorem openAct?_act {id other : String} {isOpen : Bool} :
    (Binding.act id isOpen).openAct? = some other ↔ isOpen = true ∧ id = other := by
  cases isOpen <;> simp [openAct?]

@[simp] theorem openAct?_page (sessionId : String) (settled : Bool) :
    (Binding.page sessionId settled).openAct? = none := rfl

@[simp] theorem openAct?_idle : Binding.idle.openAct? = none := rfl

/-- Where no report does anything, no message does. -/
theorem take_of_apply {b : Binding} {a : Act} {now : Moment}
    (ignores : ∀ inbound, b.apply inbound a now = .ok (b, a)) (key : Key) (raw : Json) :
    take key now (b, a) raw = (b, a) := by
  rw [take, handle]
  cases receive key raw with
  | error cause => rfl
  | ok report? =>
    cases report? with
    | none => rfl
    | some inbound => simp only [ignores]

/-- A bound page takes in completions only, and the act at hand stays as it is. -/
theorem take_page (key : Key) (now : Moment) (sessionId : String) (settled : Bool) (a : Act)
    (raw : Json) :
    take key now (.page sessionId settled, a) raw =
      (.page sessionId (settled || isCompletion key raw), a) := by
  rw [take, handle, isCompletion]
  cases receive key raw with
  | error cause => simp
  | ok report? =>
    cases report? with
    | none => simp
    | some inbound => rfl

/-- A message leaves the bound act bound, and closes it exactly if it completes it. -/
theorem take_bound (key : Key) (now : Moment) (a : Act) (isOpen : Bool) (raw : Json) :
    (take key now (.act a.id isOpen, a) raw).1 =
      .act a.id (isOpen &&
        (a.isComplete || !(take key now (.act a.id isOpen, a) raw).2.isComplete)) := by
  -- where nothing is taken in, the act is as complete as before
  have unchanged (same : take key now (.act a.id isOpen, a) raw = (.act a.id isOpen, a)) :
      (take key now (.act a.id isOpen, a) raw).1 =
        .act a.id (isOpen &&
          (a.isComplete || !(take key now (.act a.id isOpen, a) raw).2.isComplete)) := by
    rw [same, Bool.or_not_self, Bool.and_true]
  cases complete : a.isComplete with
  | true => exact complete ▸ unchanged (take_of_complete complete key now isOpen raw)
  | false =>
    cases read : reading? key now raw with
    | none => exact complete ▸ unchanged (take_of_dropped (reading?_eq_none_iff.mp read) _)
    | some inbound =>
      obtain ⟨-, operation?, asked⟩ := reading?_eq_some_iff.mp read
      have taken := take_of_reading read a isOpen
      rw [asked] at taken
      cases operation? with
      | none => exact complete ▸ unchanged taken
      | some operation =>
        simp only [Act.apply_of_open complete] at taken
        rw [taken, Bool.false_or]
        -- only a completion completes an act, and every completion does
        cases completes : inbound.isCompletion with
        | true =>
          cases inbound with
          | completion report =>
            cases asked
            rw [Act.isComplete_perform_completion]
          | accepted | step | tab | unknown => cases completes
        | false => rw [Act.isComplete_perform asked completes, complete]

end Binding

/-! ## Calls -/

/-- A call on a window among several acts, or a change that one of them undergoes elsewhere. -/
inductive Call (ι : Type) where
  | bind (i : ι)
  | bindPage (sessionId : String) (settled : Bool)
  | release
  /-- A message comes in, with one of the acts at hand or with none. -/
  | message (now : Moment) (raw : Json) (atHand : Option ι)
  | elsewhere (now : Moment) (i : ι) (operation : Act.Operation)

/-- A window and the acts that it is used with. -/
structure Window (ι : Type) where
  binding : Binding
  acts : ι → Act

namespace Window

variable {ι : Type} [DecidableEq ι]

/-- A window with nothing bound. -/
def idle (acts : ι → Act) : Window ι := ⟨.idle, acts⟩

/-- Carries out a call, or refuses it. -/
def call (key : Key) (w : Window ι) : Call ι → Except Error (Window ι)
  | .bind i => (w.binding.bind (w.acts i)).map ({ w with binding := · })
  | .bindPage sessionId settled =>
    (w.binding.bindPage sessionId settled).map ({ w with binding := · })
  | .release => .ok { w with binding := .idle }
  | .message _ raw none => (w.binding.handleAlone key raw).map ({ w with binding := · })
  | .message now raw (some i) =>
    (w.binding.handle key raw (w.acts i) now).map fun taken =>
      ⟨taken.1, Function.update w.acts i taken.2⟩
  | .elsewhere now i operation =>
    .ok { w with acts := Function.update w.acts i ((w.acts i).attempt operation now) }

/-- What is there after a call; one that is refused changes nothing. -/
def after (key : Key) (w : Window ι) (call : Call ι) : Window ι :=
  match w.call key call with
  | .ok next => next
  | .error _ => w

def run (key : Key) (w : Window ι) (calls : List (Call ι)) : Window ι :=
  calls.foldl (after key) w

/-- A call is refused. -/
def Refuses (key : Key) (w : Window ι) (call : Call ι) : Prop :=
  ∃ cause, w.call key call = .error cause

/-- A call is a message that completes an act of this id, which is at hand. -/
def Completes (key : Key) (w : Window ι) (call : Call ι) (id : String) : Prop :=
  ∃ now raw i, call = .message now raw (some i) ∧ (w.acts i).id = id ∧
    (w.acts i).isComplete = false ∧ ((w.after key call).acts i).isComplete = true

/-- A call lets go of what is bound, or binds something in its place. -/
def Replaces (key : Key) (w : Window ι) (call : Call ι) : Prop :=
  call = .release ∨
    ¬ w.Refuses key call ∧
      ((∃ i, call = .bind i) ∨ ∃ sessionId settled, call = .bindPage sessionId settled)

/-- An act of this id was bound by one of the calls, and neither completed by a message nor let go
since. -/
inductive Held (key : Key) (start : Window ι) : List (Call ι) → String → Prop where
  | bound {calls : List (Call ι)} {i : ι} (binds : ¬ (start.run key calls).Refuses key (.bind i)) :
    Held key start (calls ++ [.bind i]) ((start.run key calls).acts i).id
  | kept {calls : List (Call ι)} {id : String} {call : Call ι} (held : Held key start calls id)
    (stays : call ≠ .release) (goesOn : ¬ (start.run key calls).Completes key call id) :
    Held key start (calls ++ [call]) id

variable {key : Key} {w : Window ι}

theorem run_concat (calls : List (Call ι)) (call : Call ι) :
    w.run key (calls ++ [call]) = (w.run key calls).after key call := by
  rw [run, List.foldl_append]
  rfl

/-- A call that is refused leaves everything as it is. -/
theorem after_of_refuses {call : Call ι} (refused : w.Refuses key call) : w.after key call = w := by
  obtain ⟨cause, refused⟩ := refused
  rw [after, refused]

/-! ## What is refused -/

/-- An act can be bound unless it is complete or another one is open. -/
theorem refuses_bind_iff {i : ι} :
    w.Refuses key (.bind i) ↔
      (w.acts i).isComplete = true ∨
        ∃ id, w.binding.openAct? = some id ∧ id ≠ (w.acts i).id := by
  rw [Refuses, call, Binding.bind]
  cases (w.acts i).isComplete with
  | true => simp [Except.map]
  | false =>
    cases w.binding.openAct? with
    | none => simp [Except.map]
    | some id => by_cases same : id = (w.acts i).id <;> simp [Except.map, same]

/-- A page can be bound unless it has settled or an act is open. -/
theorem refuses_bindPage_iff {sessionId : String} {settled : Bool} :
    w.Refuses key (.bindPage sessionId settled) ↔
      settled = true ∨ ∃ id, w.binding.openAct? = some id := by
  rw [Refuses, call, Binding.bindPage]
  cases settled with
  | true => simp [Except.map]
  | false => cases w.binding.openAct? <;> simp [Except.map]

/-! ## What a call does -/

/-- An act that is bound is open. -/
theorem after_bind {i : ι} (binds : ¬ w.Refuses key (.bind i)) :
    w.after key (.bind i) = { w with binding := .act (w.acts i).id true } := by
  cases bound : w.binding.bind (w.acts i) with
  | error cause => exact (binds ⟨cause, by rw [call, bound]; rfl⟩).elim
  | ok b =>
    obtain ⟨-, rfl⟩ := Binding.bind_eq_ok bound
    rw [after, call, bound]
    rfl

/-- A page that is bound has not settled. -/
theorem after_bindPage {sessionId : String} {settled : Bool}
    (binds : ¬ w.Refuses key (.bindPage sessionId settled)) :
    w.after key (.bindPage sessionId settled) = { w with binding := .page sessionId false } := by
  rw [refuses_bindPage_iff, not_or] at binds
  obtain ⟨unsettled, idle⟩ := binds
  have noAct : w.binding.openAct? = none := by
    simpa [Option.eq_none_iff_forall_ne_some] using idle
  rw [after, call, Binding.bindPage, if_neg unsettled, noAct]
  rfl

/-- A message does to the window and the act at hand what it does to them alone. -/
theorem after_message (now : Moment) (raw : Json) (i : ι) :
    w.after key (.message now raw (some i)) =
      ⟨(Binding.take key now (w.binding, w.acts i) raw).1,
        Function.update w.acts i (Binding.take key now (w.binding, w.acts i) raw).2⟩ := by
  rw [after, call, Binding.take]
  cases w.binding.handle key raw (w.acts i) now with
  | error cause => exact congrArg (Window.mk w.binding) (Function.update_eq_self i w.acts).symm
  | ok taken => rfl

/-- Where no report does anything to the act at hand, no message does. -/
theorem after_message_ignored {now : Moment} {i : ι}
    (ignores : ∀ inbound, w.binding.apply inbound (w.acts i) now = .ok (w.binding, w.acts i))
    (raw : Json) : w.after key (.message now raw (some i)) = w := by
  rw [after_message, Binding.take_of_apply ignores, Function.update_eq_self]

/-- With no act at hand, only a bound page takes in a message. -/
theorem after_message_alone (noPage : w.binding.pageSession? = none) (now : Moment) (raw : Json) :
    w.after key (.message now raw none) = w := by
  have ignores (inbound : Inbound) : w.binding.applyAlone inbound = w.binding := by
    cases bound : w.binding with
    | idle | act => rfl
    | page => rw [bound] at noPage; cases noPage
  rw [after, call, Binding.handleAlone]
  cases receive key raw with
  | error cause => rfl
  | ok report? =>
    cases report? with
    | none => rfl
    | some inbound => exact congrArg (Window.mk · w.acts) (ignores inbound)

/-- With nothing bound, a message does nothing. -/
theorem after_message_idle (bound : w.binding = .idle) (now : Moment) (raw : Json)
    (atHand : Option ι) : w.after key (.message now raw atHand) = w := by
  cases atHand with
  | some i =>
    refine after_message_ignored (fun inbound => ?_) raw
    rw [bound, Binding.apply]
  | none => exact after_message_alone (by rw [bound]; rfl) now raw

/-- With a page bound, a message can only settle the page. -/
theorem after_message_page {sessionId : String} {settled : Bool}
    (bound : w.binding = .page sessionId settled) (now : Moment) (raw : Json)
    (atHand : Option ι) :
    w.after key (.message now raw atHand) =
      { w with binding := .page sessionId (settled || isCompletion key raw) } := by
  cases atHand with
  | some i => rw [after_message, bound, Binding.take_page, Function.update_eq_self]
  | none =>
    rw [after, call, bound, Binding.handleAlone, isCompletion]
    cases receive key raw with
    | error cause => simp [Except.map, ← bound]
    | ok report? => cases report? <;> simp [Except.map, Binding.applyAlone]

/-- With an act bound, a message does nothing while that act is not at hand. -/
theorem after_message_away {id : String} {isOpen : Bool} (bound : w.binding = .act id isOpen)
    {atHand : Option ι} (away : ∀ i, atHand = some i → (w.acts i).id ≠ id) (now : Moment)
    (raw : Json) : w.after key (.message now raw atHand) = w := by
  cases atHand with
  | some i =>
    refine after_message_ignored (fun inbound => ?_) raw
    rw [bound, Binding.apply, if_neg (away i rfl)]
  | none => exact after_message_alone (by rw [bound]; rfl) now raw

/-- With an act bound and at hand, a message closes the binding exactly if it completes the act. -/
theorem binding_after_message {isOpen : Bool} {i : ι}
    (bound : w.binding = .act (w.acts i).id isOpen) (now : Moment) (raw : Json) :
    (w.after key (.message now raw (some i))).binding =
      .act (w.acts i).id (isOpen && ((w.acts i).isComplete ||
        !((w.after key (.message now raw (some i))).acts i).isComplete)) := by
  have taken := Binding.take_bound key now (w.acts i) isOpen raw
  rw [← bound] at taken
  simpa only [after_message, Function.update_self] using taken

/-- A message never changes which act or which page is bound. -/
theorem subject_after_message (now : Moment) (raw : Json) (atHand : Option ι) :
    (w.after key (.message now raw atHand)).binding.actId? = w.binding.actId? ∧
      (w.after key (.message now raw atHand)).binding.pageSession? = w.binding.pageSession? := by
  cases bound : w.binding with
  | idle => rw [after_message_idle bound, bound]; exact ⟨rfl, rfl⟩
  | page sessionId settled => rw [after_message_page bound]; exact ⟨rfl, rfl⟩
  | act id isOpen =>
    by_cases away : ∀ i, atHand = some i → (w.acts i).id ≠ id
    · rw [after_message_away bound away, bound]
      exact ⟨rfl, rfl⟩
    · push Not at away
      obtain ⟨i, rfl, rfl⟩ := away
      rw [binding_after_message bound]
      exact ⟨rfl, rfl⟩

/-- A message changes no act but the one that is bound, and that one only while it is at hand. -/
theorem acts_after_message {now : Moment} {raw : Json} {atHand : Option ι} {j : ι}
    (changed : (w.after key (.message now raw atHand)).acts j ≠ w.acts j) :
    atHand = some j ∧ w.binding.actId? = some (w.acts j).id := by
  cases bound : w.binding with
  | idle => exact (changed (by rw [after_message_idle bound])).elim
  | page sessionId settled => exact (changed (by rw [after_message_page bound])).elim
  | act id isOpen =>
    -- a message counts only for the act at hand, and only if it is the one that is bound
    by_cases away : ∀ i, atHand = some i → (w.acts i).id ≠ id
    · exact (changed (by rw [after_message_away bound away])).elim
    · push Not at away
      obtain ⟨i, rfl, rfl⟩ := away
      -- of all acts only that one is written back
      by_cases same : j = i
      · subst same
        exact ⟨rfl, rfl⟩
      · rw [after_message] at changed
        exact (changed (Function.update_of_ne same _ _)).elim

/-! ## While an act is held -/

/-- A message completes the act at hand, and no other. -/
theorem completes_message_iff {now : Moment} {raw : Json} {i : ι} {id : String} :
    w.Completes key (.message now raw (some i)) id ↔
      (w.acts i).id = id ∧ (w.acts i).isComplete = false ∧
        ((w.after key (.message now raw (some i))).acts i).isComplete = true := by
  constructor
  · rintro ⟨_, _, _, same, completed⟩
    cases same
    exact completed
  · intro completed
    exact ⟨now, raw, i, rfl, completed⟩

/-- **One call.** A binding is open for an act after a call if the call binds that act, or if it was open
before and the call neither lets go nor completes the act. -/
theorem openAct?_after_iff {call : Call ι} {id : String} :
    (w.after key call).binding.openAct? = some id ↔
      (∃ i, call = .bind i ∧ ¬ w.Refuses key call ∧ (w.acts i).id = id) ∨
        (w.binding.openAct? = some id ∧ call ≠ .release ∧ ¬ w.Completes key call id) := by
  cases call with
  | bind i =>
    by_cases refused : w.Refuses key (.bind i)
    · simp [after_of_refuses refused, refused, Completes]
    · -- an act that is open already is the one that is bound again
      have again (isOpen : w.binding.openAct? = some id) : (w.acts i).id = id := by
        rw [refuses_bind_iff] at refused
        push Not at refused
        exact (refused.2 id isOpen).symm
      simpa [after_bind refused, refused, Completes] using again
  | bindPage sessionId settled =>
    by_cases refused : w.Refuses key (.bindPage sessionId settled)
    · simp [after_of_refuses refused, Completes]
    -- a page is bound only where no act was open
    · have noAct : w.binding.openAct? ≠ some id := by
        rw [refuses_bindPage_iff] at refused
        push Not at refused
        exact refused.2 id
      simp [after_bindPage refused, noAct]
  | release => simp [after, call]
  | elsewhere now i operation => simp [after, call, Completes]
  | message now raw atHand =>
    have noBind : ¬ ∃ i, Call.message now raw atHand = .bind i ∧
        ¬ w.Refuses key (.message now raw atHand) ∧ (w.acts i).id = id := by simp
    rw [or_iff_right noBind]
    cases bound : w.binding with
    | idle => simp [after_message_idle bound, bound]
    | page sessionId settled => simp [after_message_page bound]
    | act bound' isOpen =>
      by_cases away : ∀ i, atHand = some i → (w.acts i).id ≠ bound'
      -- the act that is bound is not at hand, so nothing is handed to it
      · have kept : w.after key (.message now raw atHand) = w :=
          after_message_away bound away now raw
        have goesOn : ¬ w.Completes key (.message now raw atHand) id := by
          rintro ⟨_, _, i, same, -, incomplete, complete⟩
          cases same
          rw [kept, incomplete] at complete
          cases complete
        simp [kept, bound, goesOn]
      · push Not at away
        obtain ⟨i, rfl, rfl⟩ := away
        rw [binding_after_message bound, Binding.openAct?_act, Binding.openAct?_act,
          completes_message_iff]
        -- the binding is closed exactly where the message made the act complete
        by_cases same : (w.acts i).id = id
        · cases isOpen <;> cases (w.acts i).isComplete <;> simp [same]
        · simp [same]

/-- **A run.** After any calls the binding is open for an act exactly while that act is held. -/
theorem openAct?_run_iff {start : Window ι} (idle : start.binding.openAct? = none)
    (calls : List (Call ι)) (id : String) :
    (start.run key calls).binding.openAct? = some id ↔ Held key start calls id := by
  constructor
  · -- the last call bound the act or kept it bound
    induction calls using List.reverseRecOn with
    | nil =>
      intro isOpen
      rw [run, List.foldl_nil, idle] at isOpen
      cases isOpen
    | append_singleton calls call ih =>
      intro isOpen
      rw [run_concat, openAct?_after_iff] at isOpen
      obtain ⟨i, rfl, binds, rfl⟩ | ⟨before, stays, goesOn⟩ := isOpen
      · exact .bound binds
      · exact .kept (ih before) stays goesOn
  · intro held
    -- the other way round, each step of a holding is a call after which the act is open
    induction held with
    | bound binds =>
      rw [run_concat, openAct?_after_iff]
      exact Or.inl ⟨_, rfl, binds, rfl⟩
    | kept held stays goesOn ih =>
      rw [run_concat, openAct?_after_iff]
      exact Or.inr ⟨ih, stays, goesOn⟩

/-! ## Whatever is called -/

/-- A bound page stays bound until it is replaced, and only a completion settles it. -/
theorem page_after {sessionId : String} {settled : Bool} (bound : w.binding = .page sessionId settled)
    {call : Call ι} (stays : ¬ w.Replaces key call) :
    ∃ settled', (w.after key call).binding = .page sessionId settled' ∧
      (settled' = true ↔ settled = true ∨
        ∃ now raw atHand, call = .message now raw atHand ∧ ReportsCompletion key raw) := by
  cases call with
  | release => exact (stays (Or.inl rfl)).elim
  | message now raw atHand =>
    refine ⟨settled || isCompletion key raw, by rw [after_message_page bound], ?_⟩
    rw [Bool.or_eq_true, isCompletion_iff]
    simp
  | elsewhere now i operation => exact ⟨settled, bound, by simp⟩
  -- a binding that is not replaced was refused
  | bind i =>
    have refused : w.Refuses key (.bind i) := by
      by_contra binds
      exact stays (Or.inr ⟨binds, Or.inl ⟨i, rfl⟩⟩)
    rw [after_of_refuses refused]
    exact ⟨settled, bound, by simp⟩
  | bindPage sessionId' settled' =>
    have refused : w.Refuses key (.bindPage sessionId' settled') := by
      by_contra binds
      exact stays (Or.inr ⟨binds, Or.inr ⟨sessionId', settled', rfl⟩⟩)
    rw [after_of_refuses refused]
    exact ⟨settled, bound, by simp⟩

/-- **A window is one act's at a time.** After any calls, an act can be bound unless it is complete or
another act is held, and a page unless it has settled or an act is held. What can be bound is bound as
open or as unsettled, and a call that is refused changes nothing. A message never changes which act or
page is bound, nor any act but the bound one, and that one only at hand. A bound page settles by an
encrypted completion and by nothing else, and stays settled for as long as it is bound. -/
theorem exclusive (key : Key) (acts : ι → Act) (calls : List (Call ι)) :
    let w := (idle acts).run key calls
    (∀ i, w.Refuses key (.bind i) ↔
      (w.acts i).isComplete = true ∨ ∃ id, Held key (idle acts) calls id ∧ id ≠ (w.acts i).id) ∧
    (∀ sessionId settled, w.Refuses key (.bindPage sessionId settled) ↔
      settled = true ∨ ∃ id, Held key (idle acts) calls id) ∧
    (∀ i, ¬ w.Refuses key (.bind i) →
      w.after key (.bind i) = { w with binding := .act (w.acts i).id true }) ∧
    (∀ sessionId settled, ¬ w.Refuses key (.bindPage sessionId settled) →
      w.after key (.bindPage sessionId settled) = { w with binding := .page sessionId false }) ∧
    (∀ call, w.Refuses key call → w.after key call = w) ∧
    (∀ now raw atHand,
      let next := w.after key (.message now raw atHand)
      next.binding.actId? = w.binding.actId? ∧
      next.binding.pageSession? = w.binding.pageSession? ∧
      ∀ j, next.acts j ≠ w.acts j → atHand = some j ∧ w.binding.actId? = some (w.acts j).id) ∧
    ∀ sessionId settled call, w.binding = .page sessionId settled → ¬ w.Replaces key call →
      ∃ settled', (w.after key call).binding = .page sessionId settled' ∧
        (settled' = true ↔ settled = true ∨
          ∃ now raw atHand, call = .message now raw atHand ∧ ReportsCompletion key raw) := by
  intro w
  -- which act is open can be told from the calls
  have held (id : String) : w.binding.openAct? = some id ↔ Held key (idle acts) calls id :=
    openAct?_run_iff rfl calls id
  refine ⟨fun i => ?_, fun sessionId settled => ?_, fun i => after_bind,
    fun sessionId settled => after_bindPage, fun call => after_of_refuses,
    fun now raw atHand => ?_,
    fun sessionId settled call bound stays => page_after bound stays⟩
  · rw [refuses_bind_iff]
    simp only [held]
  · rw [refuses_bindPage_iff]
    simp only [held]
  · have same : (w.after key (.message now raw atHand)).binding.actId? = w.binding.actId? ∧
        (w.after key (.message now raw atHand)).binding.pageSession? = w.binding.pageSession? :=
      subject_after_message now raw atHand
    exact ⟨same.1, same.2, fun j => acts_after_message⟩

end Window

end BrowserAct.Channel
