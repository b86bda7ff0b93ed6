import BrowserAct.Proofs.Act.Terms
import BrowserAct.Proofs.Channel.Stream

/-!
# Messages that ask for something

Of all messages only some change an open act that is bound. The others change nothing, whatever is
bound, and what one of these changed is not undone by any other message.
-/

namespace BrowserAct.Channel

/-! ## Messages that change an act -/

/-- A message that changes an open act: an acceptance, a completion, or a step that can be recorded. -/
inductive Asks (key : Key) (raw : Json) : Prop where
  | acceptance (received : receive key raw = .ok (some .accepted))
  | completion {completion : Completion}
      (received : receive key raw = .ok (some (.completion completion)))
  | step {report : Json} {now : Moment} {step : Act.Step}
      (received : receive key raw = .ok (some (.step report)))
      (made : Act.Step.ofMessage report now = .ok step)

/-- Whether a report makes a step does not depend on when it comes in. -/
theorem ofMessage_at {report : Json} {now : Moment} {step : Act.Step}
    (made : Act.Step.ofMessage report now = .ok step) (later : Moment) :
    ∃ step, Act.Step.ofMessage report later = .ok step := by
  rw [Act.Step.ofMessage] at made
  split at made
  · cases made
  · rename_i hscreenshot
    split at made
    · cases made
    · rename_i hprogram
      rw [Act.Step.ofMessage, if_neg hscreenshot, if_neg hprogram]
      exact ⟨_, rfl⟩

namespace Binding

/-- A message that asks for nothing changes nothing, whatever is bound. -/
theorem take_of_not_asks {key : Key} {raw : Json} (idle : ¬ Asks key raw) (now : Moment)
    (state : Binding × Act) : take key now state raw = state := by
  cases hread : reading? key now raw with
  | none => exact take_of_dropped (reading?_eq_none_iff.mp hread) state
  | some inbound =>
    obtain ⟨hreceived, operation?, hasked⟩ := reading?_eq_some_iff.mp hread
    obtain ⟨b, a⟩ := state
    rw [take, handle, hreceived]
    -- it is read, so only what is about a tab or unknown is left
    cases inbound with
    | accepted => exact absurd (.acceptance hreceived) idle
    | completion => exact absurd (.completion hreceived) idle
    | step report =>
      cases hmade : Act.Step.ofMessage report now with
      | ok step => exact absurd (.step hreceived hmade) idle
      | error cause =>
        rw [Inbound.operation?, hmade] at hasked
        cases hasked
    | tab | unknown =>
      cases b with
      | idle => rfl
      | page sessionId settled => simp [apply, Inbound.isCompletion]
      | act id isOpen =>
        by_cases hsame : a.id = id
        · simp [apply, hsame, applyToAct, Inbound.operation?]
        · simp [apply, hsame]

/-- Messages that ask for nothing change nothing. -/
theorem handleAll_of_not_asks {key : Key} {messages : List Json}
    (idle : ∀ raw ∈ messages, ¬ Asks key raw) (now : Moment) (state : Binding × Act) :
    handleAll key now state messages = state := by
  rw [handleAll]
  induction messages with
  | nil => rfl
  | cons raw rest ih =>
    obtain ⟨hidle, hrest⟩ := List.forall_mem_cons.mp idle
    rw [List.foldl_cons, take_of_not_asks hidle]
    exact ih hrest

/-! ## What a message that asks does -/

/-- What an asking message leaves behind stays behind, whatever else comes in. -/
theorem isTouched_handleAll {state : Binding × Act} (touched : state.2.isTouched = true) (key : Key)
    (now : Moment) (messages : List Json) :
    (handleAll key now state messages).2.isTouched = true := by
  refine handleAll_preserves (P := fun a => a.isTouched = true) (fun taken touched => ?_) key messages
    touched
  cases taken with
  | kept => exact touched
  | acknowledged | step | completed => exact Act.isTouched_perform touched _ _

/-- A message that asks for something changes the open act that is bound. -/
theorem isTouched_of_asks {key : Key} {raw : Json} (asks : Asks key raw) {a : Act}
    (isOpen : a.isComplete = false) (now : Moment) :
    (take key now (.act a.id true, a) raw).2.isTouched = true := by
  -- an open act takes the operation that is asked for
  have htaken {inbound : Inbound} {operation : Act.Operation}
      (hreceived : receive key raw = .ok (some inbound))
      (hasked : inbound.operation? now = .ok (some operation)) :
      (take key now (.act a.id true, a) raw).2 = a.perform operation now := by
    have hread : reading? key now raw = some inbound :=
      reading?_eq_some_iff.mpr ⟨hreceived, some operation, hasked⟩
    rw [take_of_reading hread, hasked]
    dsimp only
    rw [Act.apply_of_open isOpen]
  -- each of the three operations leaves its trace in the act
  cases asks with
  | acceptance hreceived =>
    rw [htaken hreceived rfl]
    rfl
  | @completion completion hreceived =>
    rw [htaken hreceived rfl]
    cases completion <;> simp [Act.isTouched, Completion.operation, Act.perform, Act.finish,
      Act.isComplete]
  | @step report _ _ hreceived hmade =>
    obtain ⟨step, hmade⟩ := ofMessage_at hmade now
    have hasked : (Inbound.step report).operation? now = .ok (some (.addStep step)) := by
      rw [Inbound.operation?, hmade]
      rfl
    rw [htaken hreceived hasked]
    simp [Act.isTouched, Act.perform]

/-- Among other messages too. The induction is on the messages before the first that asks. -/
theorem isTouched_of_mem_asks {key : Key} {messages : List Json} {raw : Json}
    (mem : raw ∈ messages) (asks : Asks key raw) {a : Act} (isOpen : a.isComplete = false)
    (now : Moment) : (handleAll key now (.act a.id true, a) messages).2.isTouched = true := by
  induction messages with
  | nil => cases mem
  | cons first rest ih =>
    rw [handleAll, List.foldl_cons]
    by_cases hfirst : Asks key first
    -- the first that asks is taken in by an open act, and the rest undoes nothing
    · exact isTouched_handleAll (isTouched_of_asks hfirst isOpen now) key now rest
    · rw [take_of_not_asks hfirst]
      rcases List.mem_cons.mp mem with rfl | hrest
      · exact absurd asks hfirst
      · exact ih hrest

end Binding

end BrowserAct.Channel
