import BrowserAct.Proofs.Act.About
import BrowserAct.Proofs.Act.LifeCycle
import BrowserAct.Proofs.Act.Outcome

/-!
# What an act comes to

An act comes to a result exactly if it succeeded. Else it comes to a failure, and three kinds of failure
are told by the act alone: it is still open, it ran out of time, or it was canceled. Only for an act that
failed in time the payload is asked. Every outcome carries the view of its own act.

* **`Outcome.metadata`** and **`Outcome.failureKind?`** are what is looked at in an outcome.
* **`outcome_replay`** says what any history of operations makes an act come to.
-/

namespace BrowserAct.Act

/-! ## Views of an outcome -/

namespace Outcome

/-- The view of the act that an outcome carries. -/
def metadata : Outcome → Metadata
  | .ok result => result.metadata
  | .error failure => failure.metadata

def failureKind? : Outcome → Option FailureKind
  | .ok _ => none
  | .error failure => some failure.kind

end Outcome

/-! ## Outcomes of acts -/

variable (a : Act) (service : Service)

/-- A failure is about the act that it was classified for, whatever its payload says. -/
theorem classify_metadata (payload : Json) (timedOut : Bool) (metadata : Metadata) :
    (classify payload timedOut metadata service).metadata = metadata :=
  (congrArg Failure.metadata (classify_about payload metadata metadata service timedOut)).symm

/-- An outcome is about its act. -/
theorem outcome_metadata : (a.outcome service).metadata = a.metadata := by
  rw [outcome]
  split
  · exact Failure.withMessage_metadata _ _
  · rfl
  · exact classify_metadata service _ _ _
  · rfl

/-- A result comes of a success, and of nothing else. -/
theorem outcome_eq_ok_iff (result : Result) :
    a.outcome service = .ok result ↔
      ∃ response, a.result = some (.succeeded response) ∧
        result = .of (some response) a.metadata := by
  rw [outcome]
  cases a.result with
  | none => simp
  | some ending =>
    cases ending with
    | canceled | failed => simp
    | succeeded response =>
      constructor
      · intro same
        cases same
        exact ⟨response, rfl, rfl⟩
      · rintro ⟨_, same, rfl⟩
        cases same
        rfl

/-- What a payload is classified as is no failure of this side, if the act was in time. -/
theorem classify_kind_ne {kind : FailureKind} (here : kind.isLocal = true) (payload : Json)
    (metadata : Metadata) : (classify payload false metadata service).kind ≠ kind := by
  intro same
  have hforeign := classify_kind payload metadata service
  rw [same, here] at hforeign
  cases hforeign

/-- The failures of this side are told by the act alone: that it is still open, or that it ended out of
time. -/
theorem outcome_local_iff {kind : FailureKind} (here : kind.isLocal = true) :
    (a.outcome service).failureKind? = some kind ↔
      kind = .client ∧ a.isComplete = false ∨
        kind = .timeout ∧ a.timedOut = true ∧
          (a.result = some .canceled ∨ ∃ payload, a.result = some (.failed payload)) := by
  rw [outcome, isComplete]
  -- by the ending of the act: none, canceled, failed, succeeded
  split <;> rename_i ended
  · simpa [Outcome.failureKind?, ended] using eq_comm
  · cases late : a.timedOut with
    | false =>
      have hcanceled : FailureKind.canceled ≠ kind := fun same => by subst same; cases here
      simp [Outcome.failureKind?, ended, hcanceled]
    | true => simpa [Outcome.failureKind?, ended] using eq_comm
  · rename_i payload
    cases late : a.timedOut with
    | false => simp [Outcome.failureKind?, ended, classify_kind_ne service here payload a.metadata]
    | true => simpa [Outcome.failureKind?, ended, classify] using eq_comm
  · simp [Outcome.failureKind?, ended]

/-- A time-out is an act that was marked and then canceled or failed. -/
theorem outcome_timeout_iff :
    (a.outcome service).failureKind? = some .timeout ↔
      a.timedOut = true ∧
        (a.result = some .canceled ∨ ∃ payload, a.result = some (.failed payload)) := by
  have hlocal := outcome_local_iff a service (rfl : FailureKind.timeout.isLocal = true)
  simpa using hlocal

/-- An open act has a failure of the client. -/
theorem outcome_client_iff :
    (a.outcome service).failureKind? = some .client ↔ a.isComplete = false := by
  have hlocal := outcome_local_iff a service (rfl : FailureKind.client.isLocal = true)
  simpa using hlocal

theorem outcome_canceled (canceled : a.result = some .canceled) (inTime : a.timedOut = false) :
    a.outcome service = .error (Failure.of .canceled a.metadata) := by
  rw [outcome, canceled]
  dsimp only
  rw [inTime, if_neg Bool.false_ne_true]

/-! ## Acts with a history -/

/-- **What an act comes to.** After any history of operations on a new act, the result it has and whether
it was marked as out of time are told by the history up to its first ending. By these two alone:

* it comes to a result exactly if it succeeded, which holds the response and nothing of a form, also if
  it was marked;
* it comes to a time-out exactly if it was canceled or failed and was marked, whatever the payload says;
* it comes to a failure of the client exactly as long as it is open;
* it comes to a cancellation if it was canceled and not marked.

All outcomes carry the view of the act. -/
theorem outcome_replay (id : String) (request : Request) (start : Moment) (history : History)
    (service : Service) :
    let a := (new id request start).replay history
    a.result = history.ending?.map (·.1) ∧
      a.timedOut = history.counted.any (·.1.isMarkTimedOut) ∧
      (a.outcome service).metadata = a.metadata ∧
      (∀ result, a.outcome service = .ok result ↔
        ∃ response, a.result = some (.succeeded response) ∧
          result = ⟨a.metadata, some response, none, none, none⟩) ∧
      ((a.outcome service).failureKind? = some .timeout ↔
        a.timedOut = true ∧
          (a.result = some .canceled ∨ ∃ payload, a.result = some (.failed payload))) ∧
      ((a.outcome service).failureKind? = some .client ↔ a.isComplete = false) ∧
      (a.result = some .canceled → a.timedOut = false →
        (a.outcome service).failureKind? = some .canceled) := by
  intro a
  -- the act is what its history makes of it, and the rest is about any act
  have hreplay : a = ofHistory id request start history := replay_new id request start history
  refine ⟨by rw [hreplay]; rfl, by rw [hreplay]; rfl, outcome_metadata a service,
    outcome_eq_ok_iff a service, outcome_timeout_iff a service, outcome_client_iff a service,
    fun canceled inTime => ?_⟩
  rw [outcome_canceled a service canceled inTime]
  rfl

end BrowserAct.Act
