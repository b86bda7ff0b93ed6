import BrowserAct.Act.Classify

/-!
# Which failures an act can come to

A time-out, a failure to dispatch and a failure of the client are found on this side. No payload is
classified as one of them, and no act comes to a failure to dispatch it.
-/

namespace BrowserAct.Act

/-- Whether a kind of failure is found on this side, whatever a payload says. -/
def FailureKind.isLocal : FailureKind → Bool
  | .timeout | .dispatch | .client => true
  | _ => false

/-- What is not recognised is a failure of the protocol. -/
theorem unrecognised_kind (metadata : Metadata) (message : String) (object : Json) :
    (unrecognised metadata message object).kind = .protocol := by
  simp [unrecognised]

/-- No code by name makes a failure of this side. -/
theorem classifyNamedCode_kind (code : String) (object : Json) (metadata : Metadata) :
    (classifyNamedCode code object metadata).kind.isLocal = false := by
  rw [classifyNamedCode]
  repeat' split
  all_goals simp [FailureKind.isLocal]

theorem reasonFailure?_kind {details : Json} {metadata : Metadata} {failure : Failure}
    (given : reasonFailure? details metadata = some failure) : failure.kind.isLocal = false := by
  rw [reasonFailure?] at given
  split at given <;> cases given <;> simp [FailureKind.isLocal]

/-- No status does. -/
theorem classifyStatus_kind (code : Int) (object : Json) (metadata : Metadata)
    (service : Service) : (classifyStatus code object metadata service).kind.isLocal = false := by
  rw [classifyStatus]
  dsimp only
  split
  · rename_i failure given
    split at given
    · obtain ⟨details, _, hreason⟩ := Option.bind_eq_some_iff.mp given
      exact reasonFailure?_kind hreason
    · cases given
  · repeat' split
    all_goals simp [unrecognised_kind, FailureKind.isLocal]

theorem classifyService_kind (object : Json) (metadata : Metadata) (service : Service) :
    (classifyService object metadata service).kind.isLocal = false := by
  have hinvalid (message : String) : (unrecognised metadata message object).kind.isLocal = false := by
    rw [unrecognised_kind]
    rfl
  rw [classifyService]
  split
  · exact classifyNamedCode_kind _ object metadata
  · split
    · split
      · exact hinvalid _
      · exact classifyStatus_kind _ object metadata service
    · exact hinvalid _
  · exact hinvalid _

theorem classifyClient_kind (object : Json) (metadata : Metadata) :
    (classifyClient object metadata).kind.isLocal = false := by
  rw [classifyClient]
  split <;> simp [unrecognised_kind, FailureKind.isLocal]

theorem classifyObject_kind (object : Json) (metadata : Metadata) (service : Service) :
    (classifyObject object metadata service).kind.isLocal = false := by
  rw [classifyObject]
  split
  · split
    · exact classifyService_kind object metadata service
    · split
      · exact classifyClient_kind object metadata
      · simp [unrecognised_kind, FailureKind.isLocal]
  · simp [unrecognised_kind, FailureKind.isLocal]

theorem classifyCarried_kind (payload : Json) (metadata : Metadata) (service : Service) :
    (classifyCarried payload metadata service).kind.isLocal = false := by
  -- a payload that is no failure object itself carries one, or is unrecognised
  rw [classifyCarried]
  split
  · exact classifyObject_kind payload metadata service
  split
  · exact classifyObject_kind _ metadata service
  · split
    · exact classifyObject_kind _ metadata service
    · simp [FailureKind.isLocal]
  · simp [unrecognised_kind, FailureKind.isLocal]

/-- Only the time allowed for the act makes a failure one of this side. -/
theorem classify_kind (payload : Json) (metadata : Metadata) (service : Service) :
    (classify payload false metadata service).kind.isLocal = false := by
  rw [classify, if_neg Bool.false_ne_true]
  split
  · simp [FailureKind.isLocal]
  split
  · simp [FailureKind.isLocal]
  · exact classifyCarried_kind payload metadata service

/-- **No act comes to a failure to dispatch it.** -/
theorem outcome_ne_dispatch {a : Act} {service : Service} {failure : Failure}
    (came : a.outcome service = .error failure) : failure.kind ≠ .dispatch := by
  rw [outcome] at came
  split at came
  · cases came
    simp
  · cases came
    split <;> simp
  -- a payload is classified, and no payload makes a failure to dispatch
  · rename_i payload _
    cases came
    cases a.timedOut with
    | true => simp [classify]
    | false =>
      intro dispatched
      have hkind := classify_kind payload a.metadata service
      rw [dispatched] at hkind
      cases hkind
  · cases came

end BrowserAct.Act
