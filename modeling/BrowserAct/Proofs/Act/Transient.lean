import BrowserAct.Proofs.Act.Outcome

/-!
# Failures that may pass

The same act may succeed when it is tried again if the service failed on its own side or was asked too
often for a short time. Which payloads say so is stated here without going through the classification.

* **`failureObject?`** is the failure object of a payload.
* **`PassingCode`** says which codes of a failure object tell of a failure that may pass, and
  **`Transient`** which payloads do.
* **`classify_isRetryable_iff`** says that a payload is classified as one to retry exactly if it is
  transient and the act did not run out of time.
-/

namespace BrowserAct.Act

/-! ## What a payload says -/

/-- A value that is an object, or the JSON text of one. -/
def Holds (value : Json) (fields : Json.Fields) : Prop :=
  value = .object fields ∨ ∃ text, value = .string text ∧ Json.parse? text = some (.object fields)

/-- The failure object of a payload: the payload itself, if its type is one of the two that failures
have; else the object in its `error` field, or the value whose JSON text stands there. -/
def failureObject? (payload : Json) : Option Json :=
  if textField? payload "type" = some "NovaActService" ∨
      textField? payload "type" = some "NovaActClient" then some payload
  else
    match payload.get? "error" with
    | some (.object fields) => some (.object fields)
    | some (.string text) => Json.parse? text
    | _ => none

/-- The details of a refusal name the limit that passes soon: as the throttle type, or as the reason
where there is no throttle type. -/
def NamesShortLimit (details : Json.Fields) : Prop :=
  details.get? "throttleType" = some (.string "RATE_LIMIT_EXCEEDED") ∨
    details.get? "throttleType" = none ∧ details.get? "reason" = some (.string "RATE_LIMIT_EXCEEDED")

/-- The codes of a failure object of the service that tell of a failure that may pass. -/
inductive PassingCode (object : Json) : Json → Prop
  | internal : PassingCode object (.string "INTERNAL_ERROR")
  | tooMany : PassingCode object (.string "TOO_MANY_REQUESTS")
  | server {status : Int} (least : 500 ≤ status) (most : status ≤ 599) :
      PassingCode object (.integer status)
  | throttled {message : Json} {details : Json.Fields} (given : object.get? "message" = some message)
      (holds : Holds message details) (limit : NamesShortLimit details) :
      PassingCode object (.integer 429)

/-- A failure object of the service with a code that passes. -/
def PassingObject (object : Json) : Prop :=
  textField? object "type" = some "NovaActService" ∧
    ∃ code, object.get? "code" = some code ∧ PassingCode object code

/-- A payload that asks to cancel. -/
def Canceled (payload : Json) : Prop :=
  textField? payload "error" = some "Canceled." ∨ textField? payload "type" = some "canceled"

/-- A payload that tells of a failure that may pass. -/
structure Transient (payload : Json) : Prop where
  not_canceled : ¬ Canceled payload
  not_agent : textField? payload "subErrorCode" ≠ some "AGENT_ERROR"
  passes : ∃ object, failureObject? payload = some object ∧ PassingObject object

/-! ## Details of a refusal -/

/-- What stands in a field is an object or nothing. -/
theorem embeddedObject?_eq_some_iff {value? : Option Json} {object : Json} :
    embeddedObject? value? = some object ↔
      ∃ value fields, value? = some value ∧ Holds value fields ∧ object = .object fields := by
  constructor
  · intro found
    rw [embeddedObject?.eq_def] at found
    split at found
    · rename_i fields
      cases found
      exact ⟨_, fields, rfl, .inl rfl, rfl⟩
    · rename_i text
      -- a text counts only where it is the text of an object
      split at found
      · rename_i fields hread
        cases found
        exact ⟨_, fields, rfl, .inr ⟨text, rfl, hread⟩, rfl⟩
      · cases found
    · cases found
  · rintro ⟨value, fields, rfl, rfl | ⟨text, rfl, hread⟩, rfl⟩
    · rfl
    · rw [embeddedObject?, hread]

/-- One name alone stands for the short window. -/
theorem ofName_eq_shortWindow_iff {name? : Option String} :
    Throttle.ofName name? = .shortWindow ↔ name? = some "RATE_LIMIT_EXCEEDED" := by
  rw [Throttle.ofName.eq_def]
  split <;> simp_all

/-- The throttle type comes before the reason, also where it is no text. -/
theorem throttleOf_object_iff {details : Json.Fields} :
    throttleOf (some (.object details)) = .shortWindow ↔ NamesShortLimit details := by
  have hget (key : String) : (Json.object details).get? key = details.get? key := rfl
  have htext (value : Json) :
      value.asString? = some "RATE_LIMIT_EXCEEDED" ↔ value = .string "RATE_LIMIT_EXCEEDED" := by
    cases value <;> simp [Json.asString?]
  rw [throttleOf, ofName_eq_shortWindow_iff, Option.bind_some, hget, hget, NamesShortLimit]
  cases details.get? "throttleType" with
  | none => cases details.get? "reason" <;> simp [htext]
  | some value => simp [htext]

/-- A short limit is named in the details, which may be written as text. -/
theorem throttleOf_embedded_iff {value? : Option Json} :
    throttleOf (embeddedObject? value?) = .shortWindow ↔
      ∃ value details, value? = some value ∧ Holds value details ∧ NamesShortLimit details := by
  constructor
  · intro short
    cases hembedded : embeddedObject? value? with
    | none =>
      rw [hembedded] at short
      cases short
    | some object =>
      obtain ⟨value, details, hvalue, hholds, rfl⟩ := embeddedObject?_eq_some_iff.mp hembedded
      rw [hembedded, throttleOf_object_iff] at short
      exact ⟨value, details, hvalue, hholds, short⟩
  · rintro ⟨value, details, hvalue, hholds, limit⟩
    rw [embeddedObject?_eq_some_iff.mpr ⟨value, details, hvalue, hholds, rfl⟩]
    exact throttleOf_object_iff.mpr limit

/-! ## Along the classification -/

/-- What is not recognised is not worth a retry. -/
theorem unrecognised_not_retryable (metadata : Metadata) (message : String) (object : Json) :
    (unrecognised metadata message object).isRetryable = false := by
  rw [Failure.isRetryable, unrecognised_kind]
  rfl

/-- Two names of codes are. -/
theorem classifyNamedCode_isRetryable_iff (code : String) (object : Json) (metadata : Metadata) :
    (classifyNamedCode code object metadata).isRetryable = true ↔
      code = "INTERNAL_ERROR" ∨ code = "TOO_MANY_REQUESTS" := by
  rw [classifyNamedCode]
  repeat' split
  all_goals simp_all [Failure.isRetryable, FailureKind.isRetryable]

theorem reasonFailure?_not_retryable {details : Json} {metadata : Metadata} {failure : Failure}
    (given : reasonFailure? details metadata = some failure) : failure.isRetryable = false := by
  rw [reasonFailure?] at given
  split at given <;> cases given <;> simp [Failure.isRetryable, FailureKind.isRetryable]

theorem isRetryable_rateLimit {throttle : Throttle} :
    (FailureKind.rateLimit throttle).isRetryable = true ↔ throttle = .shortWindow := by
  cases throttle <;> simp [FailureKind.isRetryable]

theorem classifyStatus_isRetryable_iff (code : Int) (object : Json) (metadata : Metadata)
    (service : Service) :
    (classifyStatus code object metadata service).isRetryable = true ↔
      500 ≤ code ∧ code ≤ 599 ∨
        code = 429 ∧ throttleOf (embeddedObject? (object.get? "message")) = .shortWindow := by
  rw [classifyStatus]
  dsimp only
  split
  · -- a reason of its own comes with a bad request only
    rename_i failure given
    split at given
    · rename_i hcode
      obtain ⟨details, _, hreason⟩ := Option.bind_eq_some_iff.mp given
      simp [reasonFailure?_not_retryable hreason, hcode]
    · cases given
  -- then the ranges in their order: denied, limited, malformed, and those of the server
  · split
    · simp_all [Failure.isRetryable, FailureKind.isRetryable]
    split
    · simp_all [Failure.isRetryable, isRetryable_rateLimit]
    split
    · have hbelow : ¬ (500 ≤ code ∧ code ≤ 599) := by omega
      simp_all [Failure.isRetryable, FailureKind.isRetryable]
    split
    · simp_all [Failure.isRetryable, FailureKind.isRetryable]
    split
    · simp_all [Failure.isRetryable, FailureKind.isRetryable]
    · simp_all [unrecognised_not_retryable]

/-- The codes that pass, by name. -/
theorem passingCode_string_iff {object : Json} {code : String} :
    PassingCode object (.string code) ↔ code = "INTERNAL_ERROR" ∨ code = "TOO_MANY_REQUESTS" := by
  constructor
  · rintro (_ | _) <;> simp
  · rintro (rfl | rfl)
    · exact .internal
    · exact .tooMany

theorem passingCode_integer_iff {object : Json} {status : Int} :
    PassingCode object (.integer status) ↔
      500 ≤ status ∧ status ≤ 599 ∨
        status = 429 ∧ throttleOf (embeddedObject? (object.get? "message")) = .shortWindow := by
  rw [throttleOf_embedded_iff]
  constructor
  · rintro (_ | _ | ⟨least, most⟩ | ⟨given, holds, limit⟩)
    · exact .inl ⟨least, most⟩
    · exact .inr ⟨rfl, _, _, given, holds, limit⟩
  · rintro (⟨least, most⟩ | ⟨rfl, _, _, given, holds, limit⟩)
    · exact .server least most
    · exact .throttled given holds limit

/-- Codes are texts and integers. -/
theorem not_passingCode {object code : Json} (noText : ∀ text, code ≠ .string text)
    (noInteger : ∀ status, code ≠ .integer status) : ¬ PassingCode object code := by
  rintro (_ | _ | _ | _)
  · exact noText _ rfl
  · exact noText _ rfl
  · exact noInteger _ rfl
  · exact noInteger _ rfl

/-- A failure of the service is retried exactly where its code passes. -/
theorem classifyService_isRetryable_iff (object : Json) (metadata : Metadata) (service : Service) :
    (classifyService object metadata service).isRetryable = true ↔
      ∃ code, object.get? "code" = some code ∧ PassingCode object code := by
  have hinvalid {code : Json} (none : ¬ PassingCode object code) :
      (unrecognised metadata "invalid error code in Server Response" object).isRetryable = true ↔
        PassingCode object code := by
    simp [unrecognised_not_retryable, none]
  rw [classifyService]
  cases hcode : object.get? "code" with
  | none => simp [unrecognised_not_retryable]
  | some code =>
    have hsame : (∃ given, some code = some given ∧ PassingCode object given) ↔
        PassingCode object code := by simp
    rw [hsame]
    cases code with
    | string text =>
      rw [passingCode_string_iff]
      exact classifyNamedCode_isRetryable_iff text object metadata
    | integer status =>
      have hpasses : PassingCode object (.integer status) ↔ _ := passingCode_integer_iff
      dsimp only [Json.asInt64?]
      split
      · rename_i hread
        split at hread <;> cases hread
        split
        · rename_i hminus
          subst hminus
          exact hinvalid (by rw [hpasses]; omega)
        · rw [hpasses]
          exact classifyStatus_isRetryable_iff _ object metadata service
      · -- an integer beyond 64 bits is no status
        rename_i hread
        split at hread
        · cases hread
        · exact hinvalid (by rw [hpasses]; omega)
    | null | bool | float | array | object =>
      exact hinvalid (not_passingCode (by simp) (by simp))

/-- A failure of the client never is. -/
theorem classifyClient_not_retryable (object : Json) (metadata : Metadata) :
    (classifyClient object metadata).isRetryable = false := by
  rw [classifyClient]
  split <;> simp [Failure.isRetryable, FailureKind.isRetryable, unrecognised_kind]

/-- So a failure object is retried where it is of the service and its code passes. -/
theorem classifyObject_isRetryable_iff (object : Json) (metadata : Metadata) (service : Service) :
    (classifyObject object metadata service).isRetryable = true ↔ PassingObject object := by
  rw [classifyObject, PassingObject]
  cases htype : textField? object "type" with
  | none => simp [unrecognised_not_retryable]
  | some type =>
    dsimp only
    split
    · rename_i hservice
      rw [classifyService_isRetryable_iff, hservice]
      simp [Payload.serviceType]
    · rename_i hother
      have hother : ¬ type = "NovaActService" := hother
      split <;> simp [hother, classifyClient_not_retryable, unrecognised_not_retryable]

/-- There are two types of failure objects. -/
theorem isFailureObject_iff (payload : Json) :
    isFailureObject payload = true ↔ textField? payload "type" = some "NovaActService" ∨
      textField? payload "type" = some "NovaActClient" := by
  simp [isFailureObject, Payload.serviceType, Payload.clientType]

/-- The object may be the payload itself or be carried in it. -/
theorem classifyCarried_isRetryable_iff (payload : Json) (metadata : Metadata)
    (service : Service) :
    (classifyCarried payload metadata service).isRetryable = true ↔
      ∃ object, failureObject? payload = some object ∧ PassingObject object := by
  rw [classifyCarried, failureObject?]
  -- the payload is looked at first; what it carries counts only if it is no failure object
  by_cases itself : isFailureObject payload = true
  · rw [if_pos itself, if_pos ((isFailureObject_iff payload).mp itself)]
    simp [classifyObject_isRetryable_iff]
  · rw [if_neg itself, if_neg fun types => itself ((isFailureObject_iff payload).mpr types)]
    rcases herror : payload.get? "error" with
      _ | _ | _ | _ | _ | text | _ | fields
    case some.string =>
      dsimp only
      cases Json.parse? text with
      | none => simp [Failure.isRetryable, FailureKind.isRetryable]
      | some object => simp [classifyObject_isRetryable_iff]
    case some.object => simp [classifyObject_isRetryable_iff]
    all_goals simp [unrecognised_not_retryable]

/-- The test for a cancellation is the one that was described. -/
theorem isCancellation_iff (payload : Json) : isCancellation payload = true ↔ Canceled payload := by
  simp [isCancellation, Canceled, Payload.canceledText]

/-- **A payload is classified as a failure to retry exactly if it is transient** and the act did not
run out of time. A time-out comes before all payloads, and no payload is a failure of this side. -/
theorem classify_isRetryable_iff (payload : Json) (metadata : Metadata) (service : Service) :
    ((classify payload false metadata service).isRetryable = true ↔ Transient payload) ∧
      (classify payload true metadata service).isRetryable = false ∧
      (classify payload true metadata service).kind = .timeout ∧
      (classify payload false metadata service).kind ≠ .timeout ∧
      (classify payload false metadata service).kind ≠ .dispatch ∧
      (classify payload false metadata service).kind ≠ .client := by
  have hkind := classify_kind payload metadata service
  -- three kinds are never made of a payload
  have hforeign {kind : FailureKind} (here : kind.isLocal = true) :
      (classify payload false metadata service).kind ≠ kind := by
    intro same
    rw [same, here] at hkind
    cases hkind
  refine ⟨?_, rfl, rfl, hforeign rfl, hforeign rfl, hforeign rfl⟩
  rw [classify, if_neg Bool.false_ne_true]
  split
  -- a cancellation and an error of the agent are recognised before the object is looked at
  · rename_i hcanceled
    have hnot : ¬ Transient payload := fun h => h.not_canceled ((isCancellation_iff payload).mp hcanceled)
    simp [Failure.isRetryable, FailureKind.isRetryable, hnot]
  rename_i hcanceled
  split
  · rename_i hagent
    have hnot : ¬ Transient payload := fun h => h.not_agent (beq_iff_eq.mp hagent)
    simp [Failure.isRetryable, FailureKind.isRetryable, hnot]
  rename_i hagent
  rw [classifyCarried_isRetryable_iff]
  constructor
  · intro passes
    exact ⟨fun h => hcanceled ((isCancellation_iff payload).mpr h), fun h => hagent (beq_iff_eq.mpr h),
      passes⟩
  · exact Transient.passes

end BrowserAct.Act
