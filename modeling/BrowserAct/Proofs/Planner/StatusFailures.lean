import BrowserAct.Act.Classify
import BrowserAct.Planner.Endpoint
import BrowserAct.Proofs.Json.Readable

/-!
# Failed requests and failed acts

The service tells of a failure by a status and a body. Where a request to the endpoint fails, the body is
cut down to its reason and its fields; where an act fails, the whole body is the message. Either payload is
classified by the status and by two things in the body: the reason, and for too many requests the limit.

* **`statusKind`** is the kind of a failure by its status.
* **`classify_statusPayload`** says that this is how payloads with a status are classified.
* **`serviceFailure_kind_iff`** says when the two payloads are classified alike.
-/

namespace BrowserAct.Act

/-! ## The kind of a status -/

/-- The kind that a reason stands for in the answer to a bad request. -/
def reasonKind? : Option String → Option FailureKind
  | some "AGENT_GUARDRAILS_TRIGGERED" => some .guardrails
  | some "INVALID_INPUT" => some .invalidInput
  | some "MODEL_ERROR" => some .model
  | _ => none

/-- The kind of a failure by its status, the reason and the limit in its details. -/
def statusKind (status : ℤ) (reason : Option String) (throttle : Throttle) : FailureKind :=
  (if status = 400 then reasonKind? reason else none).getD
    (if status = 403 then .auth
    else if status = 429 then .rateLimit throttle
    else if 400 ≤ status ∧ status ≤ 499 then .badRequest
    else if status = 503 then .serviceUnavailable
    else if 500 ≤ status ∧ status ≤ 599 then .internalServer
    else .protocol)

/-- The limit makes a difference for too many requests, and only there. -/
theorem statusKind_eq_iff (status : ℤ) (reason : Option String) (throttle throttle' : Throttle) :
    statusKind status reason throttle = statusKind status reason throttle' ↔
      status ≠ 429 ∨ throttle = throttle' := by
  by_cases limited : status = 429
  · subst limited
    simp [statusKind]
  · simp [statusKind, limited]

/-- What is no status of a failed request says nothing. -/
theorem statusKind_of_large {status : ℤ} (large : 600 ≤ status) (reason : Option String)
    (throttle : Throttle) : statusKind status reason throttle = .protocol := by
  have hnone : ¬ (status = 400 ∨ status = 403 ∨ status = 429 ∨ status = 503 ∨ status ≤ 599) := by
    omega
  simp only [not_or] at hnone
  simp [statusKind, hnone]
  omega

/-- The kind of a reason depends on its name alone. -/
theorem reasonFailure?_map_kind (details : Json) (metadata : Metadata) :
    (reasonFailure? details metadata).map Failure.kind = reasonKind? (textField? details "reason") := by
  rw [reasonFailure?]
  generalize textField? details "reason" = reason
  rw [reasonKind?.eq_def]
  split <;> simp

/-- **What a status is classified by.** -/
theorem classifyStatus_kind_eq (status : ℤ) (object : Json) (metadata : Metadata) (service : Service) :
    (classifyStatus status object metadata service).kind =
      statusKind status ((embeddedObject? (object.get? "message")).bind (textField? · "reason"))
        (throttleOf (embeddedObject? (object.get? "message"))) := by
  generalize hdetails : embeddedObject? (object.get? "message") = details
  -- the reason counts for a bad request only, on both sides
  have hreason : (if status = 400 then reasonKind? (details.bind (textField? · "reason")) else none) =
      (if status = 400 then details.bind (reasonFailure? · metadata) else none).map Failure.kind := by
    split
    · cases details with
      | none => rfl
      | some details => exact (reasonFailure?_map_kind details metadata).symm
    · rfl
  rw [classifyStatus, statusKind, hreason, hdetails]
  dsimp only
  generalize (if status = 400 then details.bind (reasonFailure? · metadata) else none) = reason?
  cases reason? with
  | some failure => rfl
  | none =>
    rw [Option.map_none, Option.getD_none]
    dsimp only
    repeat' split
    all_goals simp [unrecognised]

/-- A code that is a number is a status, unless it has more than 64 bits. -/
theorem classifyService_kind_eq {status : ℤ} {object : Json}
    (code : object.get? "code" = some (.integer status)) (nonnegative : 0 ≤ status)
    (metadata : Metadata) (service : Service) :
    (classifyService object metadata service).kind =
      statusKind status ((embeddedObject? (object.get? "message")).bind (textField? · "reason"))
        (throttleOf (embeddedObject? (object.get? "message"))) := by
  rw [classifyService, code]
  dsimp only
  rw [Json.asInt64?]
  -- a status beyond 64 bits is not recognised, as are all above the range of the server
  by_cases fits : -0x8000_0000_0000_0000 ≤ status ∧ status < 0x8000_0000_0000_0000
  · have hstatus : status ≠ -1 := by omega
    rw [if_pos fits]
    dsimp only
    rw [if_neg hstatus, classifyStatus_kind_eq]
  · have hlarge : 600 ≤ status := by omega
    rw [if_neg fits, statusKind_of_large hlarge]
    simp [unrecognised]

/-! ## Payloads with a status -/

/-- The payload of a failure with a status and a message. -/
def statusPayload (status : ℕ) (message : String) : Json :=
  .ofFields
    [("type", .string Payload.serviceType), ("code", .integer status), ("message", .string message)]

section

variable (status : ℕ) (message : String)

@[simp] theorem statusPayload_type :
    textField? (statusPayload status message) "type" = some Payload.serviceType := by
  rw [textField?, statusPayload, Json.get?_ofFields_cons _ (by simp)]
  rfl

@[simp] theorem statusPayload_code :
    (statusPayload status message).get? "code" = some (.integer status) :=
  Json.get?_ofFields_append [("type", .string Payload.serviceType)] _ (by simp)

@[simp] theorem statusPayload_message :
    (statusPayload status message).get? "message" = some (.string message) :=
  Json.get?_ofFields_append
    [("type", .string Payload.serviceType), ("code", .integer status)] _ (by simp)

/-- No other key is set. -/
theorem statusPayload_other {key : String} (other : key ∉ ["type", "code", "message"]) :
    (statusPayload status message).get? key = none :=
  Json.get?_foldl_insert_of_not_mem other []

/-- What the message of a payload says. -/
def detailsOf (message : String) : Option Json :=
  embeddedObject? (some (.string message))

/-- **How payloads with a status are classified.** -/
theorem classify_statusPayload (timedOut : Bool) (metadata : Metadata) (service : Service) :
    (classify (statusPayload status message) timedOut metadata service).kind =
      if timedOut then .timeout
      else statusKind status ((detailsOf message).bind (textField? · "reason"))
        (throttleOf (detailsOf message)) := by
  -- it has neither an error nor a code of the agent, so it is classified by its status
  have herror : textField? (statusPayload status message) "error" = none := by
    rw [textField?, statusPayload_other _ _ (by decide)]
    rfl
  have hcode : textField? (statusPayload status message) "subErrorCode" = none := by
    rw [textField?, statusPayload_other _ _ (by decide)]
    rfl
  have hcancel : isCancellation (statusPayload status message) = false := by
    rw [isCancellation, herror, statusPayload_type]
    decide
  have hobject : isFailureObject (statusPayload status message) = true := by
    rw [isFailureObject, statusPayload_type]
    decide
  rw [classify]
  split
  · rfl
  rw [if_neg (by simp [hcancel]), if_neg (by simp [hcode]), classifyCarried, if_pos hobject,
    classifyObject, statusPayload_type]
  dsimp only
  rw [if_pos rfl, classifyService_kind_eq (statusPayload_code status message)
    (Int.natCast_nonneg status), statusPayload_message, detailsOf]

end

/-! ## The details of a message -/

/-- The message that is the text of an object says what the object said. -/
theorem exists_detailsOf {value : Json} (isObject : value.isObject = true)
    (readable : Json.Readable Json.nestingLimit value) :
    ∃ details, detailsOf value.compress = some details ∧ Json.SameTexts value details := by
  cases value with
  | object fields =>
    obtain ⟨found, hfound, isObject, hsame⟩ := readable.exists_object
    refine ⟨found, ?_, hsame⟩
    rw [detailsOf, embeddedObject?, Json.parse?_compress, hfound]
    cases found with
    | object fields => rfl
    | _ => cases isObject
  | _ => cases isObject

/-- And the text of anything else says nothing. -/
theorem detailsOf_of_not_object {value : Json} (other : value.isObject = false) :
    detailsOf value.compress = none := by
  rw [detailsOf, embeddedObject?, Json.parse?_compress]
  cases hfound : value.readBack? Json.nestingLimit with
  | none => rfl
  | some found =>
    have hother := (Json.shape_of_readBack hfound).1.trans other
    cases found with
    | object fields => cases hother
    | _ => rfl

/-- Values with the same texts have the same fields of text. -/
theorem textField?_of_sameTexts {value again : Json} (same : Json.SameTexts value again)
    (key : String) : textField? again key = textField? value key := by
  have hkey := same key
  rw [textField?, textField?]
  generalize value.get? key = v, again.get? key = w at hkey
  cases hkey with
  | none => rfl
  | some texts => exact texts

theorem throttleOf_of_sameTexts {value again : Json} (same : Json.SameTexts value again) :
    throttleOf (some again) = throttleOf (some value) := by
  have hthrottle := same "throttleType"
  have hreason := textField?_of_sameTexts same "reason"
  rw [throttleOf, throttleOf, Option.bind_some, Option.bind_some]
  generalize value.get? "throttleType" = v, again.get? "throttleType" = w at hthrottle
  cases hthrottle with
  | none => exact congrArg Throttle.ofName hreason
  | some texts => exact congrArg Throttle.ofName texts

/-- Where no throttle type is named, the limit is that of the reason. -/
theorem throttleOf_of_reason {details : Json} (none : details.get? "throttleType" = none) :
    throttleOf (some details) = .ofName (textField? details "reason") := by
  rw [throttleOf, Option.bind_some, none, Option.none_or]
  rfl

end BrowserAct.Act

namespace BrowserAct.Planner.Endpoint

open Act

/-! ## Failed requests -/

/-- What is left of the body of a failed request. -/
def cutDown (body : Json) : Json :=
  .ofFields [("reason", body.field "reason"), ("message", body.field "fields")]

/-- What a failed step comes with is the payload of its status, with a body that was cut down. -/
theorem serviceFailure_eq (status : ℕ) (body : Json) :
    serviceFailure status body = statusPayload status (cutDown body).compress := rfl

theorem cutDown_reason (body : Json) : textField? (cutDown body) "reason" = textField? body "reason" := by
  rw [textField?, cutDown, Json.get?_ofFields_cons _ (by simp), textField?, Json.field]
  cases body.get? "reason" <;> rfl

/-- The throttle type is not carried over. -/
theorem cutDown_throttleType (body : Json) : (cutDown body).get? "throttleType" = none :=
  Json.get?_foldl_insert_of_not_mem (by simp) []

/-- What is kept can be read where the body can. -/
theorem cutDown_readable {body : Json} (readable : Json.Readable Json.nestingLimit body) :
    Json.Readable Json.nestingLimit (cutDown body) := by
  -- the message is one level, and so was the body around its fields
  have hbody : Json.Readable (126 + 1) body := readable
  have hmessage : Json.Readable (126 + 1) (cutDown body) := by
    refine Json.readable_ofFields ?_
    simp only [List.forall_mem_cons]
    exact ⟨hbody.field "reason", hbody.field "fields", by simp⟩
  exact hmessage

variable {body : Json} (readable : Json.Readable Json.nestingLimit body) (status : ℕ) (timedOut : Bool)
  (metadata : Metadata) (service : Service)
include readable

/-- **A failed request** is classified by the reason alone. -/
theorem serviceFailure_kind :
    (classify (serviceFailure status body) timedOut metadata service).kind =
      if timedOut then .timeout
      else statusKind status (textField? body "reason") (.ofName (textField? body "reason")) := by
  obtain ⟨details, hdetails, hsame⟩ := exists_detailsOf rfl (cutDown_readable readable)
  have hreason := (textField?_of_sameTexts hsame "reason").trans (cutDown_reason body)
  have hthrottle : throttleOf (some details) = .ofName (textField? body "reason") := by
    rw [throttleOf_of_sameTexts hsame, throttleOf_of_reason (cutDown_throttleType body),
      cutDown_reason]
  rw [serviceFailure_eq, classify_statusPayload, hdetails, hthrottle, Option.bind_some, hreason]

/-- **A failed act** with the same body is classified by the reason and by the limit. -/
theorem statusPayload_kind :
    (classify (statusPayload status body.compress) timedOut metadata service).kind =
      if timedOut then .timeout
      else statusKind status (textField? body "reason") (throttleOf (some body)) := by
  rw [classify_statusPayload]
  cases body with
  | object fields =>
    obtain ⟨details, hdetails, hsame⟩ := exists_detailsOf rfl readable
    rw [hdetails, throttleOf_of_sameTexts hsame, Option.bind_some, textField?_of_sameTexts hsame]
  | _ =>
    rw [detailsOf_of_not_object rfl]
    rfl

omit readable

/-- **The same failure of a request and of an act**, whatever text the body was: both are classified alike,
except that of too many requests the request tells no limit but the one that the reason names. -/
theorem serviceFailure_kind_iff (text : String) :
    let body := (Json.parse? text).getD .null
    (classify (serviceFailure status body) timedOut metadata service).kind =
        (classify (statusPayload status body.compress) timedOut metadata service).kind ↔
      timedOut = true ∨ status ≠ 429 ∨
        Throttle.ofName (textField? body "reason") = throttleOf (some body) := by
  intro body
  -- a body that cannot be read counts as null, and null can be read
  have hreadable : Json.Readable Json.nestingLimit body := by
    cases hparsed : Json.parse? text with
    | none =>
      rw [show body = .null from congrArg (Option.getD · .null) hparsed]
      exact ⟨⟨.null, rfl⟩, by simp⟩
    | some value =>
      rw [show body = value from congrArg (Option.getD · .null) hparsed]
      exact Json.readable_of_parseWithin hparsed
  rw [serviceFailure_kind hreadable, statusPayload_kind hreadable]
  cases timedOut with
  | true => simp
  | false =>
    have hstatus : (status : ℤ) ≠ 429 ↔ status ≠ 429 := by omega
    rw [if_neg Bool.false_ne_true, if_neg Bool.false_ne_true, statusKind_eq_iff, hstatus]
    simp

/-- A limit that passes soon is told by the act, which may be tried again, and not by the request. -/
theorem serviceFailure_throttleType :
    let body := (Json.parse? "\x7b\"throttleType\":\"RATE_LIMIT_EXCEEDED\"\x7d").getD .null
    let ofRequest := classify (serviceFailure 429 body) false (.ofSession "s") .prod
    let ofAct := classify (statusPayload 429 body.compress) false (.ofSession "s") .prod
    ofRequest.kind ≠ ofAct.kind ∧ ofRequest.isRetryable = false ∧ ofAct.isRetryable = true := by
  decide +kernel

end BrowserAct.Planner.Endpoint
