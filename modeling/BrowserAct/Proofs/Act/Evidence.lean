import BrowserAct.Proofs.Act.Transient

/-!
# What unrecognised failures keep

A payload that says nothing that is known comes to a protocol failure. For the diagnosis such a failure
is to keep what could not be classified: its text, and the id of the failed request, if it names one.

* **`evidence`** is the part of a payload that could not be classified.
* **`Failure.Keeps`** says that a failure keeps a value.
* **`classify_keeps_iff`** says that a protocol failure keeps its evidence unless the service reported a
  code by name, and that it keeps nothing then.
-/

namespace BrowserAct.Act

/-! ## Evidence -/

/-- What a payload could not be classified by: its failure object; where it has none, the text in its
error field, which is no JSON then, or else the payload itself. -/
def evidence (payload : Json) : Json :=
  match failureObject? payload with
  | some object => object
  | none =>
    match payload.get? "error" with
    | some (.string text) => .string text
    | _ => payload

/-- A failure keeps a value: its text as the raw message, and the id of the request in it, if that is a
text that is not empty. -/
structure Failure.Keeps (f : Failure) (value : Json) : Prop where
  raw : f.raw = some value.compress
  requestId : f.requestId = (textField? value "requestId").filter (· != "")

/-- The failure object of a payload is one of the service, with this name as its code. -/
def ReportsByName (payload : Json) (code : String) : Prop :=
  ∃ object, failureObject? payload = some object ∧
    textField? object "type" = some "NovaActService" ∧ object.get? "code" = some (.string code)

theorem evidence_of_object {payload object : Json} (found : failureObject? payload = some object) :
    evidence payload = object := by
  rw [evidence, found]

/-- What is not recognised is kept. -/
theorem unrecognised_keeps (metadata : Metadata) (message : String) (object : Json) :
    (unrecognised metadata message object).Keeps object where
  raw := rfl
  requestId := by
    show (if requestIdOf object = "" then none else some (requestIdOf object)) = _
    rw [requestIdOf]
    cases textField? object "requestId" with
    | none => rfl
    | some id => by_cases hempty : id = "" <;> simp [Option.filter, hempty]

/-! ## Failure objects

What is found to be unrecognised at any place but one comes from `unrecognised`, with the object as its
evidence. -/

variable {object : Json} {metadata : Metadata} {service : Service}

/-- A reason is none of the protocol. -/
theorem reasonFailure?_ne_protocol {details : Json} {failure : Failure}
    (given : reasonFailure? details metadata = some failure) : failure.kind ≠ .protocol := by
  rw [reasonFailure?] at given
  split at given <;> cases given <;> simp

/-- Where a status is not known, the object is kept. -/
theorem classifyStatus_keeps (code : Int) :
    (classifyStatus code object metadata service).kind = .protocol →
      (classifyStatus code object metadata service).Keeps object := by
  rw [classifyStatus]
  dsimp only
  split
  · -- a reason of its own comes with a bad request only
    rename_i failure given
    split at given
    · obtain ⟨details, _, hreason⟩ := Option.bind_eq_some_iff.mp given
      exact fun protocol => absurd protocol (reasonFailure?_ne_protocol hreason)
    · cases given
  -- every other status has a kind of its own, or keeps the object
  · repeat' split
    all_goals first
      | exact fun protocol => absurd protocol (by simp)
      | exact fun _ => unrecognised_keeps metadata _ object

/-- A name that is not known is all that is said of its object. -/
theorem classifyNamedCode_of_protocol {code : String}
    (protocol : (classifyNamedCode code object metadata).kind = .protocol) :
    classifyNamedCode code object metadata =
      (Failure.of .protocol metadata).withMessage ("invalid NovaActService error code: " ++ code) := by
  rw [classifyNamedCode] at protocol ⊢
  repeat' split at protocol
  all_goals simp_all

/-- So does a failure of the service, unless its code is a name. -/
theorem classifyService_keeps (unnamed : ∀ code, object.get? "code" ≠ some (.string code)) :
    (classifyService object metadata service).kind = .protocol →
      (classifyService object metadata service).Keeps object := by
  rw [classifyService]
  split
  · rename_i code given
    exact absurd given (unnamed code)
  · split
    · split
      · exact fun _ => unrecognised_keeps metadata _ object
      · exact classifyStatus_keeps _
    · exact fun _ => unrecognised_keeps metadata _ object
  · exact fun _ => unrecognised_keeps metadata _ object

theorem classifyClient_keeps :
    (classifyClient object metadata).kind = .protocol →
      (classifyClient object metadata).Keeps object := by
  rw [classifyClient]
  split
  case h_4 => exact fun _ => unrecognised_keeps metadata _ object
  all_goals exact fun protocol => absurd protocol (by simp)

/-- And so does any failure object, with the same exception. -/
theorem classifyObject_keeps
    (unnamed : ∀ code, ¬ (textField? object "type" = some "NovaActService" ∧
      object.get? "code" = some (.string code))) :
    (classifyObject object metadata service).kind = .protocol →
      (classifyObject object metadata service).Keeps object := by
  rw [classifyObject]
  split
  · rename_i type htype
    split
    -- only here can a code be a name
    · rename_i hservice
      subst hservice
      exact classifyService_keeps fun code given => unnamed code ⟨htype, given⟩
    · split
      · exact classifyClient_keeps
      · exact fun _ => unrecognised_keeps metadata _ object
  · exact fun _ => unrecognised_keeps metadata _ object

/-! ## Payloads -/

/-- A payload that neither asks to cancel nor was declared by the agent is classified by its failure
object, and is unrecognised without one. -/
theorem classifyCarried_eq (payload : Json) (metadata : Metadata) (service : Service) :
    classifyCarried payload metadata service =
      match failureObject? payload with
      | some object => classifyObject object metadata service
      | none =>
        match payload.get? "error" with
        | some (.string text) =>
          ((Failure.of .protocol metadata).withMessage
            "failed to load error message as json").withRaw (Json.string text).compress
        | _ => unrecognised metadata "missing type in error message" payload := by
  rw [classifyCarried, failureObject?]
  -- the payload is the object, or its error is one or is the text of one
  by_cases itself : isFailureObject payload = true
  · rw [if_pos itself, if_pos ((isFailureObject_iff payload).mp itself)]
  · rw [if_neg itself, if_neg fun types => itself ((isFailureObject_iff payload).mpr types)]
    rcases payload.get? "error" with _ | _ | _ | _ | _ | text | _ | fields
    case some.string => cases read : Json.parse? text <;> simp only [read]
    all_goals rfl

/-- Without a failure object the payload itself is kept, or the text that is no JSON. -/
theorem classifyCarried_keeps_of_no_object {payload : Json} (absent : failureObject? payload = none) :
    (classifyCarried payload metadata service).Keeps (evidence payload) := by
  rw [classifyCarried_eq, evidence, absent]
  dsimp only
  split
  · exact ⟨rfl, rfl⟩
  · exact unrecognised_keeps metadata _ payload

/-- A failure that the service reports by a name that is not known. -/
theorem classifyCarried_of_name {payload : Json} {code : String} (named : ReportsByName payload code)
    (protocol : (classifyCarried payload metadata service).kind = .protocol) :
    classifyCarried payload metadata service =
      (Failure.of .protocol metadata).withMessage ("invalid NovaActService error code: " ++ code) := by
  obtain ⟨object, found, htype, hcode⟩ := named
  have hnamed : classifyCarried payload metadata service = classifyNamedCode code object metadata := by
    rw [classifyCarried_eq, found]
    dsimp only
    rw [classifyObject, htype]
    show classifyService object metadata service = _
    rw [classifyService, hcode]
  rw [hnamed] at protocol ⊢
  exact classifyNamedCode_of_protocol protocol

/-- A protocol failure is found where the failure object is looked at. -/
theorem classify_of_protocol {payload : Json}
    (protocol : (classify payload false metadata service).kind = .protocol) :
    classify payload false metadata service = classifyCarried payload metadata service := by
  rw [classify, if_neg Bool.false_ne_true] at protocol ⊢
  split at protocol
  · simp at protocol
  · rename_i notCanceled
    rw [if_neg notCanceled]
    split at protocol
    · simp at protocol
    · rename_i notAgent
      rw [if_neg notAgent]

/-- **What a protocol failure keeps.** It keeps what could not be classified exactly where the service
did not report its failure by name. A name that is not known is told in the message, and then nothing
is kept, neither the text of the object nor the id of the request. -/
theorem classify_keeps_iff (payload : Json) (metadata : Metadata) (service : Service)
    (protocol : (classify payload false metadata service).kind = .protocol) :
    ((classify payload false metadata service).Keeps (evidence payload) ↔
        ∀ code, ¬ ReportsByName payload code) ∧
      ∀ code, ReportsByName payload code →
        classify payload false metadata service =
          (Failure.of .protocol metadata).withMessage
            ("invalid NovaActService error code: " ++ code) := by
  have hcarried := classify_of_protocol protocol
  rw [hcarried] at protocol ⊢
  have hnamed (code : String) (named : ReportsByName payload code) :=
    classifyCarried_of_name named protocol
  refine ⟨⟨fun keeps code named => ?_, fun unnamed => ?_⟩, hnamed⟩
  · -- what a name comes to has no raw message
    have hraw := keeps.raw
    rw [hnamed code named, Failure.withMessage_raw] at hraw
    cases hraw
  · cases found : failureObject? payload with
    | none => exact classifyCarried_keeps_of_no_object found
    -- without a name every way through the decisions keeps the object
    | some object =>
      rw [classifyCarried_eq, found] at protocol ⊢
      rw [evidence_of_object found]
      exact classifyObject_keeps (fun code named => unnamed code ⟨object, found, named⟩) protocol

namespace Sample

/-- What is known of an act of which nothing is known. -/
def view : Metadata := .ofSession "s"

/-- A failure of a kind that is not known, in the error field of a payload. -/
def mystery : Json :=
  .object
    [("error", .object [("requestId", .string "r-3"), ("type", .string "Mystery")]),
      ("type", .string "error")]

/-- An object of a type that is not known is kept, with its identifier. -/
theorem mystery_kept :
    (classify mystery false view .prod).kind = .protocol ∧
      (classify mystery false view .prod).raw =
        some "\x7b\"requestId\":\"r-3\",\"type\":\"Mystery\"\x7d" ∧
      (classify mystery false view .prod).requestId = some "r-3" := by
  have protocol : (classify mystery false view .prod).kind = .protocol := rfl
  have unnamed (code : String) : ¬ ReportsByName mystery code := by
    rintro ⟨object, found, htype, -⟩
    cases found
    exact absurd htype (by decide)
  have keeps := (classify_keeps_iff mystery view .prod protocol).1.mpr unnamed
  exact ⟨protocol, keeps.raw, keeps.requestId⟩

/-- A failure of the service with a name as its code that is not known. -/
def unknownName : Json :=
  .object
    [("code", .string "SOMETHING_ELSE"), ("requestId", .string "r-1"),
      ("type", .string "NovaActService")]

/-- It is not recognised, and neither its text nor the id of its request is kept. -/
theorem unknownName_lost :
    (classify unknownName false view .prod).kind = .protocol ∧
      evidence unknownName = unknownName ∧
      textField? unknownName "requestId" = some "r-1" ∧
      (classify unknownName false view .prod).raw = none ∧
      (classify unknownName false view .prod).requestId = none :=
  ⟨rfl, rfl, rfl, rfl, rfl⟩

end Sample

end BrowserAct.Act
