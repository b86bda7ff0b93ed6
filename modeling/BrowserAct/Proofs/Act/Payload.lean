import BrowserAct.Act.Classify

/-!
# Payloads built on this side

A failure of this side is written as a payload and classified like one that came in. For the payloads of
clients this gives back what was written, whatever their text. The text of a failure that the agent
declared stands in the field in which cancellations are told, and is taken for one if it is their text.

* **`classify_client`** and **`classify_agent`** say what the payloads are classified as.
-/

namespace BrowserAct.Act

namespace Payload

/-! ## The fields of a payload -/

section

variable (code : ClientCode) (message : Option String)

/-- The fields of a payload of the client; the message is left out if there is none. -/
theorem client_eq : client code message =
    .ofFields ([("type", .string clientType), ("code", .string code.name)] ++
      (message.map fun text => ("message", Json.string text)).toList) := by
  cases message <;> rfl

@[simp] theorem client_type : textField? (client code message) "type" = some clientType := by
  rw [textField?, client_eq, List.cons_append, Json.get?_ofFields_cons _ (by cases message <;> simp)]
  rfl

@[simp] theorem client_code : textField? (client code message) "code" = some code.name := by
  have hcode : (client code message).get? "code" = some (.string code.name) := by
    rw [client_eq]
    exact Json.get?_ofFields_append [("type", .string clientType)] _ (by cases message <;> simp)
  rw [textField?, hcode]
  rfl

/-- No other key is set. -/
theorem client_other {key : String} (other : key ∉ ["type", "code", "message"]) :
    textField? (client code message) key = none := by
  have habsent : (client code message).get? key = none := by
    rw [client_eq]
    refine Json.get?_foldl_insert_of_not_mem ?_ []
    cases message <;> simp_all
  rw [textField?, habsent]
  rfl

@[simp] theorem client_message : textField? (client code message) "message" = message := by
  cases message with
  | none => cases code <;> rfl
  | some text =>
    have hmessage : (client code (some text)).get? "message" = some (.string text) :=
      Json.get?_ofFields_append [("type", .string clientType), ("code", .string code.name)] _ (by simp)
    rw [textField?, hmessage]
    rfl

end

section

variable (message : String)

@[simp] theorem agent_error : textField? (agent message) "error" = some message := by
  have herror : (agent message).get? "error" = some (.string message) :=
    Json.get?_ofFields_append
      [("type", .string serviceType), ("subErrorCode", .string agentError)] _ (by simp)
  rw [textField?, herror]
  rfl

@[simp] theorem agent_subErrorCode :
    textField? (agent message) "subErrorCode" = some agentError := by
  have hcode : (agent message).get? "subErrorCode" = some (.string agentError) :=
    Json.get?_ofFields_append [("type", .string serviceType)] _ (by simp)
  rw [textField?, hcode]
  rfl

@[simp] theorem agent_type : textField? (agent message) "type" = some serviceType := by
  rw [textField?, agent, Json.get?_ofFields_cons _ (by simp)]
  rfl

end

end Payload

open Payload (client agent canceledText)

variable (metadata : Metadata) (service : Service)

/-! ## What they are classified as -/

/-- **Payloads of clients** are classified by their code, and what else they say is their message. -/
theorem classify_client (code : Payload.ClientCode) (message : Option String) :
    classify (client code message) false metadata service =
      match code with
      | .badResponse =>
        ((Failure.of .badResponse metadata).withMessage (message.getD "")).withRaw
          (client code message).compress
      | .maxStepsExceeded => Failure.of .exceededMaxSteps metadata
      | .actuationError => (Failure.of .actuation metadata).withMessage (message.getD "") := by
  have hcancel : isCancellation (client code message) = false := by
    rw [isCancellation, Payload.client_other _ _ (by decide), Payload.client_type]
    decide
  -- it has no code of the agent and no text of a cancellation
  have hagent :
      (textField? (client code message) "subErrorCode" == some Payload.agentError) = false := by
    rw [Payload.client_other _ _ (by decide)]
    rfl
  have hobject : isFailureObject (client code message) = true := by
    rw [isFailureObject, Payload.client_type]
    decide
  have hservice : Payload.clientType ≠ Payload.serviceType := by decide
  rw [classify, if_neg Bool.false_ne_true, hcancel, if_neg Bool.false_ne_true, hagent,
    if_neg Bool.false_ne_true, classifyCarried, if_pos hobject, classifyObject, Payload.client_type]
  dsimp only
  rw [if_neg hservice, if_pos rfl, classifyClient, Payload.client_code, Option.bind_some,
    Payload.ClientCode.ofName?_name, Payload.client_message, requestIdOf,
    Payload.client_other _ _ (by decide)]
  cases code with
  | badResponse =>
    -- no id of a request is set, and an empty one is none
    have hnone : ((Failure.of .badResponse metadata).withMessage (message.getD "")).requestId = none :=
      Failure.withMessage_requestId _ _
    show (Failure.withRequestId _ "").withRaw _ = _
    rw [Failure.withRequestId, if_pos rfl, ← hnone]
  | maxStepsExceeded | actuationError => rfl

/-- **A failure that the agent declared** is classified as one unless its text is that of a
cancellation. -/
theorem classify_agent (message : String) :
    classify (agent message) false metadata service =
      if message = canceledText then Failure.of .canceled metadata
      else (Failure.of .agent metadata).withMessage message := by
  have hcancel : isCancellation (agent message) = true ↔ message = canceledText := by
    rw [isCancellation, Payload.agent_error, Payload.agent_type]
    simp [Payload.serviceType]
  rw [classify, if_neg Bool.false_ne_true]
  by_cases canceled : message = canceledText
  · rw [if_pos (hcancel.mpr canceled), if_pos canceled]
  · rw [if_neg (canceled ∘ hcancel.mp), if_neg canceled, Payload.agent_subErrorCode,
      Payload.agent_error]
    rfl

end BrowserAct.Act
