import BrowserAct.Proofs.Act.About
import BrowserAct.Proofs.Act.Transient
import BrowserAct.Proofs.Channel.Stream
import BrowserAct.Proofs.Json.RoundTrip

/-!
# Failures that come in over the channel

The browser reports a failure as a completion with the failure object in a field of it, as it is or as
its JSON text. What the act comes to is what the failure object itself is classified as.

* **`Carried`** are the two forms in which a failure object travels.
* **`classify_carried`** unwraps them, **`handle_failed`** takes them out of their envelope.
* **`outcome_of_carried`** says that an act that a failure was sent to comes to that failure.
-/

namespace BrowserAct

namespace Channel

open Act (textField?)

/-- A failure object in one of the forms in which it travels. It is read back from its text, within
the levels of nesting that are left where it stands: a completion nests it two levels deeper. -/
inductive Carried (failure : Json) : Json → Prop where
  | object (read : Json.parseWithin? (Json.nestingLimit - 2) failure.render = some failure) :
      Carried failure failure
  | text (read : Json.parse? failure.compress = some failure) :
      Carried failure (.string failure.compress)

/-- The report of a failure that is carried in this form. -/
def failureReport (carried : Json) : Json :=
  Message.failed (.ofFields [("error", carried)])

/-! ## The report -/

/-- The response of the report, with its fields in order. -/
def failureResponse (carried : Json) : Json :=
  .object [("error", carried), ("type", .string "error")]

/-- The report is a completion with this response. -/
theorem failureReport_eq (carried : Json) :
    failureReport carried = Message.completion (failureResponse carried) := by
  have order : "error" < "type" := by decide
  have hresponse : Json.ofFields [("type", .string "error"), ("error", carried)] =
      failureResponse carried := by
    simp only [Json.ofFields, List.foldl_cons, List.foldl_nil, Json.Fields.insert_nil]
    rw [Json.Fields.insert_cons_of_lt order, failureResponse]
  rw [← hresponse]
  rfl

/-- The report nests what it carries two levels deeper. -/
theorem readBack?_failureReport {carried : Json} {limit : Nat}
    (read : carried.readBack? limit = some carried) :
    (failureReport carried).readBack? (limit + 2) = some (failureReport carried) := by
  have inner : "error" < "type" := by decide
  have outer : "response" < "type" := by decide
  rw [failureReport_eq, Sample.completion_eq, failureResponse]
  simp only [Json.readBack?, Json.readBackFields?, read, Option.bind_some, Option.map_some,
    Json.ofFields, List.foldl_cons, List.foldl_nil, Json.Fields.insert_nil]
  rw [Json.Fields.insert_cons_of_gt inner, Json.Fields.insert_nil,
    Json.Fields.insert_cons_of_gt outer, Json.Fields.insert_nil]

/-- It is read back from its text, as what it carries can be. -/
theorem parse?_failureReport {failure carried : Json} (form : Carried failure carried) :
    Json.parse? (failureReport carried).compress = some (failureReport carried) := by
  have hread : carried.readBack? (Json.nestingLimit - 2) = some carried := by
    cases form with
    | object read => rwa [Json.parseWithin?_render] at read
    | text => rfl
  rw [Json.parse?_compress]
  exact readBack?_failureReport hread

theorem parse_failureReport (carried : Json) :
    Inbound.parse (failureReport carried) =
      .ok (.completion (.failed (failureResponse carried))) := by
  rw [failureReport_eq, Sample.completion_eq]
  rfl

/-! ## What is carried -/

/-- A failure object is an object, so its text opens with a brace. -/
theorem compress_ne_canceledText {failure : Json} (typed : Act.isFailureObject failure = true) :
    failure.compress ≠ Act.Payload.canceledText := by
  cases failure with
  | object fields =>
    intro same
    have hfirst := congrArg (fun text => text.toList.head?) same
    rw [Json.compress, String.toList_ofList, Json.render] at hfirst
    cases hfirst
  | _ => cases typed

/-- **A failure object in the error field of a response** is classified as it is by itself, unless it
asks to cancel or was declared by the agent: these are looked for on the outside only. -/
theorem classify_carried {failure carried : Json} (form : Carried failure carried)
    (typed : Act.isFailureObject failure = true)
    (notAgent : textField? failure "subErrorCode" ≠ some Act.Payload.agentError)
    (notCanceled : textField? failure "error" ≠ some Act.Payload.canceledText)
    (timedOut : Bool) (metadata : Act.Metadata) (service : Service) :
    Act.classify (failureResponse carried) timedOut metadata service =
      Act.classify failure timedOut metadata service := by
  have htyped := (Act.isFailureObject_iff failure).mp typed
  -- by itself it is neither a cancellation nor of the agent, and it is the failure object
  have hdirect : Act.classify failure false metadata service =
      Act.classifyObject failure metadata service := by
    have hcancel : ¬ Act.isCancellation failure = true := by
      rw [Act.isCancellation_iff]
      rintro (canceled | canceled)
      · exact notCanceled canceled
      · rcases htyped with htype | htype <;>
          exact absurd (htype.symm.trans canceled) (by decide)
    rw [Act.classify, if_neg Bool.false_ne_true, if_neg hcancel,
      if_neg (by rwa [beq_iff_eq]), Act.classifyCarried, if_pos typed]
  -- carried it is found in the error field
  have hcarried : Act.classify (failureResponse carried) false metadata service =
      Act.classifyObject failure metadata service := by
    have hcancel : ¬ Act.isCancellation (failureResponse carried) = true := by
      rw [Act.isCancellation_iff]
      rintro (canceled | canceled)
      -- encoded it would be that word alone, and inline it would be a text
      · cases form with
        | text =>
          exact compress_ne_canceledText typed (Option.some.inj canceled)
        | object =>
          cases failure with
          | object => cases canceled
          | _ => cases typed
      · have htype : textField? (failureResponse carried) "type" = some "error" := rfl
        exact absurd (htype.symm.trans canceled) (by decide)
    have hagent : ¬ (textField? (failureResponse carried) "subErrorCode" ==
        some Act.Payload.agentError) = true := Bool.false_ne_true
    have houter : ¬ Act.isFailureObject (failureResponse carried) = true := Bool.false_ne_true
    have herror : (failureResponse carried).get? "error" = some carried := rfl
    rw [Act.classify, if_neg Bool.false_ne_true, if_neg hcancel, if_neg hagent,
      Act.classifyCarried, if_neg houter, herror]
    -- inline it is found as it is, encoded it is read from its text
    cases form with
    | text read =>
      dsimp only
      rw [read]
    | object =>
      cases failure with
      | object => rfl
      | _ => cases typed
  cases timedOut with
  | true => rfl
  | false => rw [hcarried, hdirect]

/-! ## To a bound act -/

/-- The report of a failure ends the bound act with its response. -/
theorem handle_failed {failure carried : Json} (form : Carried failure carried) {b bound : Binding}
    {act : Act} (binds : b.bind act = .ok bound) (key : Key) (nonce : Cipher.Gcm.Nonce)
    (now : Moment) :
    bound.handle key (encrypt key nonce (failureReport carried)) act now =
      .ok (Binding.act act.id false, act.perform (.fail (failureResponse carried)) now) := by
  obtain ⟨isOpen, rfl⟩ := Binding.bind_eq_ok binds
  have hreceived :=
    receive_encrypt (parse?_failureReport form) (parse_failureReport carried) key nonce
  rw [Binding.handle, hreceived]
  dsimp only
  -- the bound act is at hand, so the completion fails it and closes the binding
  rw [Binding.apply, if_pos rfl, Binding.applyToAct]
  have hoperation : (Inbound.completion (.failed (failureResponse carried))).operation? now =
      .ok (some (.fail (failureResponse carried))) := rfl
  rw [hoperation]
  dsimp only
  rw [Act.apply_of_open isOpen]
  rfl

/-- **A failure means the same on both ways.** A failure object of the service or of the client that
neither asks to cancel nor was declared by the agent is sent under the key of the channel to a bound
act, as it is or as its text. It is taken in, and the act comes to what the object is classified as;
that says the same as for any other act. -/
theorem outcome_of_carried {failure carried : Json} (form : Carried failure carried)
    (typed : Act.isFailureObject failure = true)
    (notAgent : textField? failure "subErrorCode" ≠ some Act.Payload.agentError)
    (notCanceled : textField? failure "error" ≠ some Act.Payload.canceledText)
    {b bound : Binding} {act : Act} (binds : b.bind act = .ok bound) (key : Key)
    (nonce : Cipher.Gcm.Nonce) (now : Moment) (service : Service) (metadata : Act.Metadata) :
    ∃ ended, bound.handle key (encrypt key nonce (failureReport carried)) act now =
        .ok (Binding.act act.id false, ended) ∧
      ended.outcome service =
        .error ((Act.classify failure act.timedOut metadata service).about ended.metadata) := by
  refine ⟨_, handle_failed form binds key nonce now, ?_⟩
  rw [Act.classify_about, ← classify_carried form typed notAgent notCanceled]
  rfl

namespace Sample

/-- The failure of a service that was asked too often. -/
def throttled : Json :=
  .object
    [("code", .integer 429), ("message", .string "\x7b\"reason\":\"RATE_LIMIT_EXCEEDED\"\x7d"),
      ("type", .string "NovaActService")]

/-- It is read back from its text. -/
theorem carried_throttled :
    Carried throttled throttled ∧ Carried throttled (.string throttled.compress) := by
  have order : "code" < "message" ∧ "message" < "type" := by decide
  have hcode : Json.number? (Json.integerChars 429) = some (.integer 429) :=
    Json.readBack?_integer (by decide) 0
  -- its fields are in order, and its one number is read back as it is
  have hread (limit : Nat) : throttled.readBack? (limit + 1) = some throttled := by
    rw [throttled]
    simp only [Json.readBack?, Json.readBackFields?, hcode, Option.bind_some, Option.map_some,
      Json.ofFields, List.foldl_cons, List.foldl_nil, Json.Fields.insert_nil]
    rw [Json.Fields.insert_cons_of_gt order.1, Json.Fields.insert_nil,
      Json.Fields.insert_cons_of_gt (String.lt_trans order.1 order.2),
      Json.Fields.insert_cons_of_gt order.2, Json.Fields.insert_nil]
  refine ⟨.object ?_, .text ?_⟩
  · rw [Json.parseWithin?_render]
    exact hread _
  · rw [Json.parse?_compress]
    exact hread _

/-- Such a failure comes in as it is and as its text. -/
theorem throttled_comes_in :
    (Carried throttled throttled ∧ Carried throttled (.string throttled.compress)) ∧
      Act.isFailureObject throttled = true ∧
      textField? throttled "subErrorCode" ≠ some Act.Payload.agentError ∧
      textField? throttled "error" ≠ some Act.Payload.canceledText ∧
      Binding.idle.bind act = .ok (.act act.id true) ∧
      (∃ ended, (Binding.act act.id true).handle key
          (encrypt key nonce (failureReport throttled)) act 1 = .ok (.act act.id false, ended) ∧
        ended.outcome .prod =
          .error ((Act.classify throttled false act.metadata .prod).about ended.metadata)) ∧
      ∃ ended, (Binding.act act.id true).handle key
          (encrypt key nonce (failureReport (.string throttled.compress))) act 1 =
            .ok (.act act.id false, ended) ∧
        ended.outcome .prod =
          .error ((Act.classify throttled false act.metadata .prod).about ended.metadata) := by
  have typed : Act.isFailureObject throttled = true := rfl
  have notAgent : textField? throttled "subErrorCode" ≠ some Act.Payload.agentError := by decide
  have notCanceled : textField? throttled "error" ≠ some Act.Payload.canceledText := by decide
  have binds : Binding.idle.bind act = .ok (.act act.id true) := rfl
  refine ⟨carried_throttled, typed, notAgent, notCanceled, binds, ?_, ?_⟩
  · exact outcome_of_carried carried_throttled.1 typed notAgent notCanceled binds key nonce 1 .prod
      act.metadata
  · exact outcome_of_carried carried_throttled.2 typed notAgent notCanceled binds key nonce 1 .prod
      act.metadata

end Sample

end Channel

end BrowserAct
