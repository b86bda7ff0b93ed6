import BrowserAct.Act.Basic
import BrowserAct.Act.Payload
import BrowserAct.Act.Result
import BrowserAct.Json.Reader

/-!
# What a failure payload means

A payload is looked at in a fixed order: a time-out of the act comes before everything, then
cancellation, then a failure declared by the agent, then the failure object itself. The object is
the payload, or stands in its `error` field, as an object or as the JSON text of one. What is not
recognised is a protocol failure that keeps the evidence.

* **`classify`** maps a payload to a failure.
* **`Act.outcome`** maps a finished act to its result or failure.
-/

namespace BrowserAct.Act

def textField? (j : Json) (key : String) : Option String :=
  (j.get? key).bind Json.asString?

/-- The id of the request a failure object tells of. -/
def requestIdOf (j : Json) : String :=
  (textField? j "requestId").getD ""

/-- An object that stands in a field, as it is or as JSON text. -/
def embeddedObject? : Option Json → Option Json
  | some (.object fields) => some (.object fields)
  | some (.string text) =>
    match Json.parse? text with
    | some (.object fields) => some (.object fields)
    | _ => none
  | _ => none

/-- The message of the first entry of a list of prompt errors. -/
def promptMessage (details : Json) : String :=
  let first := fun key => ((details.get? key).bind Json.asArray?).bind List.head?
  let message := fun entry => textField? entry "message"
  ((["fields", "message"].filterMap first).findSome? message).getD ""

/-- A protocol failure with the failure object as its evidence. -/
def unrecognised (metadata : Metadata) (message : String) (object : Json) : Failure :=
  (((Failure.of .protocol metadata).withMessage message).withRequestId
    (requestIdOf object)).withRaw object.compress

/-- The failure of a service that reports codes by name. -/
def classifyNamedCode (code : String) (object : Json) (metadata : Metadata) : Failure :=
  let message := (textField? object "message").getD ""
  if code = "INVALID_INPUT" then (Failure.of .invalidInput metadata).withMessage message
  else if code = "INTERNAL_ERROR" then (Failure.of .internalServer metadata).withMessage message
  else if code = "UNAUTHORIZED_ERROR" then
    (Failure.of .notAuthorized metadata).withMessage
      "Access denied. To request access, email nova-act@amazon.com with your use case."
  else if code = "MODEL_ERROR" then (Failure.of .model metadata).withMessage message
  else if code = "GUARDRAILS_ERROR" then (Failure.of .guardrails metadata).withMessage message
  else if code = "TOO_MANY_REQUESTS" then
    (Failure.of (.rateLimit .shortWindow) metadata).withRaw message
  else if code = "DAILY_QUOTA_LIMIT_ERROR" then
    (Failure.of (.rateLimit .daily) metadata).withRaw message
  else
    (Failure.of .protocol metadata).withMessage ("invalid NovaActService error code: " ++ code)

/-- A failure of a bad request whose details give a reason of their own. -/
def reasonFailure? (details : Json) (metadata : Metadata) : Option Failure :=
  match textField? details "reason" with
  | some "AGENT_GUARDRAILS_TRIGGERED" =>
    some ((Failure.of .guardrails metadata).withMessage (promptMessage details))
  | some "INVALID_INPUT" => some (Failure.of .invalidInput metadata)
  | some "MODEL_ERROR" => some ((Failure.of .model metadata).withMessage (promptMessage details))
  | _ => none

/-- The limit that the details of an answer name: the throttle type, or the reason where there is no
throttle type. -/
def throttleOf (details : Option Json) : Throttle :=
  let named := details.bind fun d => (d.get? "throttleType").or (d.get? "reason")
  .ofName (named.bind Json.asString?)

/-- The failure of a service that reports codes by number. -/
def classifyStatus (code : Int) (object : Json) (metadata : Metadata) (service : Service) :
    Failure :=
  let details := embeddedObject? (object.get? "message")
  let evident := fun kind =>
    ((Failure.of kind metadata).withRequestId (requestIdOf object)).withRaw object.compress
  let reason := if code = 400 then details.bind (reasonFailure? · metadata) else none
  match reason with
  | some failure => failure
  | none =>
    if code = 403 then Failure.auth service metadata (requestIdOf object)
    else if code = 429 then evident (.rateLimit (throttleOf details))
    else if 400 ≤ code ∧ code ≤ 499 then evident .badRequest
    else if code = 503 then evident .serviceUnavailable
    else if 500 ≤ code ∧ code ≤ 599 then evident .internalServer
    else unrecognised metadata "Unhandled NovaActService error" object

def classifyService (object : Json) (metadata : Metadata) (service : Service) : Failure :=
  let invalid := unrecognised metadata "invalid error code in Server Response" object
  match object.get? "code" with
  | some (.string code) => classifyNamedCode code object metadata
  | some code =>
    match code.asInt64? with
    | some status => if status = -1 then invalid else classifyStatus status object metadata service
    | none => invalid
  | none => invalid

def classifyClient (object : Json) (metadata : Metadata) : Failure :=
  let message := (textField? object "message").getD ""
  match (textField? object "code").bind Payload.ClientCode.ofName? with
  | some .badResponse =>
    (((Failure.of .badResponse metadata).withMessage message).withRequestId
      (requestIdOf object)).withRaw object.compress
  | some .maxStepsExceeded => Failure.of .exceededMaxSteps metadata
  | some .actuationError => (Failure.of .actuation metadata).withMessage message
  | none => unrecognised metadata "invalid NovaActClient error code" object

def classifyObject (object : Json) (metadata : Metadata) (service : Service) : Failure :=
  match textField? object "type" with
  | some type =>
    if type = Payload.serviceType then classifyService object metadata service
    else if type = Payload.clientType then classifyClient object metadata
    else unrecognised metadata "unhandled failure type" object
  | none => unrecognised metadata "missing type in error message" object

/-- Whether a payload is itself a failure object. -/
def isFailureObject (payload : Json) : Bool :=
  let type := textField? payload "type"
  type == some Payload.serviceType || type == some Payload.clientType

/-- The failure of a payload whose failure object is still to be found. -/
def classifyCarried (payload : Json) (metadata : Metadata) (service : Service) : Failure :=
  if isFailureObject payload then classifyObject payload metadata service
  else
    match payload.get? "error" with
    | some (.object fields) => classifyObject (.object fields) metadata service
    | some (.string text) =>
      match Json.parse? text with
      | some object => classifyObject object metadata service
      | none =>
        ((Failure.of .protocol metadata).withMessage
          "failed to load error message as json").withRaw (Json.string text).compress
    | _ => unrecognised metadata "missing type in error message" payload

def isCancellation (payload : Json) : Bool :=
  textField? payload "error" == some Payload.canceledText
    || textField? payload "type" == some "canceled"

def classify (payload : Json) (timedOut : Bool) (metadata : Metadata) (service : Service) :
    Failure :=
  if timedOut then Failure.of .timeout metadata
  else if isCancellation payload then Failure.of .canceled metadata
  else if textField? payload "subErrorCode" == some Payload.agentError then
    (Failure.of .agent metadata).withMessage ((textField? payload "error").getD "")
  else classifyCarried payload metadata service

def outcome (a : Act) (service : Service) : Outcome :=
  match a.result with
  | none => .error ((Failure.of .client a.metadata).withMessage "No act result received")
  | some .canceled => .error (Failure.of (if a.timedOut then .timeout else .canceled) a.metadata)
  | some (.failed payload) => .error (classify payload a.timedOut a.metadata service)
  | some (.succeeded response) => .ok (.of (some response) a.metadata)

end BrowserAct.Act
