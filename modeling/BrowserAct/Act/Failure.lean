import BrowserAct.Act.Metadata
import BrowserAct.Service

/-!
# Failures of acts

A failure has a kind, a message, the view of its act, and what evidence there is: the id of the
failed request and the raw message.

* **`Failure.of`** makes a failure with the wording of its kind; the `with` functions add to it.
* **`Failure.isRetryable`** says whether the same act may succeed when it is tried again.
-/

namespace BrowserAct.Act

/-- Which limit too many requests ran into. -/
inductive Throttle where
  /-- The limit of the day. -/
  | daily
  /-- A limit that passes soon. -/
  | shortWindow
  | unspecified
deriving DecidableEq

namespace Throttle

def ofName : Option String → Throttle
  | some "DAILY_QUOTA_LIMIT_EXCEEDED" => .daily
  | some "RATE_LIMIT_EXCEEDED" => .shortWindow
  | _ => .unspecified

end Throttle

/-- What kind of failure ended an act. -/
inductive FailureKind where
  | timeout
  | canceled
  | agent
  | guardrails
  | model
  | invalidInput
  | rateLimit (throttle : Throttle)
  | auth
  | notAuthorized
  | serviceUnavailable
  | internalServer
  | badRequest
  | protocol
  | badResponse
  | exceededMaxSteps
  | dispatch
  | actuation
  | client
deriving DecidableEq

namespace FailureKind

def name : FailureKind → String
  | .timeout => "ActTimeoutError"
  | .canceled => "ActCanceledError"
  | .agent => "ActAgentError"
  | .guardrails => "ActGuardrailsError"
  | .model => "ActModelError"
  | .invalidInput => "ActInvalidInputError"
  | .rateLimit _ => "ActRateLimitExceededError"
  | .auth => "AuthError"
  | .notAuthorized => "ActNotAuthorizedError"
  | .serviceUnavailable => "ActServiceUnavailableError"
  | .internalServer => "ActInternalServerError"
  | .badRequest => "ActBadRequestError"
  | .protocol => "ActProtocolError"
  | .badResponse => "ActBadResponseError"
  | .exceededMaxSteps => "ActExceededMaxStepsError"
  | .dispatch => "ActDispatchError"
  | .actuation => "ActActuationError"
  | .client => "ActClientError"

def quotaMessage : String :=
  "We have quota limits to ensure sufficient capacity for all users. If you need dedicated quota for a more ambitious project, please get in touch at nova-act@amazon.com. We're excited to see what you build!"

/-- The message of a kind where nothing better is known. -/
def defaultMessage : FailureKind → String
  | .timeout => "Timed out, you can modify the 'timeout' kwarg on the 'act' call"
  | .canceled => "Act Canceled"
  | .agent => "The requested action was not possible"
  | .guardrails =>
    "I'm sorry, but I can't engage in unsafe or inappropriate actions. Please try a different request."
  | .model => "The model output could not be processed. Please try a different request."
  | .invalidInput => "Invalid Input"
  | .rateLimit .daily => "Daily API limit exceeded. " ++ quotaMessage
  | .rateLimit .shortWindow => "Too many requests in a short time period. " ++ quotaMessage
  | .rateLimit .unspecified => quotaMessage
  | .auth => "Authentication failed."
  | .notAuthorized =>
    "Not Authorized. Check your current IAM role by running 'aws sts get-caller-identity'."
  | .serviceUnavailable => "Server Unavailable"
  | .internalServer => "Internal Server Error"
  | .badRequest => "Bad Request"
  | .protocol => "Failed to parse response"
  | .badResponse => "Bad Response"
  | .exceededMaxSteps => "Allowed Steps Exceeded"
  | .dispatch => "Failed to dispatch act"
  | .actuation => "Actuation Error"
  | .client => "An error occurred during act()"

/-- A kind that tells of a malformed or unexpected exchange. -/
def isProtocol : FailureKind → Bool
  | .protocol | .badRequest | .badResponse => true
  | _ => false

def isRetryable : FailureKind → Bool
  | .rateLimit .shortWindow | .serviceUnavailable | .internalServer => true
  | _ => false

end FailureKind

/-- The failure of an act. -/
structure Failure where
  kind : FailureKind
  message : String
  metadata : Metadata
  requestId : Option String
  raw : Option String
deriving DecidableEq

/-- Lines in a frame of stars, as wide as the longest of them. -/
def warningBox (lines : List String) : String :=
  let longest := lines.foldl (fun longest line => max longest line.length) 0
  let border := String.ofList (List.replicate (longest + 4) '*')
  let framed := lines.map fun line =>
    "* " ++ line ++ String.ofList (List.replicate (longest - line.length) ' ') ++ " *"
  "\n" ++ border ++ "\n" ++ "\n".intercalate framed ++ "\n" ++ border

namespace Failure

/-- A failure with the message of its kind and no evidence. -/
def of (kind : FailureKind) (metadata : Metadata) : Failure :=
  ⟨kind, kind.defaultMessage, metadata, none, none⟩

/-- A failure with another message; an empty one keeps the message it has. -/
def withMessage (f : Failure) (message : String) : Failure :=
  if message = "" then f else { f with message }

/-- A failure with the id of the failed request; an empty id is none. -/
def withRequestId (f : Failure) (requestId : String) : Failure :=
  { f with requestId := if requestId = "" then none else some requestId }

/-- A failure with the raw message it was read from. -/
def withRaw (f : Failure) (raw : String) : Failure :=
  { f with raw := some raw }

/-- Whether the same act may succeed when it is tried again. -/
def isRetryable (f : Failure) : Bool :=
  f.kind.isRetryable

/-- What helps users of a service whose key or role was refused. -/
def authMessage (service : Service) (requestId : String) : String :=
  if service.isHelios then
    warningBox
      [FailureKind.auth.defaultMessage,
        "",
        "Please ensure you have received confirmation that your IAM role is allowlisted and that its policy has the required permissions. ",
        "To join the waitlist, please go here: https://amazonexteu.qualtrics.com/jfe/form/SV_9siTXCFdKHpdwCa"]
  else
    warningBox
      [FailureKind.auth.defaultMessage,
        "",
        "Please ensure you are using a key from: " ++ service.keygenUri,
        "and accessing NovaAct from within the United States."]
      ++ if requestId = "" then ""
        else "\nIf you are sure the above requirements are satisfied and you are still facing AuthError, please submit an issue with this request ID: " ++ requestId

def auth (service : Service) (metadata : Metadata) (requestId : String) : Failure :=
  ((of .auth metadata).withMessage (authMessage service requestId)).withRequestId requestId

def feedbackLine : String :=
  "Please consider providing feedback: https://amazonexteu.qualtrics.com/jfe/form/SV_bd8dHa7Em6kNkMe"

def render (f : Failure) : String :=
  "\n\n" ++ f.kind.name ++ "(\n"
    ++ "    message = " ++ f.message ++ "\n"
    ++ (match f.requestId with
      | some id => "    failed_request_id = " ++ id ++ "\n"
      | none => "")
    ++ (match f.raw with
      | some raw => "    raw_message = " ++ raw ++ "\n"
      | none => "")
    ++ "    metadata = " ++ f.metadata.renderNested ++ "\n"
    ++ ")\n\n" ++ feedbackLine

/-! ## Laws -/

@[simp] theorem of_kind (kind : FailureKind) (metadata : Metadata) :
    (of kind metadata).kind = kind := rfl

@[simp] theorem withRequestId_kind (f : Failure) (requestId : String) :
    (f.withRequestId requestId).kind = f.kind := rfl

@[simp] theorem withRaw_kind (f : Failure) (raw : String) : (f.withRaw raw).kind = f.kind := rfl

@[simp] theorem auth_kind (service : Service) (metadata : Metadata) (requestId : String) :
    (auth service metadata requestId).kind = .auth := by
  unfold auth withMessage; split <;> rfl

@[simp] theorem withMessage_kind (f : Failure) (m : String) : (f.withMessage m).kind = f.kind := by
  unfold withMessage; split <;> rfl

@[simp] theorem withMessage_metadata (f : Failure) (m : String) :
    (f.withMessage m).metadata = f.metadata := by
  unfold withMessage; split <;> rfl

@[simp] theorem withMessage_raw (f : Failure) (m : String) : (f.withMessage m).raw = f.raw := by
  unfold withMessage; split <;> rfl

@[simp] theorem withMessage_requestId (f : Failure) (m : String) :
    (f.withMessage m).requestId = f.requestId := by
  unfold withMessage; split <;> rfl

end Failure

end BrowserAct.Act
