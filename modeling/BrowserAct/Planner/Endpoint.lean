import BrowserAct.Act.Basic
import BrowserAct.Json.Printer
import BrowserAct.Json.Reader
import BrowserAct.Planner.Answer
import BrowserAct.Service
import BrowserAct.Url.Address

/-!
# The step endpoint

The planner can be reached by HTTP. A step posts the plan request to the endpoint and reads the
answer; how a post is carried out is a parameter.

* **`Endpoint.of`** is the endpoint of a service.
* **`Endpoint.step`** asks it for the next program.
-/

namespace BrowserAct.Planner

/-- The address that steps are posted to, and the key that is sent along. -/
structure Endpoint where
  url : String
  apiKey : String
deriving DecidableEq

/-- A post to an endpoint. -/
structure Post where
  /-- The path and query that the request line names. -/
  target : String
  authorization : String
  apiKey : String
  body : String
deriving DecidableEq

/-- What became of a post. -/
inductive Reply where
  /-- A response came, with its status and body, after some seconds. -/
  | received (status : Nat) (body : String) (seconds : Decimal.Binary64)
  | lost (detail : String)

namespace Endpoint

def connectTimeout : Duration := 30 * 1_000_000_000

def readTimeout : Duration := 300 * 1_000_000_000

def of (service : Service) (apiKey : String) : Except Error Endpoint :=
  if apiKey = "" then .error .missingApiKey
  else
    let base := (service.apiUri.toList.reverse.dropWhile (· == '/')).reverse
    .ok ⟨String.ofList base ++ "/step", apiKey⟩

/-! ## Asking -/

def isHeaderValue (text : String) : Bool :=
  text.toList.all fun c => c == '\t' || (decide (0x20 ≤ c.toNat) && c.toNat != 0x7f)

def bodyOf (act : Act) (planRequest : String) : String :=
  Json.compress
    (.object
      [("actId", .string act.id), ("sessionId", .string act.request.sessionId),
        ("actuationPlanRequest", .string planRequest)])

def post (e : Endpoint) (act : Act) (planRequest : String) : Except Error Post :=
  match Url.Address.parse? e.url with
  | none => .error (.transport "the address is invalid")
  | some address =>
    if isHeaderValue e.apiKey then
      .ok ⟨address.target, "ApiKey " ++ e.apiKey, e.apiKey, bodyOf act planRequest⟩
    else .error (.transport "the key is no header value")

/-! ## Reading the answer -/

/-- The payload of a failed request, in the form in which the service reports failures. -/
def serviceFailure (status : Nat) (body : Json) : Json :=
  let message := Json.ofFields [("reason", body.field "reason"), ("message", body.field "fields")]
  .ofFields
    [("type", .string Act.Payload.serviceType), ("code", .integer status),
      ("message", .string message.compress)]

/-- The record of a step: what the planner was shown, what it answered, and how long that took. -/
def recordOf (act : Act) (request response : Json) (seconds : Decimal.Binary64) : Json :=
  let url := (request.field "observation").field "activeURL"
  .ofFields
    [("input", .ofPresent
        [("screenshot", some (request.field "screenshotBase64")),
          ("prompt", some (.string act.request.prompt)),
          ("metadata", some (.ofFields [("activeUrl", url)])),
          ("agentRunCreate", request.get? "agentRunCreate")]),
      ("output", response),
      ("server_time_s", .float seconds)]

/-- The program of a response that reports success. -/
def readProgram (act : Act) (request : Json) (body : String) (seconds : Decimal.Binary64) :
    Except Error Answer :=
  let parsed := (Json.parse? body).getD .null
  match (parsed.field "actuationPlanResponse").asString? with
  | none => .error (.missingField body "actuationPlanResponse")
  | some text =>
    match Json.parse? text with
    | none => .error (.invalidResponse "the plan response is not JSON")
    | some response =>
      match (response.field "rawProgramBody").asString? with
      | none => .error (.missingField body "rawProgramBody")
      | some source => .ok (.program source (recordOf act request response seconds))

def readResponse (act : Act) (request : Json) (status : Nat) (body : String)
    (seconds : Decimal.Binary64) : Except Error Answer :=
  if 400 ≤ status then .ok (.failed (serviceFailure status ((Json.parse? body).getD .null)))
  else readProgram act request body seconds

/-- One step: a plan request that is not JSON is not sent. -/
def step (e : Endpoint) (act : Act) (planRequest : String) (send : Post → Reply) :
    Except Error Answer :=
  match Json.parse? planRequest with
  | none => .error (.invalidRequest "the plan request is not JSON")
  | some request =>
    match e.post act planRequest with
    | .error error => .error error
    | .ok post =>
      match send post with
      | .lost detail => .error (.transport detail)
      | .received status body seconds => readResponse act request status body seconds

end Endpoint

end BrowserAct.Planner
