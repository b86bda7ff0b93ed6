import BrowserAct.Act.Basic
import BrowserAct.Json.Printer

/-!
# Messages

What the two sides of a channel say to each other. One side hands over prompts, cancels them and asks
for settled pages; the other accepts, reports steps, and completes.
-/

namespace BrowserAct.Channel

/-- A role by which the service knows its user. -/
structure AwsCredentials where
  accessKeyId : String
  secretAccessKey : String
  sessionToken : Option String
deriving DecidableEq

/-- Credentials as they travel; the service runs in one region only. -/
def AwsCredentials.toJson (c : AwsCredentials) : Json :=
  .ofPresent
    [("accessKeyId", some (.string c.accessKeyId)),
      ("secretAccessKey", some (.string c.secretAccessKey)),
      ("sessionToken", c.sessionToken.map .string),
      ("region", some (.string "us-east-1"))]

namespace Message

/-! ## Types -/

def pendingPromptType : String := "autonomy-pending-prompt"
def cancelType : String := "autonomy-cancel-prompt"
def settleType : String := "autonomy-pending-wait-for-page-to-settle"
def acceptedType : String := "autonomy-request-accepted"
def completionType : String := "autonomy-prompt-completion"
def tabType : String := "autonomy-update-active-tab"
def stepType : String := "autonomy-step-observation"

/-- The heartbeat, a text that is not encrypted. -/
def heartbeat : String := "ping"

/-! ## To the browser -/

def numberText (n : Int) : Json :=
  .string (toString n)

/-- Hands over an act. Numbers travel as texts, and a limit of no steps is not sent. -/
def pendingPrompt (act : Act) (apiKey hostname : String) (credentials : Option AwsCredentials) :
    Json :=
  let r := act.request
  .ofPresent
    [("type", some (.string pendingPromptType)),
      ("pendingPrompt", some (.string r.prompt)),
      ("apiKey", some (.string apiKey)),
      ("uuid", some (.string act.id)),
      ("endpointName", some (.string r.endpointName)),
      ("hostname", some (.string hostname)),
      ("sessionId", some (.string r.sessionId)),
      ("useBedrock", some (.bool true)),
      ("awsCredentials", credentials.map (·.toJson)),
      ("maxSteps", if 0 < r.maxSteps then some (numberText r.maxSteps) else none),
      ("modelTemperature", r.knobs.temperature.map numberText),
      ("modelTopK", r.knobs.topK.map numberText),
      ("modelSeed", r.knobs.seed.map numberText)]

def cancel : Json :=
  .ofFields [("type", .string cancelType)]

def settle (id apiKey hostname sessionId : String) (maxSeconds : Nat) : Json :=
  .ofFields
    [("type", .string settleType), ("apiKey", .string apiKey), ("uuid", .string id),
      ("hostname", .string hostname), ("sessionId", .string sessionId), ("useBedrock", .bool true),
      ("maxTimeout", .integer maxSeconds)]

/-! ## From the browser -/

def accepted : Json :=
  .ofFields [("type", .string acceptedType)]

def completion (response : Json) : Json :=
  .ofFields [("type", .string completionType), ("response", response)]

def success (result : String) : Json :=
  completion (.ofFields [("type", .string "success"), ("result", .string result)])

def canceled : Json :=
  completion (.ofFields [("type", .string "canceled")])

/-- Completes with a failure, whose fields are those of the response. -/
def failed (failure : Json) : Json :=
  let fields := match failure with
    | .object fields => fields.filter fun (key, _) => key != "type"
    | _ => []
  completion (.ofFields (("type", .string "error") :: fields))

def step (screenshot prompt activeUrl program : String) : Json :=
  .ofFields
    [("type", .string stepType),
      ("input", .ofFields
        [("screenshot", .string screenshot), ("prompt", .string prompt),
          ("metadata", .ofFields [("activeURL", .string activeUrl)])]),
      ("output", .ofFields [("rawProgramBody", .string program)])]

end Message

end BrowserAct.Channel
