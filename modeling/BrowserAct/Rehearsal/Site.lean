import BrowserAct.Dispatch.Planned
import BrowserAct.Rehearsal.Scene

/-!
# A scripted page and planner

The planner gives its answers in the order of the script, and falls back on one program after that.
-/

namespace BrowserAct.Rehearsal

open Program (Refusal SettleOptions)

def observation (j : Json) : Planner.Observation :=
  { activeUrl := (j.text? "activeURL").getD "https://shop.example"
    dimensions := match j.field "browserDimensions" with
      | .object fields => fields.map fun (key, value) => (key, value.asInt64?.getD 0)
      | _ => []
    boxes := match j.field "idToBboxMap" with
      | .object fields => fields
      | _ => []
    screenshot := (j.text? "screenshotBase64").getD "AAAA"
    simplifiedDom := j.text "simplifiedDOM", timestampMs := (j.int? "timestamp_ms").getD 0
    userAgent := j.text "userAgent" }

def plannerError (entry : Json) : Planner.Error :=
  let message := entry.text "message"
  match entry.text "error" with
  | "MissingApiKey" => .missingApiKey
  | "MissingField" =>
    .missingField message (if entry.text "field" = "rawProgramBody" then "rawProgramBody"
      else "actuationPlanResponse")
  | "InvalidRequest" => .invalidRequest message
  | "InvalidResponse" => .invalidResponse message
  | _ => .transport message

/-- The record of the `k`-th step, where the script gives none. -/
def stepRecord (act : Act) (program : String) (k : Nat) : Json :=
  .ofFields
    [("input", .ofFields
      [("screenshot", .string "AAAA"), ("prompt", .string act.request.prompt),
        ("metadata", .ofFields [("activeUrl", .string "https://shop.example")])]),
      ("output", .ofFields
        [("rawProgramBody", .string program), ("requestId", .string ("req-" ++ toString k))]),
      ("server_time_s", .float (Decimal.Binary64.ofRatio false 1 4))]

/-- The `k`-th answer of the planner, and its delay in milliseconds. -/
def plannerAnswer (planner : Json) (act : Act) (k : Nat) :
    Nat × Except Planner.Error Planner.Answer :=
  let fallback := .string ((planner.text? "fallback").getD "return;")
  let entry := ((planner.items "responses")[k - 1]?).getD (.ofFields [("program", fallback)])
  let answer := match entry.get? "failed", entry.text? "error" with
    | some payload, _ => .ok (.failed payload)
    | none, some _ => .error (plannerError entry)
    | none, none =>
      let program := entry.text "program"
      .ok (.program program ((entry.get? "step").getD (stepRecord act program k)))
  (entry.natural "delay_ms", answer)

def millis (n : Nat) : Duration :=
  n * 1_000_000

/-- A scripted move of the actuator as one that takes time. -/
def Play.pending {α β : Type} (play : Play α) (answer : α → β) : Pending Scene β :=
  ⟨{ answer := (), world := play.begun }, millis play.delay,
    { answer := answer play.answer, world := play.ended }⟩

def site (actuator planner : Json) : Dispatch.Planned.Site Scene where
  settle options s :=
    let args := [options.maxTimeoutMs, options.checkCount, options.percentDifference,
      options.pollingIntervalMs].map fun n : Nat => Json.integer n
    (s.call actuator "settle" args).pending (·.map fun _ => .null)
  observe s :=
    (s.call actuator "observe" []).pending
      (·.map fun _ => observation (actuator.field "observation"))
  toBrowser := .of fun action s => (s.perform actuator action).pending id
  plan act request s :=
    let asked := { (s.bump "request") with requests := request :: s.requests }
    let k := asked.count "request"
    let (delay, answer) := plannerAnswer planner act k
    ⟨{ answer := (), world := asked, cancels := planner.natural? "cancel_on" == some k },
      millis delay, { answer, world := asked }⟩

def Scene.shown (s : Scene) : Json :=
  .ofFields [("calls", .array s.calls.reverse),
    ("requests", .array (s.requests.reverse.map .string))]

def Scene.cleared (s : Scene) : Scene :=
  { s with calls := [], requests := [] }

end BrowserAct.Rehearsal
