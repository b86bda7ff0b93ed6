import BrowserAct.Act.Classify
import BrowserAct.Act.Result
import BrowserAct.Rehearsal.Scene

/-!
# Acts as JSON

How a rehearsal writes down acts, their steps and what they come to, and how it reads the requests for
them.
-/

namespace BrowserAct.Rehearsal

/-! ## Reading -/

def timestamp? (j : Json) : Option Timestamp :=
  if j.isObject then some ⟨(j.int? "secs").getD 0, j.natural "nanos"⟩ else none

def metadata (j : Json) : Act.Metadata :=
  { sessionId := j.text "session_id", actId := j.text "act_id", stepCount := j.natural "num_steps"
    startTime := timestamp? (j.field "start_time"), endTime := timestamp? (j.field "end_time")
    prompt := j.text "prompt", stepTimes := (j.items "server_times").filterMap Json.asFloat? }

def knobs (j : Json) : Act.ModelKnobs :=
  ⟨j.int? "temperature", j.int? "top_k", j.int? "seed"⟩

def request (j : Json) : Act.Request :=
  { prompt := j.text "prompt", sessionId := j.text "session_id"
    endpointName := j.text "endpoint_name", timeout := (j.natural? "timeout_ms").map (· * 1_000_000)
    maxSteps := (j.natural? "max_steps").getD Act.defaultMaxSteps, knobs := knobs (j.field "knobs") }

/-! ## Writing -/

def optional (s : Option String) : Json :=
  orNull (s.map .string)

def duration (d : Option Duration) : Json :=
  optional (d.map toString)

def Report.metadata (m : Act.Metadata) : Json :=
  .ofFields
    [("session_id", .string m.sessionId), ("act_id", .string m.actId),
      ("num_steps", .integer m.stepCount), ("prompt", .string m.prompt),
      ("has_start", .bool m.startTime.isSome), ("has_end", .bool m.endTime.isSome),
      ("server_times", .array (m.stepTimes.map bits))]

def Report.throttle : Act.Throttle → String
  | .daily => "daily"
  | .shortWindow => "short"
  | .unspecified => "unspecified"

def Report.failureFields (f : Act.Failure) : List (String × Json) :=
  let throttle := match f.kind with
    | .rateLimit throttle => .string (Report.throttle throttle)
    | _ => .null
  [("error", .string f.kind.name), ("throttle", throttle), ("message", .string f.message),
    ("request_id", optional f.requestId), ("raw", optional f.raw),
    ("retryable", .bool f.isRetryable), ("protocol", .bool f.kind.isProtocol),
    ("meta", Report.metadata f.metadata)]

def Report.failure (f : Act.Failure) : Json :=
  .ofFields (failureFields f)

def Report.result (r : Act.Result) : Json :=
  .ofFields
    [("response", optional r.response), ("parsed", orNull (r.parsed.map embedded)),
      ("valid_json", orNull (r.validJson.map .bool)),
      ("matches_schema", orNull (r.matchesSchema.map .bool)), ("meta", Report.metadata r.metadata)]

/-- What something comes to, by how its value and its failure are written. -/
def Report.answer {ε α : Type} (value : α → Json) (failure : ε → Json) : Except ε α → Json
  | .ok a => .ofFields [("ok", value a)]
  | .error e => failure e

def Report.outcome : Act.Outcome → Json :=
  answer result failure

def Report.unit : Except Act.Failure Unit → Json :=
  answer (fun _ => .null) failure

def Report.step (s : Act.Step) : Json :=
  .ofFields
    [("image", .string s.image), ("prompt", .string s.prompt), ("active_url", .string s.activeUrl),
      ("workflow", .string s.workflowRunId), ("program", .string s.program),
      ("request_id", .string s.requestId), ("raw", embedded s.raw),
      ("server_time", orNull (s.serverTime.map bits))]

def Report.ending : Act.Ending → Json
  | .succeeded response => .ofFields [("succeeded", .string response)]
  | .canceled => .string "canceled"
  | .failed payload => .ofFields [("failed", embedded payload)]

def Report.actFields (a : Act) : List (String × Json) :=
  [("acknowledged", .bool a.acknowledged), ("complete", .bool a.isComplete),
    ("timed_out", .bool a.timedOut), ("num_steps", .integer a.steps.length),
    ("has_end", .bool a.endedAt.isSome), ("result", orNull (a.result.map ending))]

def Report.act (a : Act) : Json :=
  .ofFields (actFields a)

def Report.actWithSteps (a : Act) : Json :=
  .ofFields (actFields a ++ [("steps", .array (a.steps.map step))])

def Report.knobs (k : Act.ModelKnobs) : Json :=
  .array ([k.temperature, k.topK, k.seed].map fun n => orNull (n.map .integer))

end BrowserAct.Rehearsal
