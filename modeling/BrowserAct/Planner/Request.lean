import BrowserAct.Json.Printer
import BrowserAct.Planner.Observation
import BrowserAct.Program.Actuator

/-!
# Plan requests

Each step asks the planner for the next program with a plan request: the page as it is, the task with
the first step, and the refusal of the step before, if that asked for another way.
-/

namespace BrowserAct.Planner

/-- What the planner is asked at one step. -/
structure Request where
  actId : String
  prompt : String
  endpointName : String
  observation : Observation
  /-- The first step carries the task. -/
  isInitial : Bool
  /-- The refusal of the step before. -/
  refusal : Option Program.Refusal

namespace Request

def taskJson (r : Request) : Json :=
  .object
    [("agentConfigName", .string "plan-v2"),
      ("id", .string r.actId),
      ("plannerFunctionArgs", .object [("task", .string r.prompt)]),
      ("plannerFunctionName", .string "act"),
      ("planningModelServerHost", .string r.endpointName),
      ("task", .string r.prompt)]

def fields (r : Request) : Json.Fields :=
  [("agentRunId", .string r.actId),
      ("idToBboxMap", r.observation.boxesJson),
      ("observation", r.observation.toJson),
      ("screenshotBase64", .string r.observation.screenshot),
      ("tempReturnPlanResponse", .bool true)]
    ++ (r.refusal.map fun refusal =>
      ("errorExecutingPreviousStep", Json.string refusal.describe)).toList
    ++ (if r.isInitial then [("agentRunCreate", r.taskJson)] else [])

def toJson (r : Request) : Json :=
  .object r.fields

def text (r : Request) : String :=
  r.toJson.compress

end Request

end BrowserAct.Planner
