import BrowserAct.Act.StateError
import BrowserAct.Act.Timestamp
import BrowserAct.Json.Basic

/-!
# Steps

A step records what the planner was shown and the program it answered with. It is built from a
message; a message without a screenshot or without a program makes no step.
-/

namespace BrowserAct.Act

/-- One round trip to the planner. -/
structure Step where
  image : String
  prompt : String
  activeUrl : String
  workflowRunId : String
  program : String
  requestId : String
  /-- The message the step was built from. -/
  raw : Json
  /-- The seconds the planner took, if the message says so. -/
  serverTime : Option Decimal.Binary64
  observedAt : Moment

namespace Step

/-- The text at the end of a path of keys, the empty text if there is none. -/
def textAt (message : Json) (path : List String) : String :=
  ((path.foldlM Json.get? message).bind Json.asString?).getD ""

/-- The address of the page, under either of two spellings. -/
def activeUrlOf (message : Json) : String :=
  let url := textAt message ["input", "metadata", "activeURL"]
  if url = "" then textAt message ["input", "metadata", "activeUrl"] else url

def ofMessage (message : Json) (now : Moment) : Except StateError Step :=
  let image := textAt message ["input", "screenshot"]
  let program := textAt message ["output", "rawProgramBody"]
  if image = "" then .error .missingScreenshot
  else if program = "" then .error .missingProgram
  else .ok
    { image
      prompt := textAt message ["input", "prompt"]
      activeUrl := activeUrlOf message
      workflowRunId := textAt message ["input", "agentRunCreate", "workflowRunId"]
      program
      requestId := textAt message ["output", "requestId"]
      raw := message
      serverTime := (message.get? "server_time_s").bind Json.asFloat?
      observedAt := now }

end Step

end BrowserAct.Act
