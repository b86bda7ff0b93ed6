import BrowserAct.Act.Timestamp
import BrowserAct.Text.Lines

/-!
# What is known of an act from outside

Every result and every failure carries this view of its act.
-/

namespace BrowserAct.Act

/-- A view of an act: who asked for what, when, and how far it came. -/
structure Metadata where
  sessionId : String
  actId : String
  stepCount : Nat
  startTime : Option Timestamp
  endTime : Option Timestamp
  prompt : String
  stepTimes : List Decimal.Binary64
deriving DecidableEq

namespace Metadata

def ofSession (sessionId : String) : Metadata :=
  ⟨sessionId, "", 0, none, none, "", []⟩

def showTime : Option Timestamp → String
  | some t => t.render
  | none => "None"

/-- A step time in seconds with three places, between quotes. -/
def showStepTime (t : Decimal.Binary64) : String :=
  "'" ++ String.ofList (Decimal.fixedPlaces 3 t) ++ "'"

/-- The step times, shown only if one of them is not zero. -/
def stepTimesLine (m : Metadata) : String :=
  if m.stepTimes.any (!·.isZero) then
    "    step_server_times_s = [" ++ ", ".intercalate (m.stepTimes.map showStepTime) ++ "]\n"
  else ""

def render (m : Metadata) : String :=
  "ActMetadata(\n"
    ++ "    session_id = " ++ m.sessionId ++ "\n"
    ++ "    act_id = " ++ m.actId ++ "\n"
    ++ "    num_steps_executed = " ++ toString m.stepCount ++ "\n"
    ++ "    start_time = " ++ showTime m.startTime ++ "\n"
    ++ "    end_time = " ++ showTime m.endTime ++ "\n"
    ++ m.stepTimesLine
    ++ "    prompt = '" ++ m.prompt ++ "'\n"
    ++ ")"

/-- The block as the value of a line in another block. -/
def renderNested (m : Metadata) : String :=
  Text.indentLines "    " m.render

end Metadata

end BrowserAct.Act
