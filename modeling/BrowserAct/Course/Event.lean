import BrowserAct.Act.Basic
import BrowserAct.Planner.Answer
import BrowserAct.Planner.Observation
import BrowserAct.Program.Actuator

/-!
# Events

What can be seen of a run: what it asks of the parties outside and what comes of that, the lines of the
agent trace, and the requests to cancel that reach it.
-/

namespace BrowserAct.Course

/-- Something that happens in a run. -/
inductive Event where
  /-- A line of the agent trace. -/
  | traced (line : String)
  /-- Someone asks to cancel the act. -/
  | cancelRequested
  /-- An act is handed to a dispatcher. -/
  | dispatched (act : Act)
  /-- A pause before the next attempt. -/
  | paused (duration : Duration)
  /-- The page is asked to settle. -/
  | settling (options : Program.SettleOptions)
  /-- The wait for the page to settle ends in time. -/
  | settled (answer : Except Program.Refusal Json)
  /-- The page is observed. -/
  | observing
  /-- The observation is there in time, or is refused. -/
  | observed (answer : Except Program.Refusal Planner.Observation)
  /-- The planner is asked for a program. -/
  | planning (request : String)
  /-- The planner answers in time. -/
  | answered (answer : Except Planner.Error Planner.Answer)
  /-- A step is recorded. -/
  | stepped (step : Act.Step)
  /-- An action is handed to the actuator. -/
  | acting (action : Program.Action)
  /-- The actuator is done with an action. -/
  | acted (answer : Except Program.Refusal Json)
  /-- The key of the channel was posted. -/
  | keyPosted (delivered : Bool)
  /-- A message is about to be posted under the key of the channel. -/
  | posting (message : Json)
  /-- The message was posted. -/
  | posted (message : Json) (delivered : Bool)
  /-- The browser was polled for an act, and this is what its messages made of the act. -/
  | polled (act : Act)
  /-- The browser is sent to an address. -/
  | navigated (url : String)

namespace Event

def line? : Event → Option String
  | .traced line => some line
  | _ => none

end Event

end BrowserAct.Course
