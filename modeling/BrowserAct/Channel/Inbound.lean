import BrowserAct.Channel.Envelope
import BrowserAct.Channel.Message

/-!
# Messages from the browser

A decrypted message is read as one of a few reports, most of which are operations on an act.

* **`Inbound.operation?`** is the operation that a report asks for.
-/

namespace BrowserAct.Channel

/-- How an act is reported to have ended. -/
inductive Completion where
  | success (result : String)
  | canceled
  /-- The whole response is kept. -/
  | failed (response : Json)

/-- A message from the browser. -/
inductive Inbound where
  | accepted
  | completion (completion : Completion)
  | step (message : Json)
  | tab (message : Json)
  | unknown (type : String)

namespace Completion

/-- A result as text: a string itself, nothing for none, and else the JSON text. -/
def resultText : Option Json → String
  | some (.string result) => result
  | some .null => ""
  | none => ""
  | some other => other.compress

def ofResponse (response : Json) : Except Error Completion :=
  match (response.get? "type").bind Json.asString? with
  | some "success" => .ok (.success (resultText (response.get? "result")))
  | some "canceled" => .ok .canceled
  | some "error" => .ok (.failed response)
  | type => .error (.unknownCompletion type)

def operation : Completion → Act.Operation
  | .success result => .complete result
  | .canceled => .cancel
  | .failed response => .fail response

end Completion

namespace Inbound

def parse (message : Json) : Except Error Inbound :=
  let type := typeOf message
  if type = Message.acceptedType then .ok .accepted
  else if type = Message.completionType then
    match message.get? "response" with
    | none => .error .missingResponse
    | some response => (Completion.ofResponse response).map .completion
  else if type = Message.stepType then .ok (.step message)
  else if type = Message.tabType then .ok (.tab message)
  else .ok (.unknown type)

/-- The operation that a message asks for, if it asks for one. -/
def operation? (inbound : Inbound) (now : Moment) : Except Act.StateError (Option Act.Operation) :=
  match inbound with
  | .accepted => .ok (some .acknowledge)
  | .completion c => .ok (some c.operation)
  | .step message => (Act.Step.ofMessage message now).map fun step => some (.addStep step)
  | .tab _ => .ok none
  | .unknown _ => .ok none

def isCompletion : Inbound → Bool
  | .completion _ => true
  | _ => false

end Inbound

/-- Reads a message as it comes in: the heartbeat says nothing, and all else is an envelope. -/
def receive (key : Key) (raw : Json) : Except Error (Option Inbound) :=
  if raw.asString? = some Message.heartbeat then .ok none
  else if raw.isObject then do
    let message ← decrypt key raw
    return some (← Inbound.parse message)
  else .error .notAnObject

end BrowserAct.Channel
