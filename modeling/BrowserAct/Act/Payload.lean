import BrowserAct.Json.Basic

/-!
# Failure payloads

A failed act keeps the payload it failed with. Payloads come from the service or are built on this
side; both are objects with a type, and the latter have one of three codes.
-/

namespace BrowserAct.Act.Payload

def serviceType : String := "NovaActService"

def clientType : String := "NovaActClient"

/-- The mark of a failure that the agent itself declared. -/
def agentError : String := "AGENT_ERROR"

def canceledText : String := "Canceled."

/-- The codes of failures on this side. -/
inductive ClientCode where
  | badResponse
  | maxStepsExceeded
  | actuationError
deriving DecidableEq

namespace ClientCode

def name : ClientCode → String
  | .badResponse => "BAD_RESPONSE"
  | .maxStepsExceeded => "MAX_STEPS_EXCEEDED"
  | .actuationError => "ACTUATION_ERROR"

def ofName? (name : String) : Option ClientCode :=
  if name = "BAD_RESPONSE" then some .badResponse
  else if name = "MAX_STEPS_EXCEEDED" then some .maxStepsExceeded
  else if name = "ACTUATION_ERROR" then some .actuationError
  else none

/-- A code is found by its name. -/
theorem ofName?_name (code : ClientCode) : ofName? code.name = some code := by
  cases code <;> rfl

end ClientCode

def client (code : ClientCode) (message : Option String) : Json :=
  .ofPresent
    [("type", some (.string clientType)), ("code", some (.string code.name)),
      ("message", message.map .string)]

/-- The payload of a task that the agent declared impossible. -/
def agent (message : String) : Json :=
  .ofFields
    [("type", .string serviceType), ("subErrorCode", .string agentError),
      ("error", .string message)]

end BrowserAct.Act.Payload
