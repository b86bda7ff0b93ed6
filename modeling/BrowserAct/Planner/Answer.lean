import BrowserAct.Act.Payload

/-!
# Answers of the planner

A step is answered with a program and a record of the step, or with the payload of a failure. It is
not answered at all where the request cannot be made or its answer cannot be used.
-/

namespace BrowserAct.Planner

/-- The answer to one step. -/
inductive Answer where
  /-- The next program and the message its step is built from. -/
  | program (source : String) (record : Json)
  /-- The service failed; the act fails with this payload. -/
  | failed (payload : Json)

/-- Why a step has no answer. -/
inductive Error where
  | missingApiKey
  | missingField (body field : String)
  | invalidRequest (detail : String)
  | invalidResponse (detail : String)
  /-- No response was received. -/
  | transport (detail : String)
deriving DecidableEq

namespace Error

def message : Error → String
  | .missingApiKey => "An API key is required to call the step endpoint"
  | .missingField body field => "Failed to step: " ++ body ++ " - response missing " ++ field
  | .invalidRequest detail => "Invalid plan request: " ++ detail
  | .invalidResponse detail => "Invalid step response: " ++ detail
  | .transport detail => "Step request failed: " ++ detail

/-- The payload that an act fails with. An endpoint that cannot be reached is a service that is not
available; anything else is a bad response. -/
def payload : Error → Json
  | .transport detail =>
    .ofFields
      [("type", .string Act.Payload.serviceType), ("code", .integer 503),
        ("message", .string detail)]
  | other => Act.Payload.client .badResponse (some other.message)

end Error

end BrowserAct.Planner
