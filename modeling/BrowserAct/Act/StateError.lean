/-!
# Refused changes of an act
-/

namespace BrowserAct.Act

/-- Why a change of an act is refused. -/
inductive StateError where
  /-- The act is complete; the operation that came too late is named. -/
  | alreadyComplete (actId operation : String)
  /-- A step has no screenshot. -/
  | missingScreenshot
  /-- A step has no program. -/
  | missingProgram
deriving DecidableEq

namespace StateError

def message : StateError → String
  | .alreadyComplete actId operation =>
    "Act " ++ actId ++ " is already complete; cannot " ++ operation
  | .missingScreenshot => "Invalid step: Screenshot is required"
  | .missingProgram => "Invalid step: Program body is required"

end StateError

end BrowserAct.Act
