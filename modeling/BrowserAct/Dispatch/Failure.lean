import BrowserAct.Act.Failure
import BrowserAct.Act.Basic

/-!
# Failures of dispatchers

A dispatcher fails with the view of its act, or, outside any act, of its session.
-/

namespace BrowserAct.Dispatch

/-- A failure of a dispatcher while it runs an act. -/
def actFailure (kind : Act.FailureKind) (act : Act) (message : String) : Act.Failure :=
  (Act.Failure.of kind act.metadata).withMessage message

def sessionFailure (kind : Act.FailureKind) (sessionId message : String) : Act.Failure :=
  (Act.Failure.of kind (.ofSession sessionId)).withMessage message

/-- The payload of an act that ran out of time on this side. -/
def timeOutPayload : Json :=
  .ofFields [("type", .string "NovaActClient"), ("error", .string "Act timed out")]

end BrowserAct.Dispatch
