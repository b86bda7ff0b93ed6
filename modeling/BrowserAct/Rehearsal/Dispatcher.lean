import BrowserAct.Rehearsal.Report
import BrowserAct.Rehearsal.Site
import BrowserAct.Session.Client

/-!
# A scripted dispatcher

It ends each act as the script says next, and writes down what it was asked.
-/

namespace BrowserAct.Rehearsal

/-- The dispatcher so far. -/
structure Desk where
  /-- The outcomes that are left. -/
  outcomes : List Json
  /-- What was asked, latest first. -/
  log : List Json

namespace Desk

def note (fields : List (String × Json)) (c : Course Desk) : Course Desk :=
  let entry := Json.ofFields (fields ++ [("t", .integer (c.now / 1_000_000 : Nat))])
  { c with world := { c.world with log := entry :: c.world.log } }

def kinds : List Act.FailureKind :=
  [.timeout, .canceled, .agent, .guardrails, .model, .invalidInput, .rateLimit .unspecified, .auth,
    .notAuthorized, .serviceUnavailable, .internalServer, .badRequest, .protocol, .badResponse,
    .exceededMaxSteps, .dispatch, .actuation, .client]

def kindOf (name : String) : Act.FailureKind :=
  match name with
  | "daily" => .rateLimit .daily
  | "short" => .rateLimit .shortWindow
  | "unspecified" => .rateLimit .unspecified
  | _ => (kinds.find? fun kind => kind.name == name).getD .client

/-- Ends an act as the next entry of the script says. -/
def dispatch (act : Act) (c : Course Desk) : Act.Outcome × Act × Course Desk :=
  let r := act.request
  let c := note
    [("dispatch", .string r.prompt), ("act", .string act.id),
      ("endpoint_name", .string r.endpointName), ("session_id", .string r.sessionId),
      ("timeout", duration r.timeout), ("max_steps", .integer r.maxSteps),
      ("knobs", Report.knobs r.knobs)] c
  let entry := c.world.outcomes.head?.getD (.ofFields [("ok", .string "")])
  let c := { c with world := { c.world with outcomes := c.world.outcomes.drop 1 } }
  match entry.text? "error" with
  | some kind => (.error (Dispatch.actFailure (kindOf kind) act (entry.text "message")), act, c)
  | none =>
    let act := act.attempt (.complete (entry.text "ok")) c.now
    (.ok (.of (entry.text? "ok") act.metadata), act, c)

def settle (sessionId : String) (timeout : Option Duration) (c : Course Desk) :
    Except Act.Failure Unit × Course Desk :=
  (.ok (), note [("settle", .string sessionId), ("timeout", duration timeout)] c)

/-- Addresses that end in a certain way cannot be reached. -/
def goToUrl (url sessionId : String) (timeout : Option Duration) (c : Course Desk) :
    Except Act.Failure Unit × Course Desk :=
  let c := note [("goto", .string url)] c
  if url.endsWith "/fail" then (.error (Dispatch.sessionFailure .actuation sessionId ""), c)
  else settle sessionId timeout c

def dispatcher : Session.Dispatcher Desk where
  dispatch act c := some (dispatch act c)
  settle sessionId timeout c := some (settle sessionId timeout c)
  goToUrl url sessionId timeout c := some (goToUrl url sessionId timeout c)
  pause := Session.noMove

def shown (d : Desk) : Json :=
  .array d.log.reverse

def cleared (d : Desk) : Desk :=
  { d with log := [] }

end Desk

end BrowserAct.Rehearsal
