import BrowserAct.Schema.Basic
import BrowserAct.Session.Answer
import BrowserAct.Session.Config.Basic
import BrowserAct.Session.Dispatcher
import BrowserAct.Session.Input

/-!
# Clients

A client is one session with a browser. Acts are checked, handed to the dispatcher, and tried again
when a short-term rate limit was reached.

* **`Client.act`** carries out one instruction.
* **`Client.attempts`** is the loop over its attempts, each with a new act.
-/

namespace BrowserAct

namespace Session

/-- What can go wrong in a session. -/
inductive Error where
  | notStarted
  | input (cause : InputError)
  | config (cause : ConfigError)
  | act (failure : Act.Failure)

def Error.message : Error → String
  | .notStarted => "Client is not started. Run start() before calling act()."
  | .input cause => cause.message
  | .config cause => cause.message
  | .act failure => failure.render

/-- How often an act is tried when a short-term rate limit is reached. -/
structure RateLimitRetry where
  /-- The number of attempts, the first included. -/
  tries : Nat := 2
  delay : Duration := 5 * 1_000_000_000
deriving DecidableEq

/-- What is asked of one act besides its prompt. -/
structure Options where
  timeout : Option Duration
  maxSteps : Option Nat
  /-- The schema of the answer. -/
  schema : Option Json
  /-- The endpoint of this act, if it is not that of the session. -/
  endpointName : Option String
  knobs : Act.ModelKnobs

/-- What is fixed for a session. -/
structure Client where
  trace : Trace
  endpointName : String := defaultEndpoint
  retry : RateLimitRetry := {}
  /-- Whether the session runs in a terminal, where a user can interrupt it. -/
  terminal : Bool := false
  /-- The id of each act by its number. -/
  actIds : Nat → String

/-- A session on its way. -/
structure State (σ : Type) where
  started : Bool
  /-- The number of acts so far. -/
  actCount : Nat
  course : Course σ

def State.new {σ : Type} (world : σ) : State σ :=
  ⟨false, 0, .start world⟩

namespace Client

variable {σ : Type}

def note (client : Client) (text : String) (s : State σ) : State σ :=
  { s with course := s.course.trace [client.trace.line text] }

/-! ## Start and end -/

def start (client : Client) (s : State σ) : State σ :=
  if s.started then s else client.note "start session" { s with started := true }

/-- Ends the session, and with it an act that is on its way. -/
def stop (client : Client) (s : State σ) : State σ :=
  if s.started then
    client.note "end session" { s with started := false, course := s.course.requestCancel }
  else s

def interrupt (client : Client) (s : State σ) : State σ :=
  if s.started && client.terminal then { s with course := s.course.requestCancel } else s

/-! ## Acts -/

/-- An act that passed all checks. -/
structure Order where
  request : Act.Request
  schema : Option Schema

/-- The schema that is asked for, if one is. -/
def readSchema : Option Json → Except InputError (Option Schema)
  | none => .ok none
  | some document =>
    match Schema.ofJson? document with
    | some schema => .ok (some schema)
    | none => .error .schema

def prepare (client : Client) (prompt : String) (options : Options) : Except InputError Order := do
  checkTimeout options.timeout
  checkPrompt prompt
  checkStepLimit options.maxSteps
  let endpointName := options.endpointName.getD client.endpointName
  checkParameter "endpoint_name" endpointName
  let schema ← readSchema options.schema
  let prompt := match options.schema with
    | some document => promptWithSchema prompt document
    | none => prompt
  return {
    schema
    request := {
      prompt, sessionId := client.trace.sessionId, endpointName, timeout := options.timeout
      maxSteps := options.maxSteps.getD Act.defaultMaxSteps, knobs := options.knobs } }

/-- One attempt, with a new act. -/
def attempt (client : Client) (d : Dispatcher σ) (request : Act.Request) (s : State σ) :
    Option (Act.Outcome × State σ) := do
  let act := Act.new (client.actIds s.actCount) request s.course.now
  let s := client.note ("act(\"" ++ request.prompt ++ "\")") s
  let (outcome, _, course) ← d.dispatch act (s.course.log (.dispatched act))
  return (outcome, { s with actCount := s.actCount + 1, course })

/-- Whether an act failed at a short-term rate limit. -/
def isShortTermLimit : Act.Outcome → Bool
  | .error failure => failure.kind == .rateLimit .shortWindow
  | .ok _ => false

def pause (client : Client) (d : Dispatcher σ) (s : State σ) : State σ :=
  let c := s.course.log (.paused client.retry.delay)
  let p : Pending σ Unit :=
    ⟨{ answer := (), world := c.world }, client.retry.delay, d.pause client.retry.delay c.world⟩
  { s with course := (c.await p).2 }

/-- One attempt, and up to so many more. -/
def attempts (client : Client) (d : Dispatcher σ) (request : Act.Request) :
    Nat → State σ → Option (Act.Outcome × State σ)
  | 0, s => client.attempt d request s
  | more + 1, s =>
    match client.attempt d request s with
    | none => none
    | some (outcome, s) =>
      -- no other failure is worth another attempt, and the last attempt is not paused after
      if isShortTermLimit outcome then attempts client d request more (client.pause d s)
      else some (outcome, s)

def conclude (schema : Option Schema) (outcome : Act.Outcome) : Except Error Act.Result :=
  match outcome, schema with
  | .error failure, _ => .error (.act failure)
  | .ok result, some schema => .ok (result.withForm schema.accepts)
  | .ok result, none => .ok result

def act (client : Client) (d : Dispatcher σ) (prompt : String) (options : Options) (s : State σ) :
    Option (Except Error Act.Result × State σ) :=
  if !s.started then some (.error .notStarted, s)
  else
    match client.prepare prompt options with
    | .error cause => some (.error (.input cause), s)
    | .ok order =>
      (client.attempts d order.request (client.retry.tries - 1) s).map fun (outcome, s) =>
        (conclude order.schema outcome, s)

/-! ## Pages -/

/-- What a user gets of an operation on the page. -/
def concludePage (s : State σ) :
    Except Act.Failure Unit × Course σ → Except Error Unit × State σ
  | (.ok _, course) => (.ok (), { s with course })
  | (.error failure, course) => (.error (.act failure), { s with course })

/-- Sends the browser to an address and waits for the page to settle. -/
def goToUrl (client : Client) (d : Dispatcher σ) (url : String) (timeout : Option Duration)
    (s : State σ) : Option (Except Error Unit × State σ) :=
  if !s.started then some (.error .notStarted, s)
  else
    match checkUrl url with
    | .error cause => some (.error (.input cause), s)
    | .ok _ =>
      (d.goToUrl url client.trace.sessionId timeout s.course).map (concludePage s)

def settle (client : Client) (d : Dispatcher σ) (timeout : Option Duration) (s : State σ) :
    Option (Except Error Unit × State σ) :=
  if !s.started then some (.error .notStarted, s)
  else (d.settle client.trace.sessionId timeout s.course).map (concludePage s)

end Client

end Session

end BrowserAct
