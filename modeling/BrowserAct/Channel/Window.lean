import BrowserAct.Channel.Inbound

/-!
# The window

Messages from the browser count for what is bound to the window: an act, a page that is to settle, or
nothing. While a bound act is open nothing else can be bound.

* **`Binding.handle`** applies one message to what is bound, **`Binding.handleAll`** several.
-/

namespace BrowserAct.Channel

/-- What is bound to the window. -/
inductive Binding where
  | idle
  /-- An act; it is open until its completion came in. -/
  | act (id : String) (isOpen : Bool)
  | page (sessionId : String) (settled : Bool)
deriving DecidableEq

namespace Binding

def openAct? : Binding → Option String
  | .act id true => some id
  | _ => none

def actId? : Binding → Option String
  | .act id _ => some id
  | _ => none

def pageSettled? : Binding → Option Bool
  | .page _ settled => some settled
  | _ => none

/-- Binds an act. The open act that is bound can be bound again. -/
def bind (b : Binding) (act : Act) : Except Error Binding :=
  if act.isComplete then .error .completedAct
  else
    match b.openAct? with
    | some id => if id = act.id then .ok (.act act.id true) else .error (.actInProgress id)
    | none => .ok (.act act.id true)

def bindPage (b : Binding) (sessionId : String) (settled : Bool) : Except Error Binding :=
  if settled then .error .settledPage
  else
    match b.openAct? with
    | some id => .error (.actInProgress id)
    | none => .ok (.page sessionId false)

/-- Applies a message to the bound act. A completion closes it. -/
def applyToAct (id : String) (isOpen : Bool) (inbound : Inbound) (act : Act) (now : Moment) :
    Except Error (Binding × Act) :=
  match inbound.operation? now with
  | .error cause => .error (.actState cause)
  | .ok none => .ok (.act id isOpen, act)
  | .ok (some operation) =>
    match act.apply operation now with
    -- the binding is closed only with the act, so a refused completion leaves both as they are
    | .error cause => .error (.actState cause)
    | .ok act => .ok (.act id (isOpen && !inbound.isCompletion), act)

/-- Applies a message while an act is at hand. A bound act is changed only if it is that act. -/
def apply (b : Binding) (inbound : Inbound) (act : Act) (now : Moment) :
    Except Error (Binding × Act) :=
  match b with
  | .idle => .ok (.idle, act)
  | .page sessionId settled => .ok (.page sessionId (settled || inbound.isCompletion), act)
  | .act id isOpen =>
    if act.id = id then applyToAct id isOpen inbound act now else .ok (.act id isOpen, act)

/-- Applies a message while no act is at hand. Only a bound page can take it in. -/
def applyAlone (b : Binding) (inbound : Inbound) : Binding :=
  match b with
  | .page sessionId settled => .page sessionId (settled || inbound.isCompletion)
  | other => other

/-- Handles a message as it comes in, while an act is at hand. -/
def handle (b : Binding) (key : Key) (raw : Json) (act : Act) (now : Moment) :
    Except Error (Binding × Act) :=
  match receive key raw with
  | .error e => .error e
  | .ok none => .ok (b, act)
  | .ok (some inbound) => b.apply inbound act now

/-- Handles a message as it comes in, while no act is at hand. -/
def handleAlone (b : Binding) (key : Key) (raw : Json) : Except Error Binding :=
  match receive key raw with
  | .error e => .error e
  | .ok none => .ok b
  | .ok (some inbound) => .ok (b.applyAlone inbound)

/-- Takes in a message while an act is at hand; one that is refused changes nothing. -/
def take (key : Key) (now : Moment) (state : Binding × Act) (raw : Json) : Binding × Act :=
  match state.1.handle key raw state.2 now with
  | .ok state => state
  | .error _ => state

def handleAll (key : Key) (now : Moment) (state : Binding × Act) (messages : List Json) :
    Binding × Act :=
  messages.foldl (take key now) state

/-- Handles messages one after the other, while no act is at hand. -/
def handleAllAlone (key : Key) (b : Binding) (messages : List Json) : Binding :=
  messages.foldl
    (fun b raw =>
      match b.handleAlone key raw with
      | .ok b => b
      | .error _ => b)
    b

end Binding

end BrowserAct.Channel
