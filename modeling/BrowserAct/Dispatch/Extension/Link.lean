import BrowserAct.Channel.Window
import BrowserAct.Course.Basic
import BrowserAct.Course.Until
import BrowserAct.Service
import BrowserAct.Trace

/-!
# The link to the browser extension

The extension in the browser is reached by posting messages and draining its answers. The key of the
channel is posted first and once; all else travels in envelopes. Failed deliveries are not
reported: whoever waits for an answer waits in vain.
-/

namespace BrowserAct.Dispatch.Extension

open Channel (Key Binding)

variable {σ : Type}

/-- The side of the browser. Each of its moves can take time. -/
structure Surface (σ : Type) where
  post : Moment → Json → σ → Pending σ (Except Channel.Error Unit)
  drain : Moment → σ → Pending σ (Except Channel.Error (List Json))
  navigate : Moment → String → σ → Pending σ (Except Channel.Error Unit)

/-- How often to poll, and how long to wait for what. -/
structure Timings where
  pollInterval : Duration := 100 * 1_000_000
  /-- How long to wait for a prompt to be accepted or a cancellation to be confirmed. -/
  ackTimeout : Duration := 30 * 1_000_000_000
  retryDelay : Duration := 2 * 1_000_000_000
  retryTries : Nat := 5
  settleTimeout : Duration := 15 * 1_000_000_000
deriving DecidableEq

/-- What is fixed for a session. -/
structure Settings where
  service : Service
  apiKey : String
  credentials : Option Channel.AwsCredentials
  key : Key
  /-- The nonce of each envelope by its number. -/
  nonces : Nat → Cipher.Gcm.Nonce
  /-- The id of each request for a settled page by its number. -/
  settleIds : Nat → String
  timings : Timings
  /-- Whether a prompt that is not accepted is posted again. -/
  retry : Bool
  trace : Trace

/-- The two sides of the link. -/
structure Link (σ : Type) where
  surface : σ
  keyInstalled : Bool
  binding : Binding
  /-- The number of envelopes so far. -/
  envelopeCount : Nat
  /-- The number of requests for a settled page so far. -/
  settleCount : Nat

def Link.new (surface : σ) : Link σ :=
  ⟨surface, false, .idle, 0, 0⟩

/-- Waits for a move of the other side, which knows nothing of the rest of the link. -/
def await {α : Type} (c : Course (Link σ)) (move : σ → Pending σ α) : α × Course (Link σ) :=
  c.await ((move c.world.surface).lift fun surface => { c.world with surface })

def rebind (c : Course (Link σ)) (binding : Binding) : Course (Link σ) :=
  { c with world := { c.world with binding } }

def succeeded {ε α : Type} : Except ε α → Bool
  | .ok _ => true
  | .error _ => false

/-- Posts the key, unless it was delivered before. -/
def installKey (surface : Surface σ) (settings : Settings) (c : Course (Link σ)) :
    Except Channel.Error Unit × Course (Link σ) :=
  if c.world.keyInstalled then (.ok (), c)
  else
    let (answer, after) := await c (surface.post c.now settings.key.setKeyMessage)
    let after := after.log (.keyPosted (succeeded answer))
    (answer, { after with world := { after.world with keyInstalled := succeeded answer } })

def post (surface : Surface σ) (settings : Settings) (message : Json) (c : Course (Link σ)) :
    Course (Link σ) :=
  let n := c.world.envelopeCount
  let envelope := Channel.encrypt settings.key (settings.nonces n) message
  let c := { c with world := { c.world with envelopeCount := n + 1 } }
  let (answer, after) := await (c.log (.posting message)) (surface.post c.now envelope)
  after.log (.posted message (succeeded answer))

/-- The messages that wait after a poll interval; none if they cannot be fetched. -/
def fetch (surface : Surface σ) (settings : Settings) (c : Course (Link σ)) :
    List Json × Course (Link σ) :=
  -- what comes in during the interval is drained at its end
  let c := c.advance settings.timings.pollInterval
  match await c (surface.drain c.now) with
  | (.ok messages, c) => (messages, c)
  | (.error _, c) => ([], c)

end BrowserAct.Dispatch.Extension
