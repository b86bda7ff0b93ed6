import BrowserAct.Channel.Envelope

/-!
# A browser played in the same program

The loopback stands in for the other side of a channel. It takes the key from the message that hands it
over, decrypts what is posted after that, and answers with the encrypted replies of a given behaviour.
-/

namespace BrowserAct.Channel

/-- The state of a loopback. -/
structure Loopback where
  key : Option Key
  /-- The messages that wait to be drained, first to last. -/
  queue : List Json
  /-- The decrypted messages received so far, first to last. -/
  received : List Json
  navigations : List String
  /-- How many messages were encrypted; each gets the next nonce. -/
  encryptedCount : Nat

namespace Loopback

def new : Loopback :=
  ⟨none, [], [], [], 0⟩

/-- The types of the received messages that have one. -/
def receivedTypes (l : Loopback) : List String :=
  l.received.filterMap fun message => (message.get? "type").bind Json.asString?

/-- The key, which has to be there before anything else. -/
def requireKey (l : Loopback) : Except Error Key :=
  match l.key with
  | some key => .ok key
  | none => .error (.transport "no key installed")

def pushRaw (l : Loopback) (message : Json) : Loopback :=
  { l with queue := l.queue ++ [message] }

variable (nonces : Nat → Cipher.Gcm.Nonce)

/-- Queues a message, encrypted with a key. -/
def enqueue (l : Loopback) (key : Key) (message : Json) : Loopback :=
  { l.pushRaw (encrypt key (nonces l.encryptedCount) message) with
    encryptedCount := l.encryptedCount + 1 }

/-- Queues a message, encrypted with the key of the loopback. -/
def push (l : Loopback) (message : Json) : Except Error Loopback :=
  l.requireKey.map fun key => l.enqueue nonces key message

/-- Takes the key from the message that hands it over. -/
def installKey (l : Loopback) (message : Json) : Except Error Loopback :=
  match (message.get? "key").bind Json.asString? with
  | none => .error .missingKey
  | some text => (Key.ofHex text).map fun key => { l with key := some key }

/-- Posts a message to the loopback, which behaves as `replies` says. -/
def post (replies : Json → List Json) (l : Loopback) (message : Json) : Except Error Loopback :=
  if (message.get? "type").bind Json.asString? = some Key.setKeyType then l.installKey message
  else do
    let key ← l.requireKey
    let text ← decrypt key message
    let heard := { l with received := l.received ++ [text] }
    return (replies text).foldl (fun l reply => l.enqueue nonces key reply) heard

def drain (l : Loopback) : List Json × Loopback :=
  (l.queue, { l with queue := [] })

def navigate (l : Loopback) (url : String) : Loopback :=
  { l with navigations := l.navigations ++ [url] }

end Loopback

end BrowserAct.Channel
