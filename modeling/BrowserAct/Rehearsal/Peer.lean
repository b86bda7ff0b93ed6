import BrowserAct.Dispatch.Extension.Link
import BrowserAct.Rehearsal.Site

/-!
# A scripted browser extension

The extension reads what is posted under the key it was given, answers by the rules of the script, and
keeps its answers until they are drained.
-/

namespace BrowserAct.Rehearsal

open Channel (Key)

def nonce (n : Nat) : Cipher.Gcm.Nonce :=
  ⟨0 :: 0 :: 0 :: 0 :: Cipher.Block.bytesOfWord (UInt64.ofNat n), rfl⟩

/-- The extension so far. -/
structure Peer where
  key : Option Key := none
  /-- The answers that wait. -/
  queue : List Json := []
  /-- What was noticed, latest first. -/
  log : List Json := []
  posts : Nat := 0
  drains : Nat := 0
  /-- How often each type of message was received. -/
  received : List (String × Nat) := []
  /-- How many answers were encrypted. -/
  encrypted : Nat := 0

namespace Peer

def note (p : Peer) (fields : List (String × Json)) (now : Moment) : Peer :=
  { p with log := .ofFields (fields ++ [("t", .integer (now / 1_000_000 : Nat))]) :: p.log }

def answer (p : Peer) (key : Key) (messages : List Json) : Peer :=
  messages.foldl (fun p message =>
    let envelope := Channel.encrypt key (nonce (2 * p.encrypted + 1)) message
    { p with queue := p.queue ++ [envelope], encrypted := p.encrypted + 1 }) p

def lost {α : Type} (text : String) : Except Channel.Error α :=
  .error (.transport text)

def count (p : Peer) (type : String) : Nat :=
  (p.received.lookup type).getD 0

/-- A message as it is noticed. The id of a request for a settled page is made up anew each time, so
the number of the request stands for it. -/
def numbered (p : Peer) (message : Json) : Json :=
  match message with
  | .object fields =>
    if message.text "type" == Channel.Message.settleType then
      let id := "<uuid:" ++ toString (p.count Channel.Message.settleType + 1) ++ ">"
      .object (Json.Fields.insert fields "uuid" (.string id))
    else message
  | _ => message

/-- Answers a message; whether a cancellation is requested with it. -/
def receive (script : Json) (key : Key) (message : Json) (p : Peer) : Peer × Bool :=
  let type := message.text "type"
  let count := p.count type + 1
  let p := { p with received := (type, count) :: p.received.filter (·.1 != type) }
  let rules := (script.items "on").filter fun rule =>
    rule.text "type" == type && (rule.natural? "nth").all (· == count)
  let p := p.answer key (rules.flatMap (·.items "replies"))
  ({ p with queue := p.queue ++ rules.flatMap (·.items "raw") }, rules.any (·.flag "cancel"))

def take (script : Json) (now : Moment) (message : Json) (p : Peer) :
    Reaction Peer (Except Channel.Error Unit) :=
  if message.text "type" == Key.setKeyType then
    match Key.ofHex (message.text "key") with
    | .error e => { answer := .error e, world := p }
    | .ok key =>
      let noticed := [("post", .string Key.setKeyType), ("has_key", .bool true)]
      { answer := .ok (), world := { p with key := some key }.note noticed now }
  else
    match p.key with
    | none => { answer := lost "no key installed", world := p }
    | some key =>
      match Channel.decrypt key message with
      | .error e => { answer := .error e, world := p }
      | .ok plain =>
        let (p, cancels) := (p.note [("post", embedded (p.numbered plain))] now).receive script key plain
        { answer := .ok (), world := p, cancels }

def post (script : Json) (now : Moment) (message : Json) (p : Peer) :
    Reaction Peer (Except Channel.Error Unit) :=
  let p := { p with posts := p.posts + 1 }
  if (script.items "post_errors").any (·.asNat64? == some p.posts) then
    { answer := lost ("post " ++ toString p.posts ++ " failed")
      world := p.note [("post", .string "failed")] now }
  else p.take script now message

/-- Applies the rules of one drain in order: whether a cancellation is requested, and what the drain
fails with, if it fails. -/
def applyRules : List Json → Peer → Bool → Peer × Bool × Option String
  | [], p, cancels => (p, cancels, none)
  | rule :: rest, p, cancels =>
    let pushed := match rule.items "push", p.key with
      | [], _ => some p
      | messages, some key => some (p.answer key messages)
      | _, none => none
    match pushed with
    | none => (p, cancels, some "no key installed")
    | some p =>
      let p := { p with queue := p.queue ++ rule.items "raw" }
      let cancels := cancels || rule.flag "cancel"
      match rule.text? "error" with
      | some text => (p, cancels, some text)
      | none => applyRules rest p cancels

def drain (script : Json) (_ : Moment) (p : Peer) :
    Reaction Peer (Except Channel.Error (List Json)) :=
  let p := { p with drains := p.drains + 1 }
  let rules := (script.items "drains").filter fun rule =>
    rule.natural? "n" == some p.drains || (rule.natural? "from").any (· ≤ p.drains)
  match applyRules rules p false with
  | (p, cancels, some text) => { answer := lost text, world := p, cancels }
  | (p, cancels, none) => { answer := .ok p.queue, world := { p with queue := [] }, cancels }

def navigate (script : Json) (now : Moment) (url : String) (p : Peer) :
    Reaction Peer (Except Channel.Error Unit) :=
  let world := p.note [("navigate", .string url)] now
  match script.text? "navigate_error" with
  | some text => { answer := lost text, world }
  | none => { answer := .ok (), world }

/-- The side of the browser as the script plays it, at once. -/
def surface (script : Json) : Dispatch.Extension.Surface Peer where
  post now message p := .atOnce (p.post script now message)
  drain now p := .atOnce (p.drain script now)
  navigate now url p := .atOnce (p.navigate script now url)

end Peer

/-- What the extension has noticed, with or without the times. -/
def shownLink (timed : Bool) (link : Dispatch.Extension.Link Peer) : Json :=
  let strip : Json → Json
    | .object fields => .object (if timed then fields else fields.filter (·.1 != "t"))
    | other => other
  .array (link.surface.log.reverse.map strip)

/-- The link without what the extension has noticed. -/
def clearedLink (link : Dispatch.Extension.Link Peer) : Dispatch.Extension.Link Peer :=
  { link with surface := { link.surface with log := [] } }

end BrowserAct.Rehearsal
