import BrowserAct.Channel.Loopback
import BrowserAct.Proofs.Channel.Handover
import Mathlib.Data.List.Forall2

/-!
# What passes through a loopback

A loopback is called in any order: messages are posted to it and pushed on it, its queue is drained, and
its key is replaced. What it queues comes out once and in order, in envelopes made with the key that was
installed when it was queued.

* **`Loopback.Effect`** is a call taken effect by effect, where what was done before a refusal stays
  done; **`Effect.outcome_call`** says that a refused call has done nothing.
* **`Loopback.Answered`** lists what can come of a call, **`call_eq_error_iff`** what is refused.
* **`Call.queued`**, **`Call.heard`** and **`Call.keyAfter`** are what a call asks for, told from the calls
  alone; **`Delivery.gains_run`** says that this is what becomes of a run.
* **`delivers`** puts them together for a new loopback.
-/

namespace BrowserAct.Channel

open Cipher (Gcm.Nonce)

/-! ## Entries -/

/-- What is queued: a message as it is, or in an envelope made with a key. -/
inductive Entry where
  | asIs (message : Json)
  | enclosed (key : Key) (message : Json)

namespace Entry

/-- A queued value stands for an entry. From an envelope comes what is read of the text of its message,
under the key it was made with, and nothing else. -/
def Holds : Entry → Json → Prop
  | .asIs message, queued => queued = message
  | .enclosed key message, queued =>
    ∀ opened, decrypt key queued = .ok opened ↔ Json.parse? message.compress = some opened

/-- A queued value gives its message back as it was. -/
def GivenBack : Entry → Json → Prop
  | .asIs message, queued => queued = message
  | .enclosed key message, queued => decrypt key queued = .ok message

/-- The message of an entry comes back from its own text, if it is enclosed. -/
def ComesBack : Entry → Prop
  | .asIs _ => True
  | .enclosed _ message => message.Standard ∧ message.depth ≤ Json.nestingLimit

/-- Messages are given back exactly if they come back from their own texts. -/
theorem Holds.givenBack_iff {entry : Entry} {queued : Json} (holds : entry.Holds queued) :
    entry.GivenBack queued ↔ entry.ComesBack := by
  cases entry with
  | asIs message => exact iff_of_true holds trivial
  | enclosed key message => exact (holds message).trans Json.parse?_compress_eq_self_iff

end Entry

namespace Loopback

/-! ## Calls -/

/-- A call on a loopback. A post brings along how the other side behaves at that moment, which may be
different each time. -/
inductive Call where
  | post (replies : Json → List Json) (message : Json)
  | push (message : Json)
  | pushRaw (message : Json)
  | drain
  | navigate (url : String)

/-- A message that hands over a key, or tries to. -/
def IsHandover (message : Json) : Prop :=
  message.get? "type" = some (.string Key.setKeyType)

theorem bind_asString?_eq_some_iff {j? : Option Json} {text : String} :
    j?.bind Json.asString? = some text ↔ j? = some (.string text) := by
  simp [Option.bind_eq_some_iff, Json.asString?_eq_some_iff]

instance (message : Json) : Decidable (IsHandover message) :=
  decidable_of_iff _ bind_asString?_eq_some_iff

variable (nonces : Nat → Gcm.Nonce)

/-- A loopback that has heard a message and queued the replies to it. -/
def answer (replies : Json → List Json) (l : Loopback) (key : Key) (text : Json) : Loopback :=
  (replies text).foldl (fun l reply => l.enqueue nonces key reply)
    { l with received := l.received ++ [text] }

/-- A handover is not opened. -/
theorem post_of_handover {message : Json} (handover : IsHandover message) (l : Loopback)
    (replies : Json → List Json) : l.post nonces replies message = l.installKey message :=
  if_pos (bind_asString?_eq_some_iff.mpr handover)

/-- Everything else needs the key, and is answered once it was opened. -/
theorem post_of_other {message : Json} (other : ¬ IsHandover message) (l : Loopback)
    (replies : Json → List Json) :
    l.post nonces replies message =
      l.requireKey.bind fun key => (decrypt key message).map (l.answer nonces replies key) := by
  rw [post, if_neg (mt bind_asString?_eq_some_iff.mp other)]
  rfl

/-- What comes of a call: what is drained, and the loopback after it. -/
def call (l : Loopback) : Call → Except Error (List Json × Loopback)
  | .post replies message => (l.post nonces replies message).map ([], ·)
  | .push message => (l.push nonces message).map ([], ·)
  | .pushRaw message => .ok ([], l.pushRaw message)
  | .drain => .ok l.drain
  | .navigate url => .ok ([], l.navigate url)

/-! ## Effect by effect -/

/-- Something that is done to a loopback. What was done before a refusal stays done. -/
abbrev Effect := ExceptT Error (StateM Loopback)

namespace Effect

variable {α β : Type}

def outcome (e : Effect α) (l : Loopback) : Except Error α × Loopback :=
  Id.run (e.run.run l)

def key : Effect Key := do
  ofExcept (← get).requireKey

def push (message : Json) : Effect Unit := do
  let key ← key
  modify fun l => l.enqueue nonces key message

def installKey (message : Json) : Effect Unit := do
  match (message.get? "key").bind Json.asString? with
  | none => throw .missingKey
  | some text =>
    let key ← ofExcept (Key.ofHex text)
    modify fun l => { l with key := some key }

/-- Hears a posted message. Each reply is pushed on its own, with the key that is there by then. -/
def hear (replies : Json → List Json) (message : Json) : Effect Unit := do
  let key ← key
  let text ← ofExcept (decrypt key message)
  modify fun l => { l with received := l.received ++ [text] }
  (replies text).forM (push nonces)

def call : Call → Effect (List Json)
  | .post replies message => do
    if IsHandover message then installKey message else hear nonces replies message
    return []
  | .push message => do
    push nonces message
    return []
  | .pushRaw message => do
    modify fun l => l.pushRaw message
    return []
  | .drain => do
    let (batch, rest) := (← get).drain
    set rest
    return batch
  | .navigate url => do
    modify fun l => l.navigate url
    return []

theorem outcome_bind (e : Effect α) (next : α → Effect β) (l : Loopback) :
    (e >>= next).outcome l =
      match e.outcome l with
      | (.ok a, after) => (next a).outcome after
      | (.error cause, after) => (.error cause, after) := by
  simp only [outcome, ExceptT.run_bind, StateT.run_bind, Id.run_bind]
  rcases (e.run.run l).run with ⟨_ | a, after⟩ <;> rfl

theorem outcome_ofExcept (result : Except Error α) (l : Loopback) :
    outcome (ofExcept result) l = (result, l) := by
  cases result <;> rfl

theorem outcome_modify (f : Loopback → Loopback) (l : Loopback) :
    outcome (modify f) l = (.ok (), f l) := rfl

theorem outcome_key (l : Loopback) : key.outcome l = (l.requireKey, l) :=
  outcome_ofExcept l.requireKey l

/-- With a key installed, nothing that is pushed is refused. -/
theorem outcome_push_of_key {l : Loopback} {key : Key} (installed : l.key = some key)
    (message : Json) :
    (push nonces message).outcome l = (.ok (), l.enqueue nonces key message) := by
  have there : l.requireKey = .ok key := by rw [requireKey, installed]
  rw [push, outcome_bind, outcome_key, there]
  rfl

/-- No reply is refused, as none of them takes the key away. -/
theorem outcome_forM_push {l : Loopback} {key : Key} (installed : l.key = some key)
    (messages : List Json) :
    (messages.forM (push nonces)).outcome l =
      (.ok (), messages.foldl (fun l message => l.enqueue nonces key message) l) := by
  induction messages generalizing l with
  | nil => rfl
  | cons message messages ih =>
    show (push nonces message >>= fun _ => messages.forM (push nonces)).outcome l = _
    rw [outcome_bind, outcome_push_of_key nonces installed]
    exact ih installed

end Effect

/-- A result as an outcome: where it is a refusal, everything is as it was. -/
def settle {α : Type} (l : Loopback) : Except Error (α × Loopback) → Except Error α × Loopback
  | .ok (a, next) => (.ok a, next)
  | .error cause => (.error cause, l)

namespace Effect

/-- Pushing, as an effect, is pushing. -/
theorem outcome_push (l : Loopback) (message : Json) :
    (push nonces message).outcome l = l.settle ((l.push nonces message).map ((), ·)) := by
  cases installed : l.key with
  | some key =>
    rw [outcome_push_of_key nonces installed, Loopback.push, requireKey, installed]
    rfl
  | none =>
    rw [push, outcome_bind, outcome_key, Loopback.push, requireKey, installed]
    rfl

theorem outcome_installKey (l : Loopback) (message : Json) :
    (installKey message).outcome l = l.settle ((l.installKey message).map ((), ·)) := by
  rw [installKey, Loopback.installKey]
  cases (message.get? "key").bind Json.asString? with
  | none => rfl
  | some text =>
    dsimp only
    rw [outcome_bind, outcome_ofExcept]
    cases Key.ofHex text <;> rfl

theorem outcome_hear {message : Json} (other : ¬ IsHandover message) (l : Loopback)
    (replies : Json → List Json) :
    (hear nonces replies message).outcome l =
      l.settle ((l.post nonces replies message).map ((), ·)) := by
  rw [hear, post_of_other nonces other, outcome_bind, outcome_key, requireKey]
  cases installed : l.key with
  | none => rfl
  | some key =>
    dsimp only [Except.bind]
    rw [outcome_bind, outcome_ofExcept]
    cases decrypt key message with
    | error cause => rfl
    | ok text =>
      -- from here on the message counts as heard, so the replies must not be refused
      have kept : ({ l with received := l.received ++ [text] } : Loopback).key = some key :=
        installed
      dsimp only
      rw [outcome_bind, outcome_modify]
      exact outcome_forM_push nonces kept (replies text)

/-- **Nothing is half done.** Effect by effect, a call comes to the same, and where it is refused,
everything is as it was. -/
theorem outcome_call (l : Loopback) (c : Call) :
    (call nonces c).outcome l = l.settle (l.call nonces c) := by
  cases c with
  | post replies message =>
    -- the two ways of a posted message go apart before it is looked into
    by_cases handover : IsHandover message
    · rw [call, if_pos handover, outcome_bind, outcome_installKey, Loopback.call,
        post_of_handover nonces handover]
      cases l.installKey message <;> rfl
    · rw [call, if_neg handover, outcome_bind, outcome_hear nonces handover, Loopback.call]
      cases l.post nonces replies message <;> rfl
  | push message =>
    rw [call, outcome_bind, outcome_push, Loopback.call]
    cases l.push nonces message <;> rfl
  | pushRaw message => rfl
  | drain => rfl
  | navigate url => rfl

end Effect

/-! ## What calls ask for -/

/-- The key that a message hands over. -/
def handedOver? (message : Json) : Option Key :=
  if IsHandover message then
    ((message.get? "key").bind Json.asString?).bind fun text => (Key.ofHex text).toOption
  else none

/-- What a posted message is opened to, with the key that opens it. -/
def opened? (key? : Option Key) (message : Json) : Option (Key × Json) :=
  if IsHandover message then none
  else key?.bind fun key => (decrypt key message).toOption.map fun text => (key, text)

namespace Call

/-- The key that is installed after a call. -/
def keyAfter (key? : Option Key) : Call → Option Key
  | .post _ message => (handedOver? message).or key?
  | .push _ | .pushRaw _ | .drain | .navigate _ => key?

/-- The messages that a call has the loopback hear. -/
def heard (key? : Option Key) : Call → List Json
  | .post _ message => ((opened? key? message).map Prod.snd).toList
  | .push _ | .pushRaw _ | .drain | .navigate _ => []

/-- What a call has the loopback queue. -/
def queued (key? : Option Key) : Call → List Entry
  | .post replies message =>
    match opened? key? message with
    | some (key, text) => (replies text).map (.enclosed key)
    | none => []
  | .push message => (key?.map fun key => Entry.enclosed key message).toList
  | .pushRaw message => [.asIs message]
  | .drain | .navigate _ => []

end Call

/-- The key that is installed after several calls. -/
def keyAfter (key? : Option Key) (calls : List Call) : Option Key :=
  calls.foldl Call.keyAfter key?

/-- What several calls ask for, each with the key that those before it leave installed. -/
def collect {α : Type} (part : Option Key → Call → List α) : Option Key → List Call → List α
  | _, [] => []
  | key?, c :: calls => part key? c ++ collect part (c.keyAfter key?) calls

/-- A call is refused while the given key is installed. -/
inductive Refused (key? : Option Key) : Call → Error → Prop where
  | noKeyToPush {message : Json} (missing : key? = none) :
    Refused key? (.push message) (.transport "no key installed")
  | noKeyToOpen {replies : Json → List Json} {message : Json} (other : ¬ IsHandover message)
      (missing : key? = none) :
    Refused key? (.post replies message) (.transport "no key installed")
  | notOpened {replies : Json → List Json} {message : Json} {key : Key} {cause : Error}
      (other : ¬ IsHandover message) (installed : key? = some key)
      (closed : decrypt key message = .error cause) :
    Refused key? (.post replies message) cause
  | noKeyText {replies : Json → List Json} {message : Json} (handover : IsHandover message)
      (missing : ∀ text, message.get? "key" ≠ some (.string text)) :
    Refused key? (.post replies message) .missingKey
  | badKeyText {replies : Json → List Json} {message : Json} {text : String} {cause : Error}
      (handover : IsHandover message) (written : message.get? "key" = some (.string text))
      (bad : Key.ofHex text = .error cause) :
    Refused key? (.post replies message) cause

section Asked

variable {key? : Option Key} {key : Key} {message : Json}

theorem bind_asString?_eq_none_iff {j? : Option Json} :
    j?.bind Json.asString? = none ↔ ∀ text, j? ≠ some (.string text) := by
  simp only [Option.eq_none_iff_forall_ne_some, ne_eq, bind_asString?_eq_some_iff]

/-- The key that is handed over is the one that the text stands for. -/
theorem handedOver?_of_text {text : String} (handover : IsHandover message)
    (written : message.get? "key" = some (.string text)) :
    handedOver? message = (Key.ofHex text).toOption := by
  rw [handedOver?, if_pos handover, written]
  rfl

theorem opened?_of_key (other : ¬ IsHandover message) (installed : key? = some key) :
    opened? key? message = (decrypt key message).toOption.map fun text => (key, text) := by
  rw [opened?, if_neg other, installed, Option.bind_some]

/-- A refused call asks for nothing. -/
theorem Refused.asks_nothing {c : Call} {cause : Error} (refused : Refused key? c cause) :
    c.keyAfter key? = key? ∧ c.queued key? = [] ∧ c.heard key? = [] := by
  -- a posted message that hands nothing over and cannot be opened asks for nothing
  have post (replies : Json → List Json) {message : Json} (kept : handedOver? message = none)
      (unopened : opened? key? message = none) :
      (Call.post replies message).keyAfter key? = key? ∧
        (Call.post replies message).queued key? = [] ∧
        (Call.post replies message).heard key? = [] := by
    simp [Call.keyAfter, Call.queued, Call.heard, kept, unopened]
  cases refused with
  | noKeyToPush missing =>
    subst missing
    exact ⟨rfl, rfl, rfl⟩
  | noKeyToOpen other missing =>
    exact post _ (if_neg other) (by rw [opened?, if_neg other, missing]; rfl)
  | notOpened other installed closed =>
    exact post _ (if_neg other) (by rw [opened?_of_key other installed, closed]; rfl)
  | noKeyText handover missing =>
    refine post _ ?_ (if_pos handover)
    rw [handedOver?, if_pos handover, bind_asString?_eq_none_iff.mpr missing]
    rfl
  | badKeyText handover written bad =>
    exact post _ (by rw [handedOver?_of_text handover written, bad]; rfl) (if_pos handover)

end Asked

/-! ## What comes of a call -/

/-- What can come of a call. -/
inductive Answered (l : Loopback) : Call → Except Error (List Json × Loopback) → Prop where
  | installs {replies : Json → List Json} {message : Json} {key : Key}
      (handed : handedOver? message = some key) (unopened : opened? l.key message = none) :
    Answered l (.post replies message) (.ok ([], { l with key := some key }))
  | hears {replies : Json → List Json} {message text : Json} {key : Key}
      (kept : handedOver? message = none) (opened : opened? l.key message = some (key, text)) :
    Answered l (.post replies message) (.ok ([], l.answer nonces replies key text))
  | pushes {message : Json} {key : Key} (installed : l.key = some key) :
    Answered l (.push message) (.ok ([], l.enqueue nonces key message))
  | pushesRaw (message : Json) : Answered l (.pushRaw message) (.ok ([], l.pushRaw message))
  | drains : Answered l .drain (.ok l.drain)
  | navigates (url : String) : Answered l (.navigate url) (.ok ([], l.navigate url))
  | refuses {c : Call} {cause : Error} (refused : Refused l.key c cause) :
    Answered l c (.error cause)

section Posts

variable {message : Json} (l : Loopback) (replies : Json → List Json)

/-- A handover installs its key or is refused. -/
theorem answered_handover (handover : IsHandover message) :
    Answered nonces l (.post replies message) (l.call nonces (.post replies message)) := by
  rw [call, post_of_handover nonces handover, installKey]
  cases found : (message.get? "key").bind Json.asString? with
  | none => exact .refuses (.noKeyText handover (bind_asString?_eq_none_iff.mp found))
  | some text =>
    have written := bind_asString?_eq_some_iff.mp found
    dsimp only
    cases read : Key.ofHex text with
    | error cause => exact .refuses (.badKeyText handover written read)
    | ok key =>
      have handed : handedOver? message = some key := by
        rw [handedOver?_of_text handover written, read]
        rfl
      exact .installs handed (if_pos handover)

/-- Another message is heard or refused. -/
theorem answered_other (other : ¬ IsHandover message) :
    Answered nonces l (.post replies message) (l.call nonces (.post replies message)) := by
  rw [call, post_of_other nonces other, requireKey]
  cases installed : l.key with
  | none => exact .refuses (.noKeyToOpen other installed)
  | some key =>
    dsimp only [Except.bind]
    cases decrypted : decrypt key message with
    | error cause => exact .refuses (.notOpened other installed decrypted)
    | ok text =>
      have opened : opened? l.key message = some (key, text) := by
        rw [opened?_of_key other installed, decrypted]
        rfl
      exact .hears (if_neg other) opened

end Posts

/-- Every call has one of these answers. -/
theorem answered_call (l : Loopback) (c : Call) : Answered nonces l c (l.call nonces c) := by
  cases c with
  | post replies message =>
    by_cases handover : IsHandover message
    · exact answered_handover nonces l replies handover
    · exact answered_other nonces l replies handover
  | push message =>
    rw [call, push, requireKey]
    cases installed : l.key with
    | none => exact .refuses (.noKeyToPush installed)
    | some key => exact .pushes installed
  | pushRaw message => exact .pushesRaw message
  | drain => exact .drains
  | navigate url => exact .navigates url

/-- **What is refused**, and with which cause. -/
theorem call_eq_error_iff {l : Loopback} {c : Call} {cause : Error} :
    l.call nonces c = .error cause ↔ Refused l.key c cause := by
  constructor
  · intro failed
    have answered := answered_call nonces l c
    rw [failed] at answered
    cases answered with
    | refuses refused => exact refused
  -- the other way round, each cause is where its check stands
  · intro refused
    cases refused with
    | noKeyToPush missing =>
      rw [call, push, requireKey, missing]
      rfl
    | noKeyToOpen other missing =>
      rw [call, post_of_other nonces other, requireKey, missing]
      rfl
    | notOpened other installed closed =>
      rw [call, post_of_other nonces other, requireKey, installed]
      dsimp only [Except.bind]
      rw [closed]
      rfl
    | noKeyText handover missing =>
      rw [call, post_of_handover nonces handover, installKey, bind_asString?_eq_none_iff.mpr missing]
      rfl
    | badKeyText handover written bad =>
      rw [call, post_of_handover nonces handover, installKey,
        bind_asString?_eq_some_iff.mpr written]
      dsimp only
      rw [bad]
      rfl

/-! ## Runs -/

/-- A loopback, and all that was drained from it, first to last. -/
structure Delivery where
  loopback : Loopback
  drained : List Json

namespace Delivery

def start : Delivery := ⟨.new, []⟩

/-- All that was queued: what was drained, and what still waits. -/
def passed (d : Delivery) : List Json :=
  d.drained ++ d.loopback.queue

/-- What is there after a call; one that is refused changes nothing. -/
def after (d : Delivery) (c : Call) : Delivery :=
  match d.loopback.call nonces c with
  | .ok (batch, next) => ⟨next, d.drained ++ batch⟩
  | .error _ => d

def run (d : Delivery) (calls : List Call) : Delivery :=
  calls.foldl (after nonces) d

/-- What is queued and heard in addition. -/
structure Gains (d next : Delivery) (entries : List Entry) (texts : List Json) : Prop where
  passed : ∃ added, next.passed = d.passed ++ added ∧ List.Forall₂ Entry.Holds entries added
  received : next.loopback.received = d.loopback.received ++ texts

section Gains

variable {d middle next : Delivery} {entries later : List Entry} {texts laterTexts : List Json}

/-- Nothing is gained where the same was queued and heard. -/
theorem gains_nothing (passed : next.passed = d.passed)
    (received : next.loopback.received = d.loopback.received) : d.Gains next [] [] :=
  ⟨⟨[], by rw [passed, List.append_nil], .nil⟩, by rw [received, List.append_nil]⟩

/-- What two parts of a run gain is gained one after the other. -/
theorem Gains.trans (first : d.Gains middle entries texts)
    (second : middle.Gains next later laterTexts) :
    d.Gains next (entries ++ later) (texts ++ laterTexts) := by
  obtain ⟨⟨added, passed, holds⟩, received⟩ := first
  obtain ⟨⟨more, passedMore, holdsMore⟩, receivedMore⟩ := second
  refine ⟨⟨added ++ more, ?_, List.rel_append holds holdsMore⟩, ?_⟩
  · rw [passedMore, passed, List.append_assoc]
  · rw [receivedMore, received, List.append_assoc]

end Gains

section Answers

variable (l : Loopback) (drained : List Json) (key : Key)

theorem gains_pushRaw (message : Json) :
    Gains ⟨l, drained⟩ ⟨l.pushRaw message, drained⟩ [.asIs message] [] :=
  ⟨⟨[message], (List.append_assoc ..).symm, .cons rfl .nil⟩, (List.append_nil _).symm⟩

theorem gains_enqueue (message : Json) :
    Gains ⟨l, drained⟩ ⟨l.enqueue nonces key message, drained⟩ [.enclosed key message] [] := by
  have holds : (Entry.enclosed key message).Holds
      (encrypt key (nonces l.encryptedCount) message) := fun _ => decrypt_encrypt_eq_ok_iff
  exact ⟨⟨_, (List.append_assoc ..).symm, .cons holds .nil⟩, (List.append_nil _).symm⟩

/-- Several are, in their order. -/
theorem gains_foldl_enqueue (messages : List Json) :
    Gains ⟨l, drained⟩ ⟨messages.foldl (fun l message => l.enqueue nonces key message) l, drained⟩
      (messages.map (.enclosed key)) [] := by
  induction messages generalizing l with
  | nil => exact gains_nothing rfl rfl
  | cons message messages ih => exact (gains_enqueue nonces l drained key message).trans (ih _)

/-- A message is heard, and its answers are queued. -/
theorem gains_answer (replies : Json → List Json) (text : Json) :
    Gains ⟨l, drained⟩ ⟨l.answer nonces replies key text, drained⟩
      ((replies text).map (.enclosed key)) [text] := by
  have heard : Gains ⟨l, drained⟩ ⟨{ l with received := l.received ++ [text] }, drained⟩ [] [text] :=
    ⟨⟨[], (List.append_nil _).symm, .nil⟩, rfl⟩
  exact heard.trans (gains_foldl_enqueue nonces _ drained key (replies text))

/-- What is drained was gained before. -/
theorem gains_drain : Gains ⟨l, drained⟩ ⟨l.drain.2, drained ++ l.drain.1⟩ [] [] :=
  gains_nothing (List.append_nil _) rfl

/-- Answering does not change the key. -/
theorem key_answer (replies : Json → List Json) (text : Json) :
    (l.answer nonces replies key text).key = l.key := by
  have kept (messages : List Json) (l : Loopback) :
      (messages.foldl (fun l message => l.enqueue nonces key message) l).key = l.key := by
    induction messages generalizing l with
    | nil => rfl
    | cons message messages ih => exact ih _
  exact kept (replies text) _

end Answers

/-- **One call** gains what it asks for with the key that is installed. -/
theorem gains_after (d : Delivery) (c : Call) :
    d.Gains (d.after nonces c) (c.queued d.loopback.key) (c.heard d.loopback.key) ∧
      (d.after nonces c).loopback.key = c.keyAfter d.loopback.key := by
  obtain ⟨l, drained⟩ := d
  have answered := answered_call nonces l c
  rw [after]
  dsimp only
  generalize l.call nonces c = answer at answered ⊢
  -- one case for each answer that a call can have
  cases answered with
  | installs handed unopened =>
    simp only [Call.queued, Call.heard, Call.keyAfter, handed, unopened, List.append_nil]
    exact ⟨gains_nothing rfl rfl, rfl⟩
  | hears kept opened =>
    simp only [Call.queued, Call.heard, Call.keyAfter, kept, opened, List.append_nil]
    exact ⟨gains_answer nonces l drained _ _ _, key_answer nonces l _ _ _⟩
  | pushes installed =>
    simp only [Call.queued, Call.heard, Call.keyAfter, installed, List.append_nil]
    exact ⟨gains_enqueue nonces l drained _ _, installed⟩
  | pushesRaw message =>
    simp only [List.append_nil]
    exact ⟨gains_pushRaw l drained message, rfl⟩
  | drains => exact ⟨gains_drain l drained, rfl⟩
  | navigates url =>
    simp only [List.append_nil]
    exact ⟨gains_nothing rfl rfl, rfl⟩
  | refuses refused =>
    -- what is refused asks for nothing, and there is nothing to gain
    obtain ⟨key, queued, heard⟩ := refused.asks_nothing
    dsimp only
    rw [queued, heard]
    exact ⟨gains_nothing rfl rfl, key.symm⟩

/-- **A run** gains what its calls ask for, each with the key that those before it leave installed. -/
theorem gains_run (d : Delivery) (calls : List Call) :
    d.Gains (d.run nonces calls) (collect Call.queued d.loopback.key calls)
        (collect Call.heard d.loopback.key calls) ∧
      (d.run nonces calls).loopback.key = Loopback.keyAfter d.loopback.key calls := by
  induction calls generalizing d with
  | nil => exact ⟨gains_nothing rfl rfl, rfl⟩
  | cons c calls ih =>
    obtain ⟨gains, key⟩ := gains_after nonces d c
    -- the calls that follow find the key that this one leaves
    obtain ⟨later, last⟩ := ih (d.after nonces c)
    rw [key] at later last
    exact ⟨gains.trans later, last⟩

/-- What a new loopback has queued and heard after any calls. -/
theorem gains_start (calls : List Call) :
    List.Forall₂ Entry.Holds (collect Call.queued none calls) (start.run nonces calls).passed ∧
      (start.run nonces calls).loopback.received = collect Call.heard none calls ∧
      (start.run nonces calls).loopback.key = Loopback.keyAfter none calls := by
  obtain ⟨⟨⟨added, passed, holds⟩, received⟩, key⟩ := gains_run nonces start calls
  rw [passed]
  exact ⟨holds, received, key⟩

end Delivery

/-- **Nothing is lost, doubled or reordered.** After any calls on a new loopback, what was drained and
what still waits are, one by one and in order, the messages that were pushed and the replies, those that
were not pushed as they are in envelopes made with the key installed at that time. An envelope gives
back what is read of the text of its message; this is the message itself exactly if it is standard and
nested no deeper than the reader goes. What was heard are the posted envelopes that the key installed at
that time opened, in order. Calls are refused for want of a key, for a bad text of a key, and for a
message that is not opened, and a refused call has done nothing. -/
theorem delivers (calls : List Call) :
    let d := Delivery.start.run nonces calls
    let entries := collect Call.queued none calls
    List.Forall₂ Entry.Holds entries d.passed ∧
    List.Forall₂ (fun entry queued => entry.GivenBack queued ↔ entry.ComesBack) entries d.passed ∧
    d.loopback.received = collect Call.heard none calls ∧
    d.loopback.key = keyAfter none calls ∧
    (∀ c cause, d.loopback.call nonces c = .error cause ↔ Refused (keyAfter none calls) c cause) ∧
    ∀ c, (Effect.call nonces c).outcome d.loopback = d.loopback.settle (d.loopback.call nonces c) := by
  intro d entries
  obtain ⟨holds, received, key⟩ := Delivery.gains_start nonces calls
  refine ⟨holds, holds.imp fun _ _ one => one.givenBack_iff, received, key, fun c cause => ?_,
    fun c => Effect.outcome_call nonces d.loopback c⟩
  rw [← key]
  exact call_eq_error_iff nonces

end Loopback

namespace Sample

/-- Three times ten to the twenty-five. -/
def amount : Decimal.Binary64 := .ofDecimal false 3 25

/-- A key is handed over, a number is pushed, and the queue is drained. -/
def amountPushed : List Loopback.Call :=
  [.post (fun _ => []) ones.setKeyMessage, .push (.float amount), .drain]

/-- The number is written as `3e+25`, and this is read as the number that follows it. -/
theorem amount_not_standard : ¬ (Json.float amount).Standard := by
  have written : Json.numberLayout.write amount = "3e+25".toList := by decide +kernel
  have read : Json.number? "3e+25".toList =
      some (.float ((Decimal.Binary64.ofInt 3).mul (.ofDecimal false 1 25))) := by rfl
  have other : (Decimal.Binary64.ofInt 3).mul (.ofDecimal false 1 25) ≠ amount := by decide +kernel
  intro standard
  rw [Json.Standard, Json.ReadsBack, written, read] at standard
  exact other (Json.float.inj (Option.some.inj standard))

/-- What comes out is another number than the one that was pushed. -/
theorem amount_not_given_back :
    ¬ List.Forall₂ Entry.GivenBack (Loopback.collect Loopback.Call.queued none amountPushed)
      (Loopback.Delivery.start.run (fun _ => twos) amountPushed).passed := by
  have handover : Loopback.IsHandover ones.setKeyMessage := Json.get?_ofFields_cons _ (by simp)
  have handed : Loopback.handedOver? ones.setKeyMessage = some ones := by
    rw [Loopback.handedOver?_of_text handover ones.get?_setKeyMessage, ones.ofHex_toHex]
    rfl
  have unopened : Loopback.opened? none ones.setKeyMessage = none := if_pos handover
  have entries : Loopback.collect Loopback.Call.queued none amountPushed =
      [.enclosed ones (.float amount)] := by
    simp [amountPushed, Loopback.collect, Loopback.Call.queued, Loopback.Call.keyAfter, handed,
      unopened]
  -- the run holds exactly what was asked for, and this amount is given back as another one
  have holds := (Loopback.Delivery.gains_start (fun _ => twos) amountPushed).1
  intro givenBack
  rw [entries] at holds givenBack
  cases givenBack with
  | cons first _ =>
    cases holds with
    | cons holds _ => exact amount_not_standard (holds.givenBack_iff.mp first).1

end Sample

end BrowserAct.Channel
