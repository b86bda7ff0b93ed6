import BrowserAct.Proofs.Channel.RoundTrip
import BrowserAct.Proofs.Dispatch.Extension.Log

/-!
# What is posted to the extension

Only two functions post: the key is handed over as it is, and everything else goes into an envelope. The
transport can keep a record of what it is given, and then the record tells what a dispatcher posts.

* **`Surface.recording`** is the same side of the browser with such a record, **`posted`** the record.
* **`KeyFirst`** says of a record that the key comes first, and **`keyFirst_dispatchWithin`** that
  acts keep it so.
-/

namespace BrowserAct.Dispatch.Extension

open Channel (Key)

variable {σ : Type}

/-! ## The record -/

/-- What was posted, with whether it was delivered, latest first. -/
abbrev Posts := List (Json × Bool)

/-- The same side of the browser with a record of all that is posted. -/
def Surface.recording (surface : Surface σ) : Surface (σ × Posts) where
  post now message s :=
    let p := surface.post now message s.1
    ⟨p.begun.lift (·, s.2), p.delay,
      p.ended.lift (·, (message, succeeded p.ended.answer) :: s.2)⟩
  drain now s := (surface.drain now s.1).lift (·, s.2)
  navigate now url s := (surface.navigate now url s.1).lift (·, s.2)

def posted (c : Course (Link (σ × Posts))) : Posts :=
  c.world.surface.2

/-- A post that is an envelope with this message in it. -/
def Seals (key : Key) (message : Json) (post : Json × Bool) : Prop :=
  ∃ nonce, post.1 = Channel.encrypt key nonce message

/-- An envelope hands over no key. -/
theorem Seals.ne_setKeyMessage {key : Key} {message : Json} {post : Json × Bool}
    (seals : Seals key message post) : post.1 ≠ key.setKeyMessage := by
  obtain ⟨nonce, hpost⟩ := seals
  have henvelope : Channel.typeOf post.1 = Channel.envelopeType := by
    rw [hpost, Channel.encrypt, Channel.typeOf_envelope]
  have hkey : Channel.typeOf key.setKeyMessage = Key.setKeyType := by
    rw [Channel.typeOf, Json.field, Key.setKeyMessage, Json.get?_ofFields_cons _ (by simp)]
    rfl
  intro same
  rw [same, hkey] at henvelope
  exact absurd henvelope (by decide)

section

variable (surface : Surface σ) (settings : Settings) (c : Course (Link (σ × Posts)))

/-- What is posted is one envelope more. -/
theorem posted_post (message : Json) :
    ∃ entry, Seals settings.key message entry ∧
      posted (post surface.recording settings message c) = entry :: posted c := by
  let n := c.world.envelopeCount
  let counted := { c with world := { c.world with envelopeCount := n + 1 } }
  let envelope := Channel.encrypt settings.key (settings.nonces n) message
  have hworld := world_await (counted.log (.posting message))
    (surface.recording.post c.now envelope)
  have hposted :
      posted (await (counted.log (.posting message)) (surface.recording.post c.now envelope)).2 =
        (envelope, succeeded (surface.post c.now envelope c.world.surface.1).ended.answer) ::
          posted c := by
    rw [posted, hworld]
    rfl
  exact ⟨_, ⟨settings.nonces n, rfl⟩, hposted⟩

/-- Nothing is posted where messages are fetched. -/
theorem posted_fetch : posted (fetch surface.recording settings c).2 = posted c := by
  rw [fetch_eq, posted, world_await]
  rfl

/-- The key, where it is posted and delivered now. -/
def keyPosts : Posts :=
  if c.world.keyInstalled then [] else [(settings.key.setKeyMessage, true)]

/-- The key is posted where it was not delivered before, and is installed once it is delivered. -/
theorem installKey_posted :
    (∃ cause installed, installKey surface.recording settings c = (.error cause, installed) ∧
        c.world.keyInstalled = false ∧ installed.world.keyInstalled = false ∧
        posted installed = (settings.key.setKeyMessage, false) :: posted c) ∨
      ∃ installed, installKey surface.recording settings c = (.ok (), installed) ∧
        (installed.world.binding = c.world.binding ∧
          installed.world.settleCount = c.world.settleCount) ∧
        installed.world.keyInstalled = true ∧ posted installed = keyPosts settings c ++ posted c := by
  rw [installKey, keyPosts]
  cases hinstalled : c.world.keyInstalled with
  | true => exact .inr ⟨c, rfl, ⟨rfl, rfl⟩, hinstalled, rfl⟩
  | false =>
    have hworld := world_await c (surface.recording.post c.now settings.key.setKeyMessage)
    have hanswer : (await c (surface.recording.post c.now settings.key.setKeyMessage)).1 =
        (surface.post c.now settings.key.setKeyMessage c.world.surface.1).ended.answer := rfl
    -- what is recorded of the post is whether it was delivered
    have hposted : posted (await c (surface.recording.post c.now settings.key.setKeyMessage)).2 =
        (settings.key.setKeyMessage, succeeded
          (surface.post c.now settings.key.setKeyMessage c.world.surface.1).ended.answer) ::
            posted c := by
      rw [posted, hworld]
      rfl
    generalize await c (surface.recording.post c.now settings.key.setKeyMessage) = delivery at *
    obtain ⟨answer, after⟩ := delivery
    dsimp only at hworld hanswer hposted ⊢
    rw [← hanswer] at hposted
    cases answer with
    | error cause => exact .inl ⟨cause, _, rfl, rfl, rfl, hposted⟩
    | ok _ =>
      refine .inr ⟨_, rfl, ?_, rfl, hposted⟩
      simp [Course.log, hworld]

end

/-! ## The key comes first -/

/-- Attempts to hand over the key up to the first that is delivered, and from then on no key any more
and only envelopes. -/
inductive KeyFirst (key : Key) : Bool → Posts → Prop where
  | missing (refused : Nat) :
      KeyFirst key false (List.replicate refused (key.setKeyMessage, false))
  | delivered (refused : Nat) (later : Posts)
      (sealed : ∀ post ∈ later, post.1 ≠ key.setKeyMessage ∧ ∃ message, Seals key message post) :
      KeyFirst key true
        (later ++ (key.setKeyMessage, true) :: List.replicate refused (key.setKeyMessage, false))

namespace KeyFirst

variable {key : Key} {earlier : Posts}

/-- A key that is not delivered is posted again before anything else. -/
theorem refuse (missing : KeyFirst key false earlier) :
    KeyFirst key false ((key.setKeyMessage, false) :: earlier) := by
  cases missing with
  | missing refused => exact .missing (refused + 1)

/-- Once it is delivered, everything else may follow. -/
theorem deliver (missing : KeyFirst key false earlier) :
    KeyFirst key true ((key.setKeyMessage, true) :: earlier) := by
  cases missing with
  | missing refused => exact .delivered refused [] (List.forall_mem_nil _)

theorem enclose (installed : KeyFirst key true earlier) {message : Json} {post : Json × Bool}
    (seals : Seals key message post) : KeyFirst key true (post :: earlier) := by
  cases installed with
  | delivered refused later sealed =>
    exact .delivered refused (post :: later)
      (List.forall_mem_cons.mpr ⟨⟨seals.ne_setKeyMessage, message, seals⟩, sealed⟩)

end KeyFirst

/-- The record of a dispatcher has the key first. -/
def KeyFirstIn (settings : Settings) (c : Course (Link (σ × Posts))) : Prop :=
  KeyFirst settings.key c.world.keyInstalled (posted c)

variable {surface : Surface σ} {settings : Settings} {c : Course (Link (σ × Posts))}

/-- Posting the key keeps it first. -/
theorem keyFirst_installKey (surface : Surface σ) (first : KeyFirstIn settings c) :
    KeyFirstIn settings (installKey surface.recording settings c).2 := by
  rw [KeyFirstIn] at first
  rcases installKey_posted surface settings c with
    ⟨cause, installed, hkey, hmissing, hrefused, hposted⟩ | ⟨installed, hkey, -, hinstalled, hposted⟩
  · rw [hmissing] at first
    rw [hkey, KeyFirstIn, hrefused, hposted]
    exact first.refuse
  · rw [hkey, KeyFirstIn, hinstalled, hposted, keyPosts]
    -- the key was there already, or it was posted and delivered just now
    cases hbefore : c.world.keyInstalled with
    | true =>
      rw [hbefore] at first
      exact first
    | false =>
      rw [hbefore] at first
      exact first.deliver

/-- With the key installed, an envelope can follow. -/
theorem keyFirst_post (first : KeyFirstIn settings c) (installed : c.world.keyInstalled = true)
    (message : Json) : KeyFirstIn settings (post surface.recording settings message c) := by
  obtain ⟨entry, hseals, hposted⟩ := posted_post surface settings c message
  rw [KeyFirstIn, installed] at first
  rw [KeyFirstIn, (inner_post message c).2, installed, hposted]
  exact first.enclose hseals

theorem posted_poll (surface : Surface σ) (settings : Settings) (r : Run (σ × Posts)) :
    posted (poll surface.recording settings r).course = posted r.course := by
  have hfetch := posted_fetch surface settings r.course
  rw [poll]
  exact hfetch

/-- Moves post envelopes only. -/
theorem keyFirst_of_move {r r' : Run (σ × Posts)} (move : Move surface.recording settings r r')
    (installed : r.course.world.keyInstalled = true) (first : KeyFirstIn settings r.course) :
    KeyFirstIn settings r'.course := by
  have hkey := (inner_of_move move).2
  cases move with
  | poll =>
    rw [KeyFirstIn, hkey, posted_poll]
    exact first
  | post message => exact keyFirst_post first installed message
  | expire => exact keyFirst_post first installed Channel.Message.cancel
  | pause | hear | fail => exact first
  | trace lines =>
    rw [KeyFirstIn, posted, Course.world_trace]
    exact first

/-- The moves of a run post nothing but enclosed messages. -/
theorem keyFirst_of_moves {r r' : Run (σ × Posts)} (moves : Moves surface.recording settings r r')
    (installed : r.course.world.keyInstalled = true) (first : KeyFirstIn settings r.course) :
    KeyFirstIn settings r'.course := by
  refine (moves.preserves (P := fun s => s.course.world.keyInstalled = true ∧
    KeyFirstIn settings s.course) ?_ ⟨installed, first⟩).2
  rintro s s' move ⟨hinstalled, hfirst⟩
  exact ⟨(inner_of_move move).2.trans hinstalled, keyFirst_of_move move hinstalled hfirst⟩

/-- **An act leaves the key first**, as far as it is carried out. -/
theorem keyFirst_dispatchWithin (surface : Surface σ) (first : KeyFirstIn settings c) (fuel : Nat) (act : Act) :
    KeyFirstIn settings (dispatchWithin surface.recording settings fuel act c).2.course := by
  have hfirst := keyFirst_installKey surface first
  have hrun : KeyFirstIn settings (run surface.recording settings fuel act c).2.course := by
    rw [run]
    rcases installKey_posted surface settings c with
      ⟨cause, installed, hkey, -⟩ | ⟨installed, hkey, -, hinstalled, -⟩
    · rw [hkey] at hfirst ⊢
      exact hfirst
    · rw [hkey] at hfirst ⊢
      dsimp only at hfirst ⊢
      cases installed.world.binding.bind act with
      | error cause => exact hfirst
      | ok binding =>
        exact keyFirst_of_moves (moves_runBound surface.recording settings fuel
          ⟨act, (rebind installed binding).resetCancel⟩) hinstalled hfirst
  rw [dispatchWithin]
  generalize run surface.recording settings fuel act c = ran at hrun ⊢
  -- ended or not, releasing the act posts nothing
  obtain ⟨_ | trouble, last⟩ := ran <;> exact hrun

end BrowserAct.Dispatch.Extension
