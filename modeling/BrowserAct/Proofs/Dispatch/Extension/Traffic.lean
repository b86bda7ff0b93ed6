import BrowserAct.Proofs.Dispatch.Extension.Calls
import BrowserAct.Proofs.Dispatch.Extension.Posts

/-!
# The traffic of a session

A session is one call after the other through one link. Each call hands over the key unless that is
done. Then an act is prompted for until it is accepted, and at most once it is asked to cancel it:
when its time is used up, or when others have asked for that. A page is asked for once.

* **`Prompting`** says how a run has come about, with its prompts and whether it was asked to cancel.
* **`prompting_runBound`** is all that is done while an act is bound.
* **`session_traffic`** says what is posted in a session and with each of its calls.
-/

namespace BrowserAct

namespace Channel.Binding

/-- Messages do not change who asked for what. -/
theorem request_handleAll (key : Key) (now : Moment) (state : Binding × Act)
    (messages : List Json) :
    (handleAll key now state messages).2.id = state.2.id ∧
      (handleAll key now state messages).2.request = state.2.request := by
  refine handleAll_preserves (P := fun a => a.id = state.2.id ∧ a.request = state.2.request)
    (fun {a _} taken same => ?_) key messages ⟨rfl, rfl⟩
  have hperform (operation : Act.Operation) : (a.perform operation now).id = state.2.id ∧
      (a.perform operation now).request = state.2.request :=
    (Act.perform_request a operation now).imp (·.trans same.1) (·.trans same.2)
  cases taken with
  | kept => exact same
  | acknowledged | step | completed => exact hperform _

end Channel.Binding

namespace Dispatch.Extension

variable {σ : Type} {surface : Surface σ} {settings : Settings}

/-! ## How a run comes about -/

/-- A run that began in one state, has posted so many prompts since, and has asked to cancel or not. It
asks while the act is open, because its time is used up, for which it is marked, or because a
request to cancel was seen. After that it neither prompts nor asks again. -/
inductive Prompting (surface : Surface σ) (settings : Settings) (start : Run (σ × Posts)) :
    Nat → Bool → Run (σ × Posts) → Prop where
  | start : Prompting surface settings start 0 false start
  | quiet {k : Nat} {canceled : Bool} {r r' : Run (σ × Posts)}
      (before : Prompting surface settings start k canceled r)
      (move : Move surface.recording settings r r')
      (silent : posted r'.course = posted r.course) :
      Prompting surface settings start k canceled r'
  | prompt {k : Nat} {r : Run (σ × Posts)} (before : Prompting surface settings start k false r) :
      Prompting surface settings start (k + 1) false (postPrompt surface.recording settings r)
  | expire {k : Nat} {r : Run (σ × Posts)} (before : Prompting surface settings start k false r)
      (isOpen : r.act.isComplete = false)
      (past : r.act.isPastDeadline r.course.now = true) :
      Prompting surface settings start k true ⟨r.act.perform .markTimedOut r.course.now,
        post surface.recording settings Channel.Message.cancel r.course⟩
  | cancel {k : Nat} {r : Run (σ × Posts)} (before : Prompting surface settings start k false r)
      (isOpen : r.act.isComplete = false) (requested : r.course.cancelRequested = true) :
      Prompting surface settings start k true ⟨r.act,
        post surface.recording settings Channel.Message.cancel (hearCancel settings r).course⟩

namespace Prompting

variable {start r : Run (σ × Posts)} {k : Nat} {canceled : Bool}

theorem poll (before : Prompting surface settings start k canceled r) :
    Prompting surface settings start k canceled (poll surface.recording settings r) :=
  before.quiet (.poll r) (posted_poll surface settings r)

/-- Waiting posts nothing. -/
theorem wait {α : Type} (before : Prompting surface settings start k canceled r)
    (test : Run (σ × Posts) → Option α) (fuel : Nat) :
    Prompting surface settings start k canceled
      (Course.repeatUntil test (Extension.poll surface.recording settings) fuel r).2 :=
  Course.repeatUntil_preserves (P := Prompting surface settings start k canceled)
    (fun _ _ before => before.poll) fuel before

theorem trace (before : Prompting surface settings start k canceled r) (lines : List String) :
    Prompting surface settings start k canceled { r with course := r.course.trace lines } := by
  refine before.quiet (.trace r lines) ?_
  rw [posted, posted, Course.world_trace]

end Prompting

variable {start r : Run (σ × Posts)} {k : Nat}

/-- A prompt is posted, and the wait after it only polls. -/
theorem prompting_attempt (fuel : Nat) (before : Prompting surface settings start k false r) :
    Prompting surface settings start (k + 1) false (attempt surface.recording settings fuel r).2 := by
  rw [attempt]
  generalize (postPrompt surface.recording settings r).course.now +
    acceptanceTime settings _ _ = deadline
  have hwait : Prompting surface settings start (k + 1) false (untilAccepted surface.recording
      settings fuel deadline (postPrompt surface.recording settings r)).2 := before.prompt.wait _ fuel
  generalize untilAccepted surface.recording settings fuel deadline _ = waited at hwait ⊢
  obtain ⟨_ | accepted, last⟩ := waited <;> exact hwait

/-- **Prompts.** There is one at least. The induction is on the number that is left. -/
theorem prompting_attempts (fuel n : Nat) (before : Prompting surface settings start k false r) :
    ∃ more, more ≤ n ∧ (0 < n → 0 < more) ∧ Prompting surface settings start (k + more) false
      (attempts surface.recording settings fuel n r).2 := by
  induction n generalizing k r with
  | zero => exact ⟨0, Nat.le_refl 0, fun positive => positive, before⟩
  | succ n ih =>
    have hattempt := prompting_attempt fuel before
    rw [attempts]
    split
    · rename_i last heq
      rw [heq] at hattempt
      -- this was the last prompt, or the others are counted after it
      split
      · exact ⟨1, Nat.le_add_left 1 n, fun _ => Nat.one_pos, hattempt⟩
      · obtain ⟨more, hmost, _, hmore⟩ := ih (hattempt.quiet (.pause last settings.timings.retryDelay) rfl)
        rw [Nat.add_assoc, Nat.add_comm 1] at hmore
        exact ⟨more + 1, Nat.succ_le_succ hmost, fun _ => Nat.succ_pos more, hmore⟩
    · exact ⟨1, Nat.le_add_left 1 n, fun _ => Nat.one_pos, hattempt⟩

/-- An act that is out of time is asked to be canceled, and fails on this side if that does nothing. -/
theorem prompting_timeOut (fuel : Nat) (before : Prompting surface settings start k false r)
    (isOpen : r.act.isComplete = false) (past : r.act.isPastDeadline r.course.now = true) :
    Prompting surface settings start k true (timeOut surface.recording settings fuel r).2 := by
  rw [timeOut, change_of_open isOpen]
  dsimp only
  have hwait : Prompting surface settings start k true (cancelAndWait surface.recording settings fuel
      { r with act := r.act.perform .markTimedOut r.course.now }).2 :=
    (before.expire isOpen past).wait _ fuel
  -- nothing more is posted, also where the act is still open and is failed
  split
  · rename_i last heq
    rw [heq] at hwait
    exact hwait
  · rename_i last heq
    rw [heq] at hwait
    exact hwait
  · rename_i last heq
    rw [heq] at hwait
    have hopen := isComplete_cancelAndWait heq
    rw [change_of_open hopen]
    exact hwait.quiet (.fail hopen) rfl

/-- **Following an act** is without prompts. The induction is on the number of rounds. Once a
cancellation is confirmed the act is complete, so there is no second one. -/
theorem prompting_follow (waitFuel n observed : Nat)
    (before : Prompting surface settings start k false r) :
    ∃ canceled, Prompting surface settings start k canceled
      (follow surface.recording settings waitFuel n observed r).2 := by
  induction n generalizing observed r with
  | zero => exact ⟨false, before⟩
  | succ n ih =>
    rw [follow]
    split
    · exact ⟨false, before⟩
    rename_i hopen
    split
    · rename_i hpast
      exact ⟨true, prompting_timeOut waitFuel before (Bool.eq_false_iff.mpr hopen) hpast⟩
    dsimp only
    have hpolled : Prompting surface settings start k false
        (traceSteps settings observed (poll surface.recording settings r)) := before.poll.trace _
    generalize traceSteps settings observed (poll surface.recording settings r) = polled
      at hpolled ⊢
    split
    -- the cancellation that was asked for is posted, and after the wait nothing else is
    · rename_i hcancel
      obtain ⟨hrequested, hopen⟩ := Bool.and_eq_true_iff.mp hcancel
      have hwait : Prompting surface settings start k true
          (cancelAndWait surface.recording settings waitFuel (hearCancel settings polled)).2 :=
        (hpolled.cancel (Bool.not_eq_eq_eq_not.mp hopen) hrequested).wait _ waitFuel
      split
      · rename_i heq
        rw [heq] at hwait
        exact ⟨true, hwait⟩
      · rename_i heq
        rw [heq] at hwait
        exact ⟨true, hwait⟩
      · rename_i last heq
        rw [heq] at hwait
        -- so the next round posts nothing
        rw [follow_snd_of_complete _ (isComplete_cancelAndWait heq)]
        exact ⟨true, hwait⟩
    · exact ih _ hpolled

theorem tries_pos (settings : Settings) : 0 < tries settings := by
  rw [tries]
  split
  · exact Nat.lt_of_lt_of_le Nat.one_pos (Nat.le_max_right _ _)
  · exact Nat.one_pos

/-- **All that is done while an act is bound.** -/
theorem prompting_runBound (surface : Surface σ) (settings : Settings) (fuel : Nat)
    (start : Run (σ × Posts)) :
    ∃ k canceled, 0 < k ∧ k ≤ tries settings ∧ Prompting surface settings start k canceled
      (runBound surface.recording settings fuel start).2 := by
  have hstart : Prompting surface settings start 0 false start := .start
  obtain ⟨k, hmost, hsome, hprompts⟩ := prompting_attempts fuel (tries settings) hstart
  rw [Nat.zero_add] at hprompts
  rw [runBound]
  split
  · rename_i heq
    rw [heq] at hprompts
    exact ⟨k, false, hsome (tries_pos settings), hmost, hprompts⟩
  · rename_i heq
    rw [heq] at hprompts
    exact ⟨k, false, hsome (tries_pos settings), hmost, hprompts⟩
  -- the prompts are behind, and following the act adds at most a cancellation
  · rename_i last heq
    rw [heq] at hprompts
    obtain ⟨canceled, hfollow⟩ := prompting_follow fuel fuel 0 hprompts
    exact ⟨k, canceled, hsome (tries_pos settings), hmost, hfollow⟩

/-! ## What a run posts -/

/-- No move changes who asked for what. -/
theorem request_of_move {r r' : Run σ} (move : Move surface settings r r') :
    r'.act.id = r.act.id ∧ r'.act.request = r.act.request := by
  cases move with
  | poll =>
    rw [poll]
    rcases fetch surface settings r.course with ⟨messages, c⟩
    exact Channel.Binding.request_handleAll settings.key c.now (c.world.binding, r.act) messages
  | post | pause | trace | hear => exact ⟨rfl, rfl⟩
  | expire => exact Act.perform_request r.act _ _
  | fail => exact Act.perform_request r.act _ _

/-- The message that prompts for an act. -/
def promptOf (settings : Settings) (act : Act) : Json :=
  Channel.Message.pendingPrompt act settings.apiKey settings.service.apiUri settings.credentials

/-- A prompt says who asks for what. -/
theorem promptOf_congr {a b : Act} (same : b.id = a.id ∧ b.request = a.request)
    (settings : Settings) : promptOf settings b = promptOf settings a := by
  rw [promptOf, promptOf, Channel.Message.pendingPrompt, Channel.Message.pendingPrompt, same.1,
    same.2]

/-- So many prompts of an act, and after these one request to cancel it or none. -/
structure Prompts (settings : Settings) (act : Act) (k : Nat) (canceled : Bool)
    (earlier now : Posts) : Prop where
  posts : ∃ cancels prompts, now = cancels ++ (prompts ++ earlier) ∧
    prompts.length = k ∧ (∀ post ∈ prompts, Seals settings.key (promptOf settings act) post) ∧
    cancels.length = canceled.toNat ∧
    ∀ post ∈ cancels, Seals settings.key Channel.Message.cancel post

namespace Prompts

variable {act : Act} {k : Nat} {earlier now : Posts} {entry : Json × Bool}

theorem prompt (before : Prompts settings act k false earlier now)
    (seals : Seals settings.key (promptOf settings act) entry) :
    Prompts settings act (k + 1) false earlier (entry :: now) := by
  obtain ⟨cancels, prompts, rfl, rfl, hprompts, hnone, _⟩ := before.posts
  obtain rfl := List.eq_nil_of_length_eq_zero hnone
  exact ⟨[], entry :: prompts, rfl, rfl, List.forall_mem_cons.mpr ⟨seals, hprompts⟩, rfl,
    List.forall_mem_nil _⟩

theorem cancel (before : Prompts settings act k false earlier now)
    (seals : Seals settings.key Channel.Message.cancel entry) :
    Prompts settings act k true earlier (entry :: now) := by
  obtain ⟨cancels, prompts, rfl, hlength, hprompts, hnone, _⟩ := before.posts
  obtain rfl := List.eq_nil_of_length_eq_zero hnone
  exact ⟨[entry], prompts, rfl, hlength, hprompts, rfl, List.forall_mem_singleton.mpr seals⟩

end Prompts

/-- **What a run posts.** The induction is on how it came about. -/
theorem Prompting.posts {canceled : Bool} (prompting : Prompting surface settings start k canceled r) :
    (r.act.id = start.act.id ∧ r.act.request = start.act.request) ∧
      Prompts settings start.act k canceled (posted start.course) (posted r.course) := by
  induction prompting with
  | start => exact ⟨⟨rfl, rfl⟩, [], [], rfl, rfl, List.forall_mem_nil _, rfl, List.forall_mem_nil _⟩
  | quiet _ move silent ih =>
    obtain ⟨hrequest, hposts⟩ := ih
    obtain ⟨hid, hkept⟩ := request_of_move move
    rw [silent]
    exact ⟨⟨hid.trans hrequest.1, hkept.trans hrequest.2⟩, hposts⟩
  | @prompt k r _ ih =>
    obtain ⟨hrequest, hposts⟩ := ih
    obtain ⟨entry, hseals, hposted⟩ := posted_post surface settings r.course (promptOf settings r.act)
    rw [promptOf_congr hrequest] at hseals
    refine ⟨hrequest, ?_⟩
    rw [postPrompt]
    exact hposted ▸ hposts.prompt hseals
  -- marking the act changes neither its identifier nor its request
  | @expire k r _ _ _ ih =>
    obtain ⟨hrequest, hposts⟩ := ih
    obtain ⟨entry, hseals, hposted⟩ := posted_post surface settings r.course Channel.Message.cancel
    have hkept := Act.perform_request r.act .markTimedOut r.course.now
    exact ⟨⟨hkept.1.trans hrequest.1, hkept.2.trans hrequest.2⟩, hposted ▸ hposts.cancel hseals⟩
  | @cancel k r _ _ _ ih =>
    obtain ⟨hrequest, hposts⟩ := ih
    obtain ⟨entry, hseals, hposted⟩ := posted_post surface settings (hearCancel settings r).course
      Channel.Message.cancel
    have hheard : posted (hearCancel settings r).course = posted r.course := by
      rw [hearCancel, posted, Course.world_trace]
      rfl
    rw [hheard] at hposted
    exact ⟨hrequest, hposted ▸ hposts.cancel hseals⟩

/-! ## What a call posts -/

/-- The run of an act right after it was bound, with the key delivered. -/
def boundRun (surface : Surface σ) (settings : Settings) (act : Act)
    (c : Course (Link (σ × Posts))) : Run (σ × Posts) :=
  ⟨act, (rebind (installKey surface.recording settings c).2 (.act act.id true)).resetCancel⟩

/-- What the dispatch of an act posts: a key that is not delivered, or one that is unless it was before,
and then one prompt or more, no more than are allowed, and one request to cancel or none. -/
inductive ActTraffic (surface : Surface σ) (settings : Settings) (c : Course (Link (σ × Posts)))
    (act : Act) (last : Run (σ × Posts)) : Prop where
  | noKey (missing : c.world.keyInstalled = false)
      (posts : posted last.course = (settings.key.setKeyMessage, false) :: posted c)
  | prompted {k : Nat} {canceled : Bool} {followed : Run (σ × Posts)} (atLeast : 1 ≤ k)
      (atMost : k ≤ max 1 settings.timings.retryTries) (once : settings.retry = false → k = 1)
      (course : Prompting surface settings (boundRun surface settings act c) k canceled followed)
      (left : last = followed ∨ last = { followed with course := rebind followed.course .idle })
      (posts : Prompts settings act k canceled (keyPosts settings c ++ posted c) (posted last.course))

/-- The message that asks for a settled page. -/
def settleOf (settings : Settings) (count : Nat) (sessionId : String) (limit : Duration) : Json :=
  Channel.Message.settle (settings.settleIds count) settings.apiKey settings.service.apiUri sessionId
    (limit / 1_000_000_000)

/-- What a wait for a settled page posts: a key that is not delivered, or one that is unless it was
before, and then one request for the page. -/
inductive PageTraffic (settings : Settings) (c : Course (Link (σ × Posts))) (sessionId : String)
    (limit : Duration) (last : Course (Link (σ × Posts))) : Prop where
  | noKey (missing : c.world.keyInstalled = false)
      (posts : posted last = (settings.key.setKeyMessage, false) :: posted c)
  | asked {entry : Json × Bool}
      (seals : Seals settings.key (settleOf settings c.world.settleCount sessionId limit) entry)
      (posts : posted last = entry :: (keyPosts settings c ++ posted c))

/-- There are no more prompts than the setting says, and only one without retries. -/
theorem tries_le (settings : Settings) :
    tries settings ≤ max 1 settings.timings.retryTries ∧
      (settings.retry = false → tries settings = 1) := by
  rw [tries]
  cases settings.retry with
  | true => exact ⟨Nat.le_of_eq (Nat.max_comm _ _), fun off => (Bool.false_ne_true off.symm).elim⟩
  | false => exact ⟨Nat.le_max_left _ _, fun _ => rfl⟩

/-- **A whole dispatch** of an act that is open, where nothing is bound before. -/
theorem traffic_of_dispatch {c : Course (Link (σ × Posts))} (idle : c.world.binding = .idle)
    (fuel : Nat) {act : Act} (isOpen : act.isComplete = false) :
    ActTraffic surface settings c act
      (dispatchWithin surface.recording settings fuel act c).2 := by
  rw [dispatchWithin]
  rcases installKey_posted surface settings c with
    ⟨cause, installed, hkey, hmissing, -, hposted⟩ | ⟨installed, hkey, ⟨hbinding, -⟩, -, hposted⟩
  -- without its key the extension is posted nothing else
  · rw [run, hkey]
    exact .noKey hmissing hposted
  · have hbinds : installed.world.binding.bind act = .ok (.act act.id true) := by
      rw [hbinding, idle, bind_idle isOpen]
    have hbound : boundRun surface settings act c =
        ⟨act, (rebind installed (.act act.id true)).resetCancel⟩ := by
      rw [boundRun, hkey]
    obtain ⟨k, canceled, hsome, hmost, hcourse⟩ :=
      prompting_runBound surface settings fuel (boundRun surface settings act c)
    have hposts := hcourse.posts.2
    rw [show posted (boundRun surface settings act c).course = keyPosts settings c ++ posted c by
      rw [hbound]; exact hposted, show (boundRun surface settings act c).act = act from rfl] at hposts
    obtain ⟨hallowed, honce⟩ := tries_le settings
    rw [run_of_bind surface.recording fuel hkey hbinds, ← hbound]
    generalize runBound surface.recording settings fuel (boundRun surface settings act c) = ran
      at hcourse hposts ⊢
    have hone (off : settings.retry = false) : k = 1 :=
      Nat.le_antisymm (honce off ▸ hmost) hsome
    -- whether the run came to an end makes no difference to what was posted
    obtain ⟨_ | trouble, followed⟩ := ran
    · exact .prompted hsome (Nat.le_trans hmost hallowed) hone hcourse (.inl rfl) hposts
    · exact .prompted hsome (Nat.le_trans hmost hallowed) hone hcourse (.inr rfl) hposts

/-! ## Pages -/

/-- How far the wait for a settled page comes within the bound. -/
def settlePageWithin (surface : Surface σ) (settings : Settings) (fuel : Nat) (sessionId : String)
    (timeout : Option Duration) (c : Course (Link σ)) :
    Option (Except Act.Failure Unit) × Course (Link σ) :=
  let limit := timeout.getD settings.timings.settleTimeout
  match installKey surface settings c with
  | (.error cause, c) => (some (.error (pageFailure sessionId cause)), c)
  | (.ok _, c) =>
    match c.world.binding.bindPage sessionId false with
    | .error cause => (some (.error (pageFailure sessionId cause)), c)
    | .ok binding =>
      let c := postSettle surface settings sessionId limit (rebind c binding)
      match untilSettled surface settings fuel (c.now + settings.timings.ackTimeout + limit) c with
      | (none, c) => (none, c)
      | (some _, c) => (some (.ok ()), rebind c .idle)

/-- A wait gives its answer where it has come to one. -/
theorem settlePage_eq (surface : Surface σ) (settings : Settings) (fuel : Nat) (sessionId : String)
    (timeout : Option Duration) (c : Course (Link σ)) :
    settlePage surface settings fuel sessionId timeout c =
      (settlePageWithin surface settings fuel sessionId timeout c).1.map
        (·, (settlePageWithin surface settings fuel sessionId timeout c).2) := by
  rw [settlePage, settlePageWithin]
  -- the two differ only in what they give where a wait has no end
  rcases installKey surface settings c with ⟨_ | _, installed⟩
  · rfl
  dsimp only
  cases installed.world.binding.bindPage sessionId false with
  | error cause => rfl
  | ok binding =>
    dsimp only
    rcases untilSettled surface settings fuel
      ((postSettle surface settings sessionId (timeout.getD settings.timings.settleTimeout)
        (rebind installed binding)).now + settings.timings.ackTimeout +
          timeout.getD settings.timings.settleTimeout)
      (postSettle surface settings sessionId (timeout.getD settings.timings.settleTimeout)
        (rebind installed binding)) with ⟨_ | _, last⟩ <;> rfl

/-- A poll for a page posts nothing. -/
theorem posted_pollPage (surface : Surface σ) (settings : Settings) (c : Course (Link (σ × Posts))) :
    posted (pollPage surface.recording settings c) = posted c ∧
      (pollPage surface.recording settings c).world.keyInstalled = c.world.keyInstalled := by
  have hkey : (fetch surface.recording settings c).2.world.keyInstalled = c.world.keyInstalled := by
    rw [fetch_eq, keyInstalled_await]
    rfl
  exact ⟨posted_fetch surface settings c, hkey⟩

/-- The request to settle is posted once, with its number. -/
theorem posted_postSettle (surface : Surface σ) (settings : Settings) (sessionId : String)
    (limit : Duration) (c : Course (Link (σ × Posts))) :
    ∃ entry, Seals settings.key (settleOf settings c.world.settleCount sessionId limit) entry ∧
      posted (postSettle surface.recording settings sessionId limit c) = entry :: posted c ∧
      (postSettle surface.recording settings sessionId limit c).world.keyInstalled =
        c.world.keyInstalled := by
  let counted := { c with world := { c.world with settleCount := c.world.settleCount + 1 } }
  obtain ⟨entry, hseals, hposted⟩ := posted_post surface settings counted
    (settleOf settings c.world.settleCount sessionId limit)
  have hkey : (post surface.recording settings (settleOf settings c.world.settleCount sessionId limit)
      counted).world.keyInstalled = c.world.keyInstalled := (inner_post _ counted).2
  rw [postSettle]
  exact ⟨entry, hseals, hposted, hkey⟩

/-- Waiting for a page posts nothing. -/
theorem posted_untilSettled (surface : Surface σ) (settings : Settings) (fuel : Nat)
    (deadline : Moment) (c : Course (Link (σ × Posts))) :
    let last := (untilSettled surface.recording settings fuel deadline c).2
    posted last = posted c ∧ last.world.keyInstalled = c.world.keyInstalled :=
  Course.repeatUntil_preserves
    (P := fun last : Course (Link (σ × Posts)) => posted last = posted c ∧
      last.world.keyInstalled = c.world.keyInstalled)
    (fun before _ same => by
      obtain ⟨hposted, hkey⟩ := posted_pollPage surface settings before
      exact ⟨hposted.trans same.1, hkey.trans same.2⟩) fuel ⟨rfl, rfl⟩

/-- **A whole wait for a settled page**, where nothing is bound before. -/
theorem traffic_of_settle (surface : Surface σ) {c : Course (Link (σ × Posts))} (idle : c.world.binding = .idle)
    (first : KeyFirstIn settings c) (fuel : Nat) (sessionId : String) (timeout : Option Duration) :
    let last := (settlePageWithin surface.recording settings fuel sessionId timeout c).2
    KeyFirstIn settings last ∧ PageTraffic settings c sessionId
      (timeout.getD settings.timings.settleTimeout) last := by
  dsimp only
  generalize hlimit : timeout.getD settings.timings.settleTimeout = limit
  have hfirst := keyFirst_installKey surface first
  rw [settlePageWithin]
  rcases installKey_posted surface settings c with
    ⟨cause, installed, hkey, hmissing, -, hposted⟩ |
      ⟨installed, hkey, ⟨hbinding, hcount⟩, hinstalled, hposted⟩
  · rw [hkey] at hfirst ⊢
    exact ⟨hfirst, .noKey hmissing hposted⟩
  · rw [hkey] at hfirst ⊢
    dsimp only at hfirst ⊢
    rw [(free_of_idle (hbinding.trans idle)).bindPage sessionId, hlimit]
    obtain ⟨entry, hseals, hasked, hkept⟩ := posted_postSettle surface settings sessionId limit
      (rebind installed (.page sessionId false))
    rw [show (rebind installed (.page sessionId false)).world.settleCount = c.world.settleCount
      from hcount] at hseals
    rw [show posted (rebind installed (.page sessionId false)) = posted installed from rfl] at hasked
    rw [show (rebind installed (.page sessionId false)).world.keyInstalled = true
      from hinstalled] at hkept
    rw [KeyFirstIn, hinstalled] at hfirst
    dsimp only
    generalize postSettle surface.recording settings sessionId limit _ = asked at hasked hkept ⊢
    obtain ⟨hwaited, hstays⟩ := posted_untilSettled surface settings fuel
      (asked.now + settings.timings.ackTimeout + limit) asked
    generalize untilSettled surface.recording settings fuel _ asked = waited at hwaited hstays ⊢
    -- whatever comes after the wait posts nothing
    have hlast (last : Course (Link (σ × Posts))) (hposts : posted last = posted waited.2)
        (hinstalls : last.world.keyInstalled = waited.2.world.keyInstalled) :
        KeyFirstIn settings last ∧ PageTraffic settings c sessionId limit last := by
      rw [hwaited, hasked] at hposts
      rw [hstays, hkept] at hinstalls
      refine ⟨?_, .asked hseals (hposted ▸ hposts)⟩
      rw [KeyFirstIn, hinstalls, hposts]
      exact hfirst.enclose hseals
    obtain ⟨_ | _, last⟩ := waited
    · exact hlast last rfl rfl
    · exact hlast (rebind last .idle) rfl rfl

/-! ## Sessions -/

/-- A state of a dispatcher between calls, with the record of all that it has posted. Between the calls
only the surroundings change, with the clock, the log and the requests to cancel. -/
inductive Session (surface : Surface σ) (settings : Settings) : Course (Link (σ × Posts)) → Prop where
  | new {c : Course (Link (σ × Posts))} (s : σ) (fresh : c.world = .new (s, [])) :
      Session surface settings c
  | dispatched {c : Course (Link (σ × Posts))} {fuel : Nat} {act : Act} {outcome : Act.Outcome}
      {r : Run (σ × Posts)} (session : Session surface settings c)
      (answered : dispatch surface.recording settings fuel act c = some (outcome, r)) :
      Session surface settings r.course
  | settled {c c' : Course (Link (σ × Posts))} {fuel : Nat} {sessionId : String}
      {timeout : Option Duration} {result : Except Act.Failure Unit}
      (session : Session surface settings c)
      (answered : settlePage surface.recording settings fuel sessionId timeout c =
        some (result, c')) : Session surface settings c'
  | navigated {c c' : Course (Link (σ × Posts))} {fuel : Nat} {url sessionId : String}
      {timeout : Option Duration} {result : Except Act.Failure Unit}
      (session : Session surface settings c)
      (answered : goToUrl surface.recording settings fuel url sessionId timeout c =
        some (result, c')) : Session surface settings c'
  | outside {c c' : Course (Link (σ × Posts))} (session : Session surface settings c) (s : σ)
      (link : c'.world = { c.world with surface := (s, posted c) }) : Session surface settings c'

namespace Session

variable {c : Course (Link (σ × Posts))}

/-- A session is a use of its dispatcher, so nothing is bound between calls. -/
theorem used (session : Session surface settings c) : Used surface.recording settings c := by
  induction session with
  | new s fresh =>
    refine .new ?_
    rw [fresh]
    rfl
  | dispatched _ answered ih => exact .dispatched ih answered
  | settled _ answered ih => exact .settled ih answered
  | navigated _ answered ih => exact .navigated ih answered
  | outside _ s link ih =>
    refine .outside ih ?_
    rw [link]

end Session

/-- After a wait for a page the key still comes first. -/
theorem keyFirst_settlePage {c c' : Course (Link (σ × Posts))} (idle : c.world.binding = .idle)
    (first : KeyFirstIn settings c) {fuel : Nat} {sessionId : String} {timeout : Option Duration}
    {result : Except Act.Failure Unit}
    (answered : settlePage surface.recording settings fuel sessionId timeout c =
      some (result, c')) : KeyFirstIn settings c' := by
  have hfirst := (traffic_of_settle surface idle first fuel sessionId timeout).1
  rw [settlePage_eq, Option.map_eq_some_iff] at answered
  obtain ⟨_, _, hlast⟩ := answered
  rw [← (Prod.mk.inj hlast).2]
  exact hfirst

theorem keyFirst_goToUrl {c c' : Course (Link (σ × Posts))} (idle : c.world.binding = .idle)
    (first : KeyFirstIn settings c) {fuel : Nat} {url sessionId : String}
    {timeout : Option Duration} {result : Except Act.Failure Unit}
    (answered : goToUrl surface.recording settings fuel url sessionId timeout c =
      some (result, c')) : KeyFirstIn settings c' := by
  have hworld := world_await (c.log (.navigated url)) (surface.recording.navigate c.now url)
  rw [goToUrl] at answered
  rw [Course.log_now] at answered
  generalize await (c.log (.navigated url)) (surface.recording.navigate c.now url) = sent at *
  obtain ⟨answer, after⟩ := sent
  -- the browser is sent to the address without a post
  have hafter : KeyFirstIn settings after := by
    rw [KeyFirstIn, posted, hworld]
    exact first
  cases answer with
  | error cause =>
    cases answered
    exact hafter
  | ok _ =>
    refine keyFirst_settlePage ?_ hafter answered
    rw [hworld]
    exact idle

namespace Session

variable {c : Course (Link (σ × Posts))}

/-- **In a session the key comes first.** -/
theorem keyFirst (session : Session surface settings c) : KeyFirstIn settings c := by
  induction session with
  | new s fresh =>
    rw [KeyFirstIn, posted, fresh]
    exact .missing 0
  | @dispatched c fuel act outcome r session answered ih =>
    have hfirst := keyFirst_dispatchWithin surface ih fuel act
    rw [dispatch] at answered
    split at answered
    -- a call without an end is no call of the session
    · cases answered
    · rename_i heq
      cases answered
      rw [heq] at hfirst
      exact hfirst
  | settled session answered ih => exact keyFirst_settlePage session.used.idle ih answered
  | navigated session answered ih => exact keyFirst_goToUrl session.used.idle ih answered
  | outside _ s link ih =>
    rw [KeyFirstIn, posted, link]
    exact ih

end Session

/-- **The traffic of a session.** The key is posted until it is delivered, and from then on envelopes
only; that stays so with every call, however far it is carried out. Past the key, the dispatch of an
act that is open posts prompts of that act, one at least and no more than are allowed, and then one
request to cancel it or none; a wait for a settled page posts one request for that page. -/
theorem session_traffic {c : Course (Link (σ × Posts))} (session : Session surface settings c) :
    KeyFirstIn settings c ∧
    (∀ (fuel : Nat) (act : Act),
      let last := (dispatchWithin surface.recording settings fuel act c).2
      KeyFirstIn settings last.course ∧
        (act.isComplete = false → ActTraffic surface settings c act last)) ∧
    (∀ (fuel : Nat) (sessionId : String) (timeout : Option Duration),
      let last := (settlePageWithin surface.recording settings fuel sessionId timeout c).2
      KeyFirstIn settings last ∧
        PageTraffic settings c sessionId (timeout.getD settings.timings.settleTimeout) last) :=
  ⟨session.keyFirst,
    fun fuel act => ⟨keyFirst_dispatchWithin surface session.keyFirst fuel act,
      fun isOpen => traffic_of_dispatch session.used.idle fuel isOpen⟩,
    fun fuel sessionId timeout =>
      traffic_of_settle surface session.used.idle session.keyFirst fuel sessionId timeout⟩

namespace Sample

open Channel.Sample (act key)

/-- The record does not change what the other side says. -/
theorem repeats_recording {messages : List Json} (repeats : Repeats surface messages) :
    Repeats surface.recording messages where
  within := {
    post := fun now message world => repeats.within.post now message world.1
    drain := fun now world => repeats.within.drain now world.1
    navigate := fun now url world => repeats.within.navigate now url world.1 }
  posts now message world := repeats.posts now message world.1
  drains now world := repeats.drains now world.1

/-- The first dispatch of a session succeeds, and so does the next, which posts what it is to post. -/
theorem traffic_again :
    ∃ earlier first, dispatch (saying wool).recording (brief key 2) 1 act
        (.start (.new ((), []))) = some (.ok earlier, first) ∧
      Session (saying wool) (brief key 2) first.course ∧ next.isComplete = false ∧
      ∃ result last, dispatchWithin (saying wool).recording (brief key 2) 1 next first.course =
          (some (.ok result), last) ∧ result.response = some "wool" ∧
        ActTraffic (saying wool) (brief key 2) first.course next last := by
  have repeats := repeats_recording (repeats_saying wool)
  obtain ⟨earlier, first, hfirst, -⟩ := dispatchWithin_wool repeats
    (c := .start (.new ((), []))) rfl (rfl : act.request.timeout = none) rfl
  have answered := dispatch_of_dispatchWithin _ 1 hfirst
  have session : Session (saying wool) (brief key 2) first.course :=
    .dispatched (.new () rfl) answered
  obtain ⟨result, last, hnext, hresponse⟩ := dispatchWithin_wool repeats session.used.idle
    (rfl : next.request.timeout = none) rfl
  -- the traffic of a session, at the second of its calls
  have htraffic := ((session_traffic session).2.1 1 next).2 rfl
  rw [hnext] at htraffic
  exact ⟨earlier, first, answered, session, rfl, result, last, hnext, hresponse, htraffic⟩

end Sample

end Dispatch.Extension

end BrowserAct
