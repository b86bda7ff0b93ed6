import BrowserAct.Proofs.Channel.Asking
import BrowserAct.Proofs.Dispatch.Extension.FirstPoll

/-!
# Messages that were waiting before an act

Nothing in a message says which act it is for, and nothing is drained before a prompt is posted. What
waits in the transport when an act is dispatched comes in with its first poll, as if it were meant
for that act.

* **`Surface.queued`** is the same side of the browser with messages that wait already.
* **`dispatchWithin_forget`** says that a run goes as without them where none of them asks.
* **`fate_queued_iff`** says that these are all for which the fate of every act is the same.
-/

namespace BrowserAct.Dispatch.Extension

open Channel (Asks Binding)

variable {σ α : Type}

/-! ## A transport with messages that wait -/

/-- The same side of the browser behind a transport in which messages wait. They come in before
anything else with the first drain that succeeds. -/
def Surface.queued (surface : Surface σ) : Surface (List Json × σ) where
  post now message s := (surface.post now message s.2).lift (s.1, ·)
  drain now s :=
    let p := surface.drain now s.2
    ⟨p.begun.lift (s.1, ·), p.delay,
      match p.ended.answer with
      | .ok messages => ⟨.ok (s.1 ++ messages), ([], p.ended.world), p.ended.cancels⟩
      | .error cause => ⟨.error cause, (s.1, p.ended.world), p.ended.cancels⟩⟩
  navigate now url s := (surface.navigate now url s.2).lift (s.1, ·)

/-- Messages that are waiting already take no time. -/
theorem queued_within {surface : Surface σ} {lag : Duration} (within : surface.Within lag) :
    surface.queued.Within lag :=
  ⟨fun now message s => within.post now message s.2, fun now s => within.drain now s.2,
    fun now url s => within.navigate now url s.2⟩

/-- The same course with messages that wait. -/
def withWaiting (messages : List Json) (c : Course (Link σ)) : Course (Link (List Json × σ)) :=
  ⟨⟨(messages, c.world.surface), c.world.keyInstalled, c.world.binding, c.world.envelopeCount,
    c.world.settleCount⟩, c.now, c.cancelRequested, c.events⟩

/-- The same course without the messages that wait. -/
def forget (c : Course (Link (List Json × σ))) : Course (Link σ) :=
  ⟨⟨c.world.surface.2, c.world.keyInstalled, c.world.binding, c.world.envelopeCount,
    c.world.settleCount⟩, c.now, c.cancelRequested, c.events⟩

/-- None of the messages that wait asks for anything. -/
def Idle (key : Channel.Key) (c : Course (Link (List Json × σ))) : Prop :=
  ∀ raw ∈ c.world.surface.1, ¬ Asks key raw

/-- The same run without the messages that wait. -/
def Run.forget (r : Run (List Json × σ)) : Run σ :=
  ⟨r.act, Extension.forget r.course⟩

/-! ## Moves of the link -/

/-- Tracing does not look at what is waiting. -/
theorem forget_trace (c : Course (Link (List Json × σ))) (lines : List String) :
    (forget c).trace lines = forget (c.trace lines) ∧
      (c.trace lines).world.surface = c.world.surface := by
  rw [Course.trace, Course.trace]
  induction lines generalizing c with
  | nil => exact ⟨rfl, rfl⟩
  | cons line rest ih =>
    rw [List.foldl_cons, List.foldl_cons]
    exact ih (c.log (.traced line))

/-- Moves of two worlds that begin and end alike. -/
structure GoAlike {β : Type} (p : Pending (List Json × σ) α) (p' : Pending σ β) : Prop where
  begun : p.begun.cancels = p'.begun.cancels
  delay : p.delay = p'.delay
  world : p.ended.world.2 = p'.ended.world
  cancels : p.ended.cancels = p'.ended.cancels

/-- Moves that go alike are taken in alike. -/
theorem forget_await {β : Type} (c : Course (Link (List Json × σ)))
    (move : List Json × σ → Pending (List Json × σ) α) (move' : σ → Pending σ β)
    (alike : GoAlike (move c.world.surface) (move' c.world.surface.2)) :
    (await (forget c) move').2 = forget (await c move).2 ∧
      (await c move).2.world.surface = (move c.world.surface).ended.world := by
  refine ⟨?_, congrArg Link.surface (world_await c move)⟩
  obtain ⟨hbegun, hdelay, hworld, hcancels⟩ := alike
  rw [await, await, show (forget c).world.surface = c.world.surface.2 from rfl]
  generalize move c.world.surface = p at *
  generalize move' c.world.surface.2 = p' at *
  obtain ⟨⟨_, _, begun⟩, delay, ⟨_, _, ended⟩⟩ := p
  obtain ⟨⟨_, _, begun'⟩, delay', ⟨_, _, ended'⟩⟩ := p'
  cases hbegun
  cases hdelay
  cases hworld
  cases hcancels
  -- a request to cancel can come at the beginning, at the end, at both or at neither
  cases begun <;> cases ended <;> rfl

theorem installKey_forget (surface : Surface σ) (settings : Settings)
    (c : Course (Link (List Json × σ))) :
    installKey surface settings (forget c) =
        ((installKey surface.queued settings c).1,
          forget (installKey surface.queued settings c).2) ∧
      (installKey surface.queued settings c).2.world.surface.1 = c.world.surface.1 := by
  rw [installKey, installKey, show (forget c).world.keyInstalled = c.world.keyInstalled from rfl]
  -- the key was posted before, or it is posted now, which both runs do alike
  split
  · exact ⟨rfl, rfl⟩
  · obtain ⟨hposted, hsurface⟩ := forget_await c
      (surface.queued.post c.now settings.key.setKeyMessage)
      (surface.post c.now settings.key.setKeyMessage) ⟨rfl, rfl, rfl, rfl⟩
    dsimp only
    rw [show (forget c).now = c.now from rfl, hposted]
    have hqueue := congrArg Prod.fst hsurface
    exact ⟨rfl, hqueue⟩

/-- Posting leaves what is waiting where it is. -/
theorem post_forget (surface : Surface σ) (settings : Settings) (message : Json)
    (c : Course (Link (List Json × σ))) :
    post surface settings message (forget c) = forget (post surface.queued settings message c) ∧
      (post surface.queued settings message c).world.surface.1 = c.world.surface.1 := by
  rw [post, post, show (forget c).world.envelopeCount = c.world.envelopeCount from rfl]
  generalize Channel.encrypt settings.key (settings.nonces c.world.envelopeCount) message = envelope
  let counted := { c with world := { c.world with envelopeCount := c.world.envelopeCount + 1 } }
  obtain ⟨hposted, hsurface⟩ := forget_await (counted.log (.posting message))
    (surface.queued.post c.now envelope) (surface.post c.now envelope) ⟨rfl, rfl, rfl, rfl⟩
  have hqueue := congrArg Prod.fst hsurface
  refine ⟨?_, hqueue⟩
  have hlog := congrArg (fun d => d.log (.posted message
    (succeeded (surface.post c.now envelope c.world.surface.2).ended.answer))) hposted
  exact hlog

/-- What a drain delivers is what it delivers without the messages that wait, after some of these. -/
theorem drain_queued (surface : Surface σ) (now : Moment) (s : List Json × σ) :
    ∃ waited left, drained (surface.queued.drain now s).ended.answer =
        waited ++ drained (surface.drain now s.2).ended.answer ∧
      (surface.queued.drain now s).ended.world = (left, (surface.drain now s.2).ended.world) ∧
      (surface.queued.drain now s).ended.cancels = (surface.drain now s.2).ended.cancels ∧
      (∀ raw ∈ waited, raw ∈ s.1) ∧ (∀ raw ∈ left, raw ∈ s.1) := by
  cases hanswer : (surface.drain now s.2).ended.answer with
  -- a drain that succeeds empties the queue, and one that fails leaves it
  | ok messages =>
    refine ⟨s.1, [], ?_, ?_, ?_, fun _ hmem => hmem, List.forall_mem_nil _⟩ <;>
      simp [Surface.queued, hanswer, drained]
  | error cause =>
    refine ⟨[], s.1, ?_, ?_, ?_, List.forall_mem_nil _, fun _ hmem => hmem⟩ <;>
      simp [Surface.queued, hanswer, drained]

/-- The same for a fetch. -/
theorem fetch_forget (surface : Surface σ) (settings : Settings)
    (c : Course (Link (List Json × σ))) :
    ∃ waited, (∀ raw ∈ waited, raw ∈ c.world.surface.1) ∧
      (fetch surface.queued settings c).1 = waited ++ (fetch surface settings (forget c)).1 ∧
      (fetch surface settings (forget c)).2 = forget (fetch surface.queued settings c).2 ∧
      ∀ raw ∈ (fetch surface.queued settings c).2.world.surface.1, raw ∈ c.world.surface.1 := by
  obtain ⟨waited, left, hdrained, hworld, hcancels, hwaited, hleft⟩ :=
    drain_queued surface (c.now + settings.timings.pollInterval) c.world.surface
  obtain ⟨hcourse, hsurface⟩ := forget_await (c.advance settings.timings.pollInterval)
    (surface.queued.drain (c.now + settings.timings.pollInterval))
    (surface.drain (c.now + settings.timings.pollInterval))
    ⟨rfl, rfl, congrArg Prod.snd hworld, hcancels⟩
  -- what was waiting comes first, then what the extension gives
  rw [fetch_eq, fetch_eq]
  refine ⟨waited, hwaited, hdrained, hcourse, ?_⟩
  dsimp only
  rw [hsurface, show (c.advance settings.timings.pollInterval).world = c.world from rfl, hworld]
  exact hleft

/-! ## Runs -/

/-- Two runs that give the same answer and go alike but for messages that wait and ask for nothing. -/
def Alike (key : Channel.Key) (queued : Option α × Run (List Json × σ))
    (plain : Option α × Run σ) : Prop :=
  plain = (queued.1, queued.2.forget) ∧ Idle key queued.2.course

theorem Alike.exists_eq {key : Channel.Key} {queued : Option α × Run (List Json × σ)}
    {plain : Option α × Run σ} (alike : Alike key queued plain) :
    ∃ answer last, queued = (answer, last) ∧ plain = (answer, last.forget) ∧
      Idle key last.course :=
  ⟨queued.1, queued.2, rfl, alike⟩

variable {settings : Settings} {r : Run (List Json × σ)}

/-- A poll may take waiting messages in, and they change nothing. -/
theorem poll_forget (surface : Surface σ) (idle : Idle settings.key r.course) :
    poll surface settings r.forget = (poll surface.queued settings r).forget ∧
      Idle settings.key (poll surface.queued settings r).course := by
  obtain ⟨waited, hwaited, hfetched, hcourse, hleft⟩ := fetch_forget surface settings r.course
  rw [poll, poll]
  rw [show r.forget.course = forget r.course from rfl]
  rcases hqueued : fetch surface.queued settings r.course with ⟨messages, c⟩
  rcases hplain : fetch surface settings (forget r.course) with ⟨messages', c'⟩
  rw [hqueued, hplain] at hfetched hcourse
  rw [hqueued] at hleft
  dsimp only at hfetched hcourse hleft ⊢
  subst hfetched hcourse
  -- the messages that waited come in first and change nothing
  have hskip : Binding.handleAll settings.key c.now (c.world.binding, r.act) (waited ++ messages') =
      Binding.handleAll settings.key c.now (c.world.binding, r.act) messages' := by
    have hwaited := Binding.handleAll_of_not_asks
      (fun raw hmem => idle raw (hwaited raw hmem)) c.now (c.world.binding, r.act)
    rw [Binding.handleAll] at hwaited
    rw [Binding.handleAll, List.foldl_append, hwaited]
    rfl
  rw [hskip]
  exact ⟨rfl, fun raw hmem => idle raw (hleft raw hmem)⟩

/-- A prompt is posted alike. -/
theorem postPrompt_forget (surface : Surface σ) (idle : Idle settings.key r.course) :
    postPrompt surface settings r.forget = (postPrompt surface.queued settings r).forget ∧
      Idle settings.key (postPrompt surface.queued settings r).course := by
  rw [postPrompt, postPrompt]
  obtain ⟨hpost, hqueue⟩ := post_forget surface settings (Channel.Message.pendingPrompt r.act
    settings.apiKey settings.service.apiUri settings.credentials) r.course
  refine ⟨congrArg (Run.mk r.act) hpost, ?_⟩
  rw [Idle, hqueue]
  exact idle

theorem untilAccepted_forget (surface : Surface σ) (fuel : Nat) (deadline : Moment)
    (idle : Idle settings.key r.course) :
    Alike settings.key (untilAccepted surface.queued settings fuel deadline r)
      (untilAccepted surface settings fuel deadline r.forget) :=
  Course.repeatUntil_map Run.forget (fun _ => rfl) (fun _ idle => poll_forget surface idle) fuel idle

theorem cancelAndWait_forget (surface : Surface σ) (fuel : Nat)
    (idle : Idle settings.key r.course) :
    Alike settings.key (cancelAndWait surface.queued settings fuel r)
      (cancelAndWait surface settings fuel r.forget) := by
  obtain ⟨hpost, hqueue⟩ := post_forget surface settings Channel.Message.cancel r.course
  have hidle : Idle settings.key
      (Run.mk r.act (post surface.queued settings Channel.Message.cancel r.course)).course := by
    rw [Idle, hqueue]
    exact idle
  rw [cancelAndWait, cancelAndWait, untilComplete, untilComplete,
    show r.forget.course = forget r.course from rfl, hpost]
  exact Course.repeatUntil_map Run.forget (P := fun r => Idle settings.key r.course) (fun _ => rfl)
    (fun _ idle => poll_forget surface idle) fuel hidle

/-- One prompt with its wait. -/
theorem attempt_forget (surface : Surface σ) (fuel : Nat) (idle : Idle settings.key r.course) :
    Alike settings.key (attempt surface.queued settings fuel r)
      (attempt surface settings fuel r.forget) := by
  obtain ⟨hprompt, hidle⟩ := postPrompt_forget surface idle
  rw [attempt, attempt, hprompt]
  generalize postPrompt surface.queued settings r = prompted at hidle
  obtain ⟨answer, last, hqueued, hplain, hlast⟩ := (untilAccepted_forget surface fuel
    (prompted.course.now + acceptanceTime settings prompted.act prompted.course.now)
    hidle).exists_eq
  rw [show prompted.forget.course.now = prompted.course.now from rfl,
    show prompted.forget.act = prompted.act from rfl, hqueued, hplain]
  cases answer with
  | none => exact ⟨rfl, hlast⟩
  | some accepted => exact ⟨rfl, hlast⟩

/-- All prompts, by induction on how many are left. -/
theorem attempts_forget (surface : Surface σ) (fuel n : Nat) (idle : Idle settings.key r.course) :
    Alike settings.key (attempts surface.queued settings fuel n r)
      (attempts surface settings fuel n r.forget) := by
  induction n generalizing r with
  | zero => exact ⟨rfl, idle⟩
  | succ n ih =>
    obtain ⟨answer, last, hqueued, hplain, hlast⟩ := (attempt_forget surface fuel idle).exists_eq
    rw [attempts, attempts, hqueued, hplain]
    -- no end, no acceptance, or one
    rcases answer with _ | _ | _
    · exact ⟨rfl, hlast⟩
    · dsimp only
      split
      · exact ⟨rfl, hlast⟩
      · exact ih (r := { last with
          course := last.course.advance settings.timings.retryDelay }) hlast
    · exact ⟨rfl, hlast⟩

/-- The run changes its act without the extension. -/
theorem change_forget (key : Channel.Key) (operation : Act.Operation) (idle : Idle key r.course) :
    Alike key (r.change operation) (r.forget.change operation) := by
  rw [Run.change, Run.change, show r.forget.course.now = r.course.now from rfl,
    show r.forget.act = r.act from rfl]
  split
  · exact ⟨rfl, idle⟩
  · exact ⟨rfl, idle⟩

/-- The end at the deadline of the act. -/
theorem timeOut_forget (surface : Surface σ) (fuel : Nat) (idle : Idle settings.key r.course) :
    Alike settings.key (timeOut surface.queued settings fuel r)
      (timeOut surface settings fuel r.forget) := by
  obtain ⟨trouble, marked, hqueued, hplain, hmarked⟩ :=
    (change_forget settings.key .markTimedOut idle).exists_eq
  rw [timeOut, timeOut, hqueued, hplain]
  cases trouble with
  | some trouble => exact ⟨rfl, hmarked⟩
  -- the act is marked in both runs, and canceled in both
  | none =>
    obtain ⟨answer, last, hqueued, hplain, hlast⟩ :=
      (cancelAndWait_forget surface fuel hmarked).exists_eq
    dsimp only
    rw [hqueued, hplain]
    rcases answer with _ | _ | _
    · exact ⟨rfl, hlast⟩
    · obtain ⟨trouble, failed, hqueued, hplain, hfailed⟩ :=
        (change_forget settings.key (.fail timeOutPayload) hlast).exists_eq
      dsimp only
      rw [hqueued, hplain]
      exact ⟨rfl, hfailed⟩
    · exact ⟨rfl, hlast⟩

/-- Lines of the trace leave the messages that wait where they are. -/
theorem trace_forget (key : Channel.Key) (act : Act) (lines : List String)
    {c : Course (Link (List Json × σ))} (idle : Idle key c) :
    Run.mk act ((forget c).trace lines) = (Run.mk act (c.trace lines)).forget ∧
      Idle key (Run.mk act (c.trace lines)).course := by
  obtain ⟨htrace, hsurface⟩ := forget_trace c lines
  refine ⟨congrArg (Run.mk act) htrace, ?_⟩
  rw [Idle, hsurface]
  exact idle

/-- Following an act. The induction is on the number of rounds. -/
theorem follow_forget (surface : Surface σ) (waitFuel n observed : Nat)
    (idle : Idle settings.key r.course) :
    Alike settings.key (follow surface.queued settings waitFuel n observed r)
      (follow surface settings waitFuel n observed r.forget) := by
  induction n generalizing observed r with
  | zero => exact ⟨rfl, idle⟩
  | succ n ih =>
    rw [follow, follow, show r.forget.act = r.act from rfl,
      show r.forget.course.now = r.course.now from rfl]
    split
    · exact ⟨rfl, idle⟩
    split
    · exact timeOut_forget surface waitFuel idle
    -- one round: a poll, the trace of its steps, and a request to cancel that may have come with it
    obtain ⟨hpoll, hpolled⟩ := poll_forget surface idle
    rw [hpoll]
    generalize poll surface.queued settings r = polled at hpolled
    obtain ⟨htrace, htraced⟩ := trace_forget settings.key polled.act
      ((polled.act.steps.drop observed).flatMap fun step =>
        settings.trace.programLines step.program) hpolled
    rw [show traceSteps settings observed polled.forget = _ from htrace]
    rw [show Run.mk polled.act (polled.course.trace _) = traceSteps settings observed polled
      from rfl] at htraced ⊢
    generalize traceSteps settings observed polled = traced at htraced
    dsimp only
    rw [show traced.forget.act = traced.act from rfl,
      show traced.forget.course.cancelRequested = traced.course.cancelRequested from rfl]
    split
    · obtain ⟨hhear, hheard⟩ := trace_forget (c := traced.course.resetCancel) settings.key
        traced.act [settings.trace.line "Terminating agent workflow"] htraced
      rw [show hearCancel settings traced.forget = _ from hhear]
      obtain ⟨answer, last, hqueued, hplain, hlast⟩ :=
        (cancelAndWait_forget surface waitFuel hheard).exists_eq
      rw [show hearCancel settings traced = Run.mk traced.act _ from rfl, hqueued, hplain]
      rcases answer with _ | _ | _
      · exact ⟨rfl, hlast⟩
      · exact ⟨rfl, hlast⟩
      · exact ih traced.act.steps.length hlast
    · exact ih traced.act.steps.length htraced

/-- A run with its act bound. -/
theorem runBound_forget (surface : Surface σ) (fuel : Nat) (idle : Idle settings.key r.course) :
    Alike settings.key (runBound surface.queued settings fuel r)
      (runBound surface settings fuel r.forget) := by
  obtain ⟨answer, last, hqueued, hplain, hlast⟩ :=
    (attempts_forget surface fuel (tries settings) idle).exists_eq
  rw [runBound, runBound, hqueued, hplain]
  rcases answer with _ | _ | _
  · exact ⟨rfl, hlast⟩
  · exact ⟨rfl, hlast⟩
  · exact follow_forget surface fuel fuel 0 hlast

/-- A whole run. -/
theorem run_forget (surface : Surface σ) (fuel : Nat) (act : Act)
    {c : Course (Link (List Json × σ))} (idle : Idle settings.key c) :
    Alike settings.key (run surface.queued settings fuel act c)
      (run surface settings fuel act (forget c)) := by
  obtain ⟨hinstall, hqueue⟩ := installKey_forget surface settings c
  rw [run, run, hinstall]
  rcases hqueued : installKey surface.queued settings c with ⟨answer, installed⟩
  rw [hqueued] at hqueue
  -- nothing is taken in while the key is posted
  have hidle : Idle settings.key installed := by
    rw [Idle, hqueue]
    exact idle
  cases answer with
  | error cause => exact ⟨rfl, hidle⟩
  | ok key =>
    dsimp only
    rw [show (forget installed).world.binding = installed.world.binding from rfl]
    split
    · exact ⟨rfl, hidle⟩
    · rename_i binding _
      exact runBound_forget (r := ⟨act, (rebind installed binding).resetCancel⟩) surface fuel hidle

/-- **A run goes as without the messages that wait, where none of them asks for anything.** -/
theorem dispatchWithin_forget (surface : Surface σ) (fuel : Nat) (act : Act)
    {c : Course (Link (List Json × σ))} (idle : Idle settings.key c) :
    Alike settings.key (dispatchWithin surface.queued settings fuel act c)
      (dispatchWithin surface settings fuel act (forget c)) := by
  obtain ⟨answer, last, hqueued, hplain, hlast⟩ := (run_forget surface fuel act idle).exists_eq
  rw [dispatchWithin, dispatchWithin, hqueued, hplain]
  cases answer with
  | none => exact ⟨rfl, hlast⟩
  | some trouble => exact ⟨rfl, hlast⟩

/-! ## The fate of an act -/

/-- What becomes of an act: what it comes to, whether it is acknowledged, its steps and its result. -/
def fate (dispatched : Option Act.Outcome × Run σ) :
    Option Act.Outcome × Bool × List Act.Step × Option Act.Ending :=
  (dispatched.1, dispatched.2.act.acknowledged, dispatched.2.act.steps, dispatched.2.act.result)

/-- The fate of an act shows whether anything came in for it. -/
theorem isTouched_congr_fate {τ : Type} {dispatched : Option Act.Outcome × Run σ}
    {dispatched' : Option Act.Outcome × Run τ} (same : fate dispatched = fate dispatched') :
    dispatched.2.act.isTouched = dispatched'.2.act.isTouched := by
  rw [fate, fate, Prod.mk.injEq, Prod.mk.injEq, Prod.mk.injEq] at same
  obtain ⟨_, hacknowledged, hsteps, hresult⟩ := same
  rw [Act.isTouched, Act.isTouched, Act.isComplete, Act.isComplete, hacknowledged, hsteps, hresult]

/-! ## Short runs -/

section

variable (key : Channel.Key) (ackTimeout : Duration) (queue : List Json)

/-- A silent side of the browser takes the key. -/
theorem installKey_silent :
    installKey (saying []).queued (brief key ackTimeout) (withWaiting queue (.start (.new ()))) =
      (.ok (), (installKey (saying []).queued (brief key ackTimeout)
        (withWaiting queue (.start (.new ())))).2) := rfl

/-- What was waiting is all that comes in. -/
theorem act_firstPoll_silent (act : Act) :
    (firstPoll (saying []).queued (brief key ackTimeout) act
        (installKey (saying []).queued (brief key ackTimeout)
          (withWaiting queue (.start (.new ())))).2 (.act act.id true)).act =
      (Binding.handleAll key 1 (.act act.id true, act) queue).2 := by
  have hall : (firstPoll (saying []).queued (brief key ackTimeout) act
      (installKey (saying []).queued (brief key ackTimeout)
        (withWaiting queue (.start (.new ())))).2 (.act act.id true)).act =
      (Binding.handleAll key 1 (.act act.id true, act) (queue ++ [])).2 := rfl
  rw [hall, List.append_nil]

variable {act : Act} (unlimited : act.request.timeout = none) (fresh : act.isAccepted = false)

include unlimited fresh

/-- The act is given up with what was waiting, where the wait is over by then. -/
theorem dispatchWithin_silent_late :
    ∃ r, dispatchWithin (saying []).queued (brief key 1) 1 act
        (withWaiting queue (.start (.new ()))) = (some (givenUp r.act), r) ∧
      r.act = (Binding.handleAll key 1 (.act act.id true, act) queue).2 := by
  rw [← act_firstPoll_silent key 1 queue act]
  exact dispatchWithin_late (saying []).queued 0 (rfl : (brief key 1).retry = false) Nat.one_pos
    (Nat.le_refl 1) unlimited fresh (installKey_silent key 1 queue)
    (bind_idle (Bool.or_eq_false_iff.mp fresh).2)

/-- The act comes to its own outcome, where a completion was waiting and the wait goes on. -/
theorem dispatchWithin_silent_completed (completes :
      (Binding.handleAll key 1 (.act act.id true, act) queue).2.isComplete = true) :
    ∃ r, dispatchWithin (saying []).queued (brief key 2) 2 act
        (withWaiting queue (.start (.new ()))) = (some (r.act.outcome .prod), r) ∧
      r.act = (Binding.handleAll key 1 (.act act.id true, act) queue).2 := by
  rw [← act_firstPoll_silent key 2 queue act] at completes ⊢
  exact dispatchWithin_completed (saying []).queued 1 (queued_within (repeats_saying []).within)
    Nat.one_lt_two unlimited fresh (installKey_silent key 2 queue)
    (bind_idle (Bool.or_eq_false_iff.mp fresh).2) completes

end

/-! ## All messages that leave every act alone -/

/-- **Messages that wait count as if they were meant for the next act.** They leave the fate of every
act as it is, however the run goes, exactly when none of them asks for anything: when none is an
acceptance, a completion, or a step that can be recorded. -/
theorem fate_queued_iff (key : Channel.Key) (queue : List Json) :
    (∀ (σ : Type) (surface : Surface σ) (settings : Settings) (fuel : Nat) (act : Act)
        (c : Course (Link σ)), settings.key = key → act.isComplete = false →
        fate (dispatchWithin surface.queued settings fuel act (withWaiting queue c)) =
          fate (dispatchWithin surface settings fuel act c)) ↔
      ∀ raw ∈ queue, ¬ Asks key raw := by
  constructor
  · intro hsame raw hmem hasks
    -- an extension that is silent: the one poll of the run brings what was waiting and no more
    let act := Channel.Sample.act
    have hfate := isTouched_congr_fate
      (hsame Unit (saying []) (brief key 1) 1 act (.start (.new ())) rfl rfl)
    obtain ⟨r, hqueued, hact⟩ :=
      dispatchWithin_silent_late key queue (rfl : act.request.timeout = none) rfl
    obtain ⟨r', hplain, hact'⟩ :=
      dispatchWithin_saying key [] (rfl : act.request.timeout = none) rfl
    have htouched := Binding.isTouched_of_mem_asks hmem hasks (rfl : act.isComplete = false) 1
    rw [hqueued, hplain] at hfate
    dsimp only at hfate
    rw [hact, htouched, hact'] at hfate
    cases hfate
  -- nothing that waits asks for anything, so the two runs go side by side to their end
  · rintro hidle σ surface settings fuel act c rfl _
    obtain ⟨answer, last, hqueued, hplain, _⟩ :=
      (dispatchWithin_forget surface fuel act (c := withWaiting queue c) hidle).exists_eq
    rw [show forget (withWaiting queue c) = c from rfl] at hplain
    rw [hqueued, hplain]
    rfl

namespace Sample

open Channel.Sample (act key nonce receive_success)

/-- The late success of another act, say, waits in the transport, and the extension says nothing else:
the next act succeeds with it, while without it that act gets no result. -/
theorem leftover_completes :
    act.isComplete = false ∧
      (∃ r, dispatchWithin (saying []).queued (brief key 2) 2 act
          (withWaiting [Channel.encrypt key nonce (Channel.Message.success "wool")]
            (.start (.new ()))) = (some (r.act.outcome .prod), r) ∧
        r.act.result = some (.succeeded "wool")) ∧
      (dispatchWithin (saying []) (brief key 2) 2 act (.start (.new ()))).2.act.result = none := by
  have hread : Channel.reading? key 1
      (Channel.encrypt key nonce (Channel.Message.success "wool")) =
        some (.completion (.success "wool")) := by
    rw [Channel.reading?, receive_success]
    rfl
  -- the success of the act before is the result of this one
  have hresult : (Binding.handleAll key 1 (.act act.id true, act)
      [Channel.encrypt key nonce (Channel.Message.success "wool")]).2.result =
        some (.succeeded "wool") := by
    rw [Binding.handleAll, List.foldl_cons, List.foldl_nil, Binding.take_of_reading hread]
    rfl
  have hsilent (key : Channel.Key) :
      (dispatchWithin (saying []) (brief key 2) 2 act (.start (.new ()))).2.act.result = none := rfl
  refine ⟨rfl, ?_, hsilent key⟩
  obtain ⟨r, hcompleted, hact⟩ := dispatchWithin_silent_completed key
    [Channel.encrypt key nonce (Channel.Message.success "wool")]
    (rfl : act.request.timeout = none) rfl (by rw [Act.isComplete, hresult]; rfl)
  exact ⟨r, hcompleted, hact ▸ hresult⟩

end Sample

end BrowserAct.Dispatch.Extension
