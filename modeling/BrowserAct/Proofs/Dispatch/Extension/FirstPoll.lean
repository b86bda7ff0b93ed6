import BrowserAct.Proofs.Dispatch.Extension.Marks

/-!
# What the first poll decides

A wait for an acceptance can be over with its first poll: because the poll takes as long as the wait,
or because it brings the acceptance. For an act without a limit of time such a run is known in full.

* **`dispatchWithin_late`** is the run of an act whose only wait is over with its first poll.
* **`dispatchWithin_completed`** is the run of an act that is complete with its first poll.
* **`dispatchWithin_of_repeats`** is about a side of the browser that completes each act with the first poll.
-/

namespace BrowserAct.Dispatch.Extension

variable {σ : Type}

/-! ## One wait -/

/-- A wait that is over with its first poll. -/
theorem untilAccepted_first (surface : Surface σ) (settings : Settings) (fuel : Nat)
    {deadline : Moment} {r : Run σ} {answer : Bool} (fresh : r.act.isAccepted = false)
    (early : r.course.now < deadline)
    (ends : (if deadline ≤ (poll surface settings r).course.now then some false
      else if (poll surface settings r).act.isAccepted then some true else none) = some answer) :
    untilAccepted surface settings (fuel + 1) deadline r =
      (some answer, poll surface settings r) := by
  rw [Act.isAccepted] at fresh
  rw [untilAccepted, Course.repeatUntil, if_neg (Nat.not_le_of_lt early), fresh,
    if_neg Bool.false_ne_true]
  exact Course.repeatUntil_of_some ends

/-- The same for a prompt, where the act has no limit of time. -/
theorem attempt_first (surface : Surface σ) {settings : Settings} (fuel : Nat) {r : Run σ}
    {answer : Bool} (unlimited : r.act.request.timeout = none) (fresh : r.act.isAccepted = false)
    (waits : 0 < settings.timings.ackTimeout)
    (ends : (if (postPrompt surface settings r).course.now + settings.timings.ackTimeout ≤
        (poll surface settings (postPrompt surface settings r)).course.now then some false
      else if (poll surface settings (postPrompt surface settings r)).act.isAccepted then some true
      else none) = some answer) :
    attempt surface settings (fuel + 1) r =
      (some answer, poll surface settings (postPrompt surface settings r)) := by
  have hact : (postPrompt surface settings r).act = r.act := rfl
  have htime (now : Moment) : acceptanceTime settings r.act now = settings.timings.ackTimeout := by
    rw [acceptanceTime, Act.remaining, unlimited]
    rfl
  rw [attempt, hact, htime]
  generalize postPrompt surface settings r = prompted at hact ends
  obtain ⟨-, -, hterms⟩ := poll_marks surface settings prompted
  have hwait : untilAccepted surface settings (fuel + 1)
      (prompted.course.now + settings.timings.ackTimeout) prompted =
        (some answer, poll surface settings prompted) :=
    untilAccepted_first surface settings fuel (hact ▸ fresh) (Nat.lt_add_of_pos_right waits) ends
  -- without a limit of time the answer of the wait is the answer of the prompt
  have hopen (now : Moment) : (poll surface settings prompted).act.isPastDeadline now = false := by
    rw [Act.isPastDeadline_congr hterms, hact, Act.isPastDeadline, Act.remaining, unlimited]
    rfl
  rw [hwait]
  dsimp only
  rw [hopen, Bool.or_false]

/-! ## Whole runs -/

/-- The first poll of an act, on a link where the key is installed and the act is bound. -/
def firstPoll (surface : Surface σ) (settings : Settings) (act : Act) (installed : Course (Link σ))
    (binding : Channel.Binding) : Run σ :=
  poll surface settings
    (postPrompt surface settings ⟨act, (rebind installed binding).resetCancel⟩)

section

variable (surface : Surface σ) {settings : Settings} (fuel : Nat) {act : Act}
  {c installed : Course (Link σ)} {binding : Channel.Binding}

/-- A dispatch that ends within its fuel is a dispatch. -/
theorem dispatch_of_dispatchWithin {outcome : Act.Outcome} {r : Run σ}
    (ended : dispatchWithin surface settings fuel act c = (some outcome, r)) :
    dispatch surface settings fuel act c = some (outcome, r) := by
  rw [dispatch, ended]

/-- With its key posted and its act bound, a run is that of the bound act. -/
theorem run_of_bind (installs : installKey surface settings c = (.ok (), installed))
    (binds : installed.world.binding.bind act = .ok binding) :
    run surface settings fuel act c =
      runBound surface settings fuel ⟨act, (rebind installed binding).resetCancel⟩ := by
  rw [run, installs]
  dsimp only
  rw [binds]

/-- An act that is prompted once, and whose wait is over with the first poll, is given up then, whatever
came in with it. -/
theorem dispatchWithin_late (once : settings.retry = false)
    (waits : 0 < settings.timings.ackTimeout)
    (short : settings.timings.ackTimeout ≤ settings.timings.pollInterval)
    (unlimited : act.request.timeout = none) (fresh : act.isAccepted = false)
    (installs : installKey surface settings c = (.ok (), installed))
    (binds : installed.world.binding.bind act = .ok binding) :
    ∃ r, dispatchWithin surface settings (fuel + 1) act c = (some (givenUp r.act), r) ∧
      r.act = (firstPoll surface settings act installed binding).act := by
  have htries : tries settings = 1 := by
    rw [tries, once]
    rfl
  -- the poll takes the interval at least, which is as long as the wait
  have hover := Nat.le_trans (Nat.add_le_add_left short _)
    (poll_marks surface settings
      (postPrompt surface settings ⟨act, (rebind installed binding).resetCancel⟩)).1
  have hattempt := attempt_first (r := ⟨act, (rebind installed binding).resetCancel⟩) surface fuel
    unlimited fresh waits (if_pos hover)
  rw [dispatchWithin, run_of_bind surface (fuel + 1) installs binds, runBound, htries, attempts,
    hattempt]
  let r := firstPoll surface settings act installed binding
  exact ⟨{ r with course := rebind r.course .idle }, rfl, rfl⟩

/-- An act that is complete with the first poll, while its wait lasts, is not followed any more. -/
theorem dispatchWithin_completed_eq (atOnce : surface.Within 0)
    (long : settings.timings.pollInterval < settings.timings.ackTimeout)
    (unlimited : act.request.timeout = none) (fresh : act.isAccepted = false)
    (installs : installKey surface settings c = (.ok (), installed))
    (binds : installed.world.binding.bind act = .ok binding)
    (completes : (firstPoll surface settings act installed binding).act.isComplete = true) :
    dispatchWithin surface settings (fuel + 1) act c =
      (some ((firstPoll surface settings act installed binding).act.outcome settings.service),
        ⟨(firstPoll surface settings act installed binding).act,
          rebind (firstPoll surface settings act installed binding).course .idle⟩) := by
  have haccepted : (firstPoll surface settings act installed binding).act.isAccepted = true := by
    rw [Act.isAccepted, completes, Bool.or_true]
  -- the poll ends before the wait does, as the surface takes no time
  have hearly : ¬ (postPrompt surface settings
        ⟨act, (rebind installed binding).resetCancel⟩).course.now + settings.timings.ackTimeout ≤
      (firstPoll surface settings act installed binding).course.now := by
    have hpoll := now_poll_le atOnce settings
      (postPrompt surface settings ⟨act, (rebind installed binding).resetCancel⟩)
    exact Nat.not_le_of_lt (Nat.lt_of_le_of_lt hpoll (Nat.add_lt_add_left long _))
  have hattempt := attempt_first (r := ⟨act, (rebind installed binding).resetCancel⟩) surface fuel
    unlimited fresh (Nat.lt_of_le_of_lt (Nat.zero_le _) long)
    ((if_neg hearly).trans (if_pos haccepted))
  have htries : ∃ more, tries settings = more + 1 := by
    refine Nat.exists_eq_add_one.mpr ?_
    rw [tries]
    split <;> omega
  obtain ⟨more, hmore⟩ := htries
  -- the first prompt is answered, and following finds the act complete at once
  rw [dispatchWithin, run_of_bind surface (fuel + 1) installs binds, runBound, hmore, attempts,
    hattempt]
  dsimp only
  rw [follow]
  rw [show (poll surface settings (postPrompt surface settings
    ⟨act, (rebind installed binding).resetCancel⟩)).act.isComplete = true from completes, if_pos rfl]
  rfl

/-- So it comes to its own outcome. -/
theorem dispatchWithin_completed (atOnce : surface.Within 0)
    (long : settings.timings.pollInterval < settings.timings.ackTimeout)
    (unlimited : act.request.timeout = none) (fresh : act.isAccepted = false)
    (installs : installKey surface settings c = (.ok (), installed))
    (binds : installed.world.binding.bind act = .ok binding)
    (completes : (firstPoll surface settings act installed binding).act.isComplete = true) :
    ∃ r, dispatchWithin surface settings (fuel + 1) act c =
        (some (r.act.outcome settings.service), r) ∧
      r.act = (firstPoll surface settings act installed binding).act :=
  let r := firstPoll surface settings act installed binding
  ⟨⟨r.act, rebind r.course .idle⟩,
    dispatchWithin_completed_eq surface fuel atOnce long unlimited fresh installs binds completes, rfl⟩

end

/-! ## A side that always says the same -/

/-- A side of the browser that takes every post and answers every drain with the same messages, at
once. -/
structure Repeats (surface : Surface σ) (messages : List Json) : Prop where
  within : surface.Within 0
  posts : ∀ now message world, (surface.post now message world).ended.answer = .ok ()
  drains : ∀ now world, (surface.drain now world).ended.answer = .ok messages

/-- A window in which nothing is bound takes in any act that is open. -/
theorem bind_idle {act : Act} (isOpen : act.isComplete = false) :
    Channel.Binding.idle.bind act = .ok (.act act.id true) := by
  rw [Channel.Binding.bind, isOpen]
  rfl

section

variable {surface : Surface σ} {messages : List Json} (repeats : Repeats surface messages)
  (settings : Settings)
include repeats

/-- The key is delivered at once. -/
theorem installKey_of_repeats (c : Course (Link σ)) :
    ∃ installed, installKey surface settings c = (.ok (), installed) ∧ installed.now = c.now ∧
      installed.world.binding = c.world.binding := by
  have hsoon := (installKey_quiet marks (fun _ => rfl) surface settings c).2 0 repeats.within
  have hlater := le_now_installKey surface settings c
  rw [installKey] at hsoon hlater ⊢
  -- there is a key already, or it is posted in no time
  split at hsoon <;> rename_i hinstalled
  · exact ⟨c, if_pos hinstalled, rfl, rfl⟩
  · rw [if_neg hinstalled] at hlater ⊢
    have hanswer : (await c (surface.post c.now settings.key.setKeyMessage)).1 = .ok () :=
      repeats.posts _ _ _
    have hworld := world_await c (surface.post c.now settings.key.setKeyMessage)
    generalize await c (surface.post c.now settings.key.setKeyMessage) = posted at *
    obtain ⟨answer, after⟩ := posted
    subst hanswer
    refine ⟨_, rfl, Nat.le_antisymm hsoon hlater, ?_⟩
    dsimp only at hworld ⊢
    rw [Course.log, hworld]

/-- The first poll takes in all that it says, one interval after the key was there. -/
theorem act_firstPoll (act : Act) (installed : Course (Link σ)) (binding : Channel.Binding) :
    (firstPoll surface settings act installed binding).act =
      (Channel.Binding.handleAll settings.key (installed.now + settings.timings.pollInterval)
        (binding, act) messages).2 := by
  let bound : Run σ := ⟨act, (rebind installed binding).resetCancel⟩
  let prompted := postPrompt surface settings bound
  -- no time passes but the interval of the poll
  have hposted : prompted.course.now = installed.now :=
    Nat.le_antisymm (now_post_le repeats.within settings _ _)
      (le_now_post surface settings _ bound.course)
  have hbinding : prompted.course.world.binding = binding := by
    show (post surface settings _ bound.course).world.binding = binding
    rw [post]
    exact congrArg Link.binding (world_await _ _)
  have hfetched : fetch surface settings prompted.course =
      (messages, (fetch surface settings prompted.course).2) := by
    refine Prod.ext ?_ rfl
    rw [fetch_eq]
    exact congrArg drained (repeats.drains _ _)
  have hnow : (fetch surface settings prompted.course).2.now =
      installed.now + settings.timings.pollInterval := by
    obtain ⟨-, hlater, hsoon⟩ := fetch_quiet marks surface settings prompted.course
    rw [hposted] at hlater hsoon
    exact Nat.le_antisymm (hsoon 0 repeats.within) hlater
  -- what is bound is bound until the messages are handled
  have hkept : (fetch surface settings prompted.course).2.world.binding = binding := by
    rw [fetch_eq]
    exact (congrArg Link.binding (world_await _ _)).trans hbinding
  show (poll surface settings prompted).act = _
  rw [poll, hfetched]
  dsimp only
  rw [hnow, hkept]
  rfl

/-- An act that this completes comes to its own outcome with the first poll, wherever nothing was
bound. -/
theorem dispatchWithin_of_repeats (long : settings.timings.pollInterval < settings.timings.ackTimeout)
    {c : Course (Link σ)} (idle : c.world.binding = .idle) {act : Act}
    (unlimited : act.request.timeout = none) (fresh : act.isAccepted = false) {last : Act}
    (handled : (Channel.Binding.handleAll settings.key (c.now + settings.timings.pollInterval)
      (.act act.id true, act) messages).2 = last) (completes : last.isComplete = true) :
    ∃ r, dispatchWithin surface settings 1 act c = (some (last.outcome settings.service), r) ∧
      r.act = last := by
  have isOpen : act.isComplete = false := (Bool.or_eq_false_iff.mp fresh).2
  obtain ⟨installed, hinstalls, hnow, hbinding⟩ := installKey_of_repeats repeats settings c
  have hbinds : installed.world.binding.bind act = .ok (.act act.id true) := by
    rw [hbinding, idle, bind_idle isOpen]
  -- the first poll brings all messages, and the act is complete with them
  have hact : (firstPoll surface settings act installed (.act act.id true)).act = last := by
    rw [act_firstPoll repeats, hnow, handled]
  have hdispatch := dispatchWithin_completed_eq surface 0 repeats.within long unlimited fresh hinstalls
    hbinds (hact ▸ completes)
  rw [hact] at hdispatch
  exact ⟨_, hdispatch, rfl⟩

end

/-! ## Short runs -/

/-- A side of the browser that answers each poll with the same messages, at once. -/
def saying (messages : List Json) : Surface Unit where
  post _ _ _ := .atOnce ⟨.ok (), (), false⟩
  drain _ _ := .atOnce ⟨.ok messages, (), false⟩
  navigate _ _ _ := .atOnce ⟨.ok (), (), false⟩

/-- An extension that always says the same. -/
theorem repeats_saying (messages : List Json) : Repeats (saying messages) messages where
  within := ⟨fun _ _ _ => Nat.le_refl 0, fun _ _ => Nat.le_refl 0, fun _ _ _ => Nat.le_refl 0⟩
  posts _ _ _ := rfl
  drains _ _ := rfl

/-- A session that polls at every moment, waits this long, and prompts once. -/
def brief (key : Channel.Key) (ackTimeout : Duration) : Settings where
  service := .prod
  apiKey := ""
  credentials := none
  key := key
  nonces _ := Channel.Sample.nonce
  settleIds _ := ""
  timings := { pollInterval := 1, ackTimeout }
  retry := false
  trace := ⟨"session", true⟩

/-- Such an act is given up with whatever came in with the first poll. -/
theorem dispatchWithin_saying (key : Channel.Key) (messages : List Json) {act : Act}
    (unlimited : act.request.timeout = none) (fresh : act.isAccepted = false) :
    ∃ r, dispatchWithin (saying messages) (brief key 1) 1 act (.start (.new ())) =
        (some (givenUp r.act), r) ∧
      r.act = (Channel.Binding.handleAll key 1 (.act act.id true, act) messages).2 := by
  have isOpen : act.isComplete = false := (Bool.or_eq_false_iff.mp fresh).2
  have hinstalls : installKey (saying messages) (brief key 1) (.start (.new ())) =
      (.ok (), (installKey (saying messages) (brief key 1) (.start (.new ()))).2) := rfl
  obtain ⟨r, hlate, hact⟩ := dispatchWithin_late (saying messages) 0
    (rfl : (brief key 1).retry = false) Nat.one_pos (Nat.le_refl 1) unlimited fresh hinstalls
    (bind_idle isOpen)
  exact ⟨r, hlate, hact.trans (act_firstPoll (repeats_saying messages) _ _ _ _)⟩

/-- And an act that is complete with the first poll, while its wait lasts, comes to its outcome, with
nothing traced. -/
theorem dispatch_saying_completed (key : Channel.Key) (messages : List Json) {act : Act}
    (unlimited : act.request.timeout = none) (fresh : act.isAccepted = false)
    (completes :
      (Channel.Binding.handleAll key 1 (.act act.id true, act) messages).2.isComplete = true) :
    ∃ r, dispatch (saying messages) (brief key 2) 1 act (.start (.new ())) =
        some (r.act.outcome .prod, r) ∧
      r.act = (Channel.Binding.handleAll key 1 (.act act.id true, act) messages).2 ∧
      r.course.lines = [] := by
  have isOpen : act.isComplete = false := (Bool.or_eq_false_iff.mp fresh).2
  have hinstalls : installKey (saying messages) (brief key 2) (.start (.new ())) =
      (.ok (), (installKey (saying messages) (brief key 2) (.start (.new ()))).2) := rfl
  let r := firstPoll (saying messages) (brief key 2) act
    (installKey (saying messages) (brief key 2) (.start (.new ()))).2 (.act act.id true)
  have hact : r.act = (Channel.Binding.handleAll key 1 (.act act.id true, act) messages).2 :=
    act_firstPoll (repeats_saying messages) _ _ _ _
  have hdispatch := dispatchWithin_completed_eq (saying messages) 0 (repeats_saying messages).within
    Nat.one_lt_two unlimited fresh hinstalls (bind_idle isOpen)
    (show r.act.isComplete = true by rw [hact]; exact completes)
  exact ⟨⟨r.act, rebind r.course .idle⟩, dispatch_of_dispatchWithin _ 1 hdispatch, hact, rfl⟩

end BrowserAct.Dispatch.Extension
