import BrowserAct.Proofs.Course.Deadline
import BrowserAct.Proofs.Dispatch.Extension.Used

/-!
# How long a call takes

A poll takes one interval and a move of the other side, and the last poll of a wait begins before its
deadline. The waits for an acceptance end with the act's own time, a pause between two prompts or a poll
oversteps that, and asking to cancel then opens one more wait. So a call comes to an end however long
the other side takes for its moves, and how late that is depends on the longest of them.

* **`attempts_finishes`** are the prompts, **`follow_finishes`** is following an act.
* **`calls_bounded`** says when a dispatch and a wait for a settled page are over.
-/

namespace BrowserAct

namespace Act

variable {a : Act} {timeout : Duration}

/-- An act with a limit of time is past its deadline from that moment on. -/
theorem isPastDeadline_of_le (limited : a.request.timeout = some timeout) {now : Moment}
    (late : a.startedAt + timeout ≤ now) : a.isPastDeadline now = true := by
  rw [isPastDeadline, remaining, limited, Option.map_some, beq_iff_eq, Option.some.injEq]
  exact Nat.sub_eq_zero_of_le (Nat.le_sub_of_add_le' late)

/-- Before its deadline an act with a limit of time still has time. -/
theorem lt_of_not_isPastDeadline (limited : a.request.timeout = some timeout) {now : Moment}
    (early : a.isPastDeadline now = false) : now < a.startedAt + timeout := by
  refine Nat.lt_of_not_le fun late => ?_
  rw [isPastDeadline_of_le limited late] at early
  cases early

/-- Terms are a request and a start, so they fix the deadline. -/
theorem limited_of_terms {b : Act} (same : b.terms = a.terms)
    (limited : a.request.timeout = some timeout) :
    b.request.timeout = some timeout ∧ b.startedAt = a.startedAt := by
  obtain ⟨hrequest, hstart⟩ := Prod.mk.inj same
  exact ⟨hrequest ▸ limited, hstart⟩

end Act

namespace Dispatch.Extension

open Course (Finishes)

variable {σ : Type} (surface : Surface σ) {settings : Settings}

/-! ## Waits -/

/-- A wait up to a deadline has ended: without a poll, or with one that began before the deadline. -/
def Overstep (surface : Surface σ) (settings : Settings) (deadline : Moment) (r last : Run σ) :
    Prop :=
  last = r ∨ ∃ before, last = poll surface settings before ∧
    r.course.now ≤ before.course.now ∧ before.course.now < deadline

/-- Time does not run backwards in a wait. -/
theorem Overstep.now_le {deadline : Moment} {r last : Run σ}
    (overstep : Overstep surface settings deadline r last) : r.course.now ≤ last.course.now := by
  rcases overstep with rfl | ⟨before, rfl, later, -⟩
  · exact Nat.le_refl _
  · have hnow := (poll_marks surface settings before).1
    exact Nat.le_trans later (Nat.le_trans (Nat.le_add_right _ _) hnow)

/-- It ends a poll after the deadline at the latest, if it has begun by then. -/
theorem Overstep.now_lt {surface : Surface σ} {deadline : Moment} {r last : Run σ}
    (overstep : Overstep surface settings deadline r last) {lag : Duration}
    (within : surface.Within lag) :
    last = r ∨ r.course.now < deadline ∧
      last.course.now < deadline + settings.timings.pollInterval + lag := by
  rcases overstep with rfl | ⟨before, rfl, later, inTime⟩
  · exact .inl rfl
  · have hnow := now_poll_le within settings before
    refine .inr ⟨Nat.lt_of_le_of_lt later inTime, ?_⟩
    dsimp only [Moment, Duration] at *
    omega

/-- A wait for an acceptance ends, as every poll takes time. -/
theorem untilAccepted_finishes (polls : 0 < settings.timings.pollInterval) (deadline : Moment)
    (r : Run σ) :
    Finishes (deadline - r.course.now)
      (fun fuel => untilAccepted surface settings fuel deadline r) fun _ =>
        Overstep surface settings deadline r := by
  unfold untilAccepted
  refine Course.repeatUntil_finishes (fun s : Run σ => s.course.now) polls
    (fun s => (poll_marks surface settings s).1) (fun s late => ?_) r
  rw [if_pos late]
  simp

theorem untilComplete_finishes (polls : 0 < settings.timings.pollInterval) (deadline : Moment)
    (r : Run σ) :
    Finishes (deadline - r.course.now)
      (fun fuel => untilComplete surface settings fuel deadline r) fun _ =>
        Overstep surface settings deadline r := by
  unfold untilComplete
  refine Course.repeatUntil_finishes (fun s : Run σ => s.course.now) polls
    (fun s => (poll_marks surface settings s).1) (fun s late => ?_) r
  split <;> simp

/-! ## Prompts -/

/-- The wait for an acceptance is no longer than the one that is set, and ends with the act's time. -/
theorem acceptanceTime_le (settings : Settings) {act : Act} {timeout : Duration}
    (limited : act.request.timeout = some timeout) (now : Moment) :
    acceptanceTime settings act now ≤ settings.timings.ackTimeout ∧
      (0 < acceptanceTime settings act now →
        now + acceptanceTime settings act now ≤ act.startedAt + timeout) := by
  have hremaining : act.remaining now = some (timeout - (now - act.startedAt)) := by
    rw [Act.remaining, limited, Option.map_some]
  rw [acceptanceTime, hremaining]
  dsimp only [Moment, Duration] at *
  omega

/-- **One prompt.** Where it is not gone on from, there is time left. -/
theorem attempt_finishes (polls : 0 < settings.timings.pollInterval) {timeout : Duration} {r : Run σ}
    (limited : r.act.request.timeout = some timeout) :
    Finishes settings.timings.ackTimeout (fun fuel => attempt surface settings fuel r)
      fun goesOn last => last.act.terms = r.act.terms ∧ r.course.now ≤ last.course.now ∧
        (∀ lag, surface.Within lag → last.course.now ≤
          max r.course.now (r.act.startedAt + timeout + settings.timings.pollInterval) + lag) ∧
        (goesOn = false → last.course.now < r.act.startedAt + timeout) := by
  let prompted := postPrompt surface settings r
  have hnow : r.course.now ≤ prompted.course.now := (postPrompt_marks surface settings r).1
  obtain ⟨hwait, hinTime⟩ := acceptanceTime_le settings limited prompted.course.now
  obtain ⟨accepted, last, hlast, hsame⟩ := untilAccepted_finishes surface polls
    (prompted.course.now + acceptanceTime settings r.act prompted.course.now) prompted
  dsimp only at hsame
  -- from this much fuel on the wait comes to its end, and the answer no longer depends on the fuel
  have hattempt (fuel : Nat) (enough : settings.timings.ackTimeout ≤ fuel) :
      attempt surface settings fuel r =
        (some (accepted || last.act.isPastDeadline last.course.now), last) := by
    have hact : prompted.act = r.act := rfl
    rw [attempt, show postPrompt surface settings r = prompted from rfl, hact, hsame fuel]
    rw [Nat.add_sub_cancel_left]
    exact Nat.le_trans hwait enough
  have hterms : last.act.terms = r.act.terms := by
    have hstretch := stretch_of_moves (moves_attempt surface settings settings.timings.ackTimeout r)
    rw [hattempt _ (Nat.le_refl _)] at hstretch
    exact hstretch.terms
  obtain ⟨hlimited, hstart⟩ := Act.limited_of_terms hterms limited
  refine ⟨_, last, ⟨hterms, Nat.le_trans hnow hlast.now_le, fun lag within => ?_,
    fun stopped => ?_⟩, hattempt⟩
  · have hposted : prompted.course.now ≤ r.course.now + lag := now_post_le within settings _ _
    rcases hlast.now_lt within with rfl | ⟨early, inTime⟩
    · dsimp only [Moment, Duration] at *
      omega
    · -- there is a wait only where the act has time left
      have hdeadline := hinTime (by dsimp only [Moment, Duration] at *; omega)
      dsimp only [Moment, Duration] at *
      omega
  · rw [← hstart]
    exact Act.lt_of_not_isPastDeadline hlimited (Bool.or_eq_false_iff.mp stopped).2

/-- **All prompts.** The induction is on the number of prompts that are left. A pause begins while there
is time left, and so it oversteps the deadline by no more than its length. -/
theorem attempts_finishes (polls : 0 < settings.timings.pollInterval) {timeout : Duration} (n : Nat)
    {r : Run σ} (limited : r.act.request.timeout = some timeout) :
    Finishes settings.timings.ackTimeout (fun fuel => attempts surface settings fuel n r)
      fun _ last => last.act.terms = r.act.terms ∧ r.course.now ≤ last.course.now ∧
        ∀ lag, surface.Within lag → last.course.now ≤ max r.course.now (r.act.startedAt + timeout +
          max settings.timings.pollInterval settings.timings.retryDelay) + lag := by
  induction n generalizing r with
  | zero =>
    refine ⟨false, r, ⟨rfl, Nat.le_refl _, fun lag _ => ?_⟩, fun _ _ => rfl⟩
    exact Nat.le_trans (Nat.le_max_left _ _) (Nat.le_add_right _ _)
  | succ n ih =>
    obtain ⟨goesOn, last, ⟨hterms, hlater, hbound, hstopped⟩, hsame⟩ :=
      attempt_finishes surface polls limited
    dsimp only at hsame
    have hover (lag : Duration) (within : surface.Within lag) :
        last.course.now ≤ max r.course.now (r.act.startedAt + timeout +
          max settings.timings.pollInterval settings.timings.retryDelay) + lag := by
      have hattempt := hbound lag within
      dsimp only [Moment, Duration] at *
      omega
    -- the prompt has its answer, so that only the prompts after it are still open
    have hattempts (fuel : Nat) (enough : settings.timings.ackTimeout ≤ fuel) :
        attempts surface settings fuel (n + 1) r = match goesOn with
          | false => if n = 0 then (some false, last) else attempts surface settings fuel n
              { last with course := last.course.advance settings.timings.retryDelay }
          | true => (some true, last) := by
      rw [attempts, hsame fuel enough]
      cases goesOn <;> rfl
    cases goesOn with
    | true => exact ⟨true, last, ⟨hterms, hlater, hover⟩, hattempts⟩
    | false =>
      by_cases hlast : n = 0
      · refine ⟨false, last, ⟨hterms, hlater, hover⟩, fun fuel enough => ?_⟩
        dsimp only
        rw [hattempts fuel enough]
        exact if_pos hlast
      -- the pause changes the clock and not the act, so the next prompt has the same deadline
      · obtain ⟨hlimited, hstart⟩ := Act.limited_of_terms hterms limited
        obtain ⟨answer, final, ⟨hterms', hlater', hbound'⟩, hsame'⟩ :=
          @ih { last with course := last.course.advance settings.timings.retryDelay } hlimited
        refine ⟨answer, final, ⟨hterms'.trans hterms, ?_, fun lag within => ?_⟩,
          fun fuel enough => ?_⟩
        · have hpaused : last.course.now ≤ final.course.now :=
            Nat.le_trans (Nat.le_add_right _ _) hlater'
          exact Nat.le_trans hlater hpaused
        · -- the pause began while the act had time left
          have hearly := hstopped rfl
          have hpaused : (last.course.advance settings.timings.retryDelay).now =
            last.course.now + settings.timings.retryDelay := rfl
          have hbound' := hbound' lag within
          dsimp only at hbound'
          rw [hpaused, hstart] at hbound'
          dsimp only [Moment, Duration] at *
          omega
        · dsimp only
          rw [hattempts fuel enough]
          exact (if_neg hlast).trans (hsame' fuel enough)

/-! ## Following an act -/

/-- Asking to cancel is one wait. -/
theorem cancelAndWait_finishes (polls : 0 < settings.timings.pollInterval) (r : Run σ) :
    Finishes settings.timings.ackTimeout (fun fuel => cancelAndWait surface settings fuel r)
      fun confirmed last => last.act.isComplete = confirmed ∧
        ∀ lag, surface.Within lag → last.course.now ≤
          r.course.now + settings.timings.ackTimeout + settings.timings.pollInterval + 2 * lag := by
  let asked : Run σ := { r with course := post surface settings Channel.Message.cancel r.course }
  obtain ⟨confirmed, last, hlast, hsame⟩ := untilComplete_finishes surface polls
    (asked.course.now + settings.timings.ackTimeout) asked
  dsimp only at hsame
  rw [Nat.add_sub_cancel_left] at hsame
  have hwait (fuel : Nat) (enough : settings.timings.ackTimeout ≤ fuel) :
      cancelAndWait surface settings fuel r = (some confirmed, last) := by
    rw [cancelAndWait]
    exact hsame fuel enough
  refine ⟨confirmed, last, ⟨isComplete_cancelAndWait (hwait _ (Nat.le_refl _)),
    fun lag within => ?_⟩, hwait⟩
  -- one move of the other side is the post, the other the last drain
  have hposted : asked.course.now ≤ r.course.now + lag := now_post_le within settings _ _
  rcases hlast.now_lt within with rfl | ⟨_, inTime⟩ <;> dsimp only [Moment, Duration] at * <;> omega

/-- An act that ran out of time is ended within one wait. -/
theorem timeOut_finishes (polls : 0 < settings.timings.pollInterval) {r : Run σ}
    (isOpen : r.act.isComplete = false) :
    Finishes settings.timings.ackTimeout (fun fuel => timeOut surface settings fuel r) fun _ last =>
      ∀ lag, surface.Within lag → last.course.now ≤
        r.course.now + settings.timings.ackTimeout + settings.timings.pollInterval + 2 * lag := by
  obtain ⟨confirmed, last, ⟨hconfirmed, hbound⟩, hsame⟩ := cancelAndWait_finishes surface polls
    { r with act := r.act.perform .markTimedOut r.course.now }
  -- confirmed or not, the act has a result after this: its own, or the time-out
  cases confirmed with
  | true =>
    refine ⟨none, last, hbound, fun fuel enough => ?_⟩
    dsimp only at hsame ⊢
    rw [timeOut, change_of_open isOpen]
    dsimp only
    rw [hsame fuel enough]
  | false =>
    refine ⟨none, { last with act := last.act.perform (.fail timeOutPayload) last.course.now },
      hbound, fun fuel enough => ?_⟩
    dsimp only at hsame ⊢
    rw [timeOut, change_of_open isOpen]
    dsimp only
    rw [hsame fuel enough]
    dsimp only
    rw [change_of_open hconfirmed]

section

variable {r polled : Run σ} {observed : Nat} (isOpen : r.act.isComplete = false)
  (early : r.act.isPastDeadline r.course.now = false)
  (polls : traceSteps settings observed (poll surface settings r) = polled)
include isOpen early polls

/-- A round in which nobody asks to cancel goes on to the next. -/
theorem follow_next (goesOn : (polled.course.cancelRequested && !polled.act.isComplete) = false)
    (waitFuel rounds : Nat) :
    follow surface settings waitFuel (rounds + 1) observed r =
      follow surface settings waitFuel rounds polled.act.steps.length polled := by
  rw [follow, if_neg (Bool.eq_false_iff.mp isOpen), if_neg (Bool.eq_false_iff.mp early)]
  dsimp only
  rw [polls, if_neg (Bool.eq_false_iff.mp goesOn)]

/-- A round in which the act is asked to cancel goes on where this is confirmed. -/
theorem follow_canceled (canceled : (polled.course.cancelRequested && !polled.act.isComplete) = true)
    {waitFuel : Nat} {confirmed : Bool} {last : Run σ}
    (waits : cancelAndWait surface settings waitFuel (hearCancel settings polled) =
      (some confirmed, last)) (rounds : Nat) :
    follow surface settings waitFuel (rounds + 1) observed r =
      if confirmed then follow surface settings waitFuel rounds polled.act.steps.length last
      else (some (some .notCanceled), last) := by
  rw [follow, if_neg (Bool.eq_false_iff.mp isOpen), if_neg (Bool.eq_false_iff.mp early)]
  dsimp only
  rw [polls, if_pos canceled, waits]
  cases confirmed <;> rfl

/-- So an act that is asked to cancel is followed for one wait and no more. -/
theorem follow_canceled_finishes (interval : 0 < settings.timings.pollInterval)
    (canceled : (polled.course.cancelRequested && !polled.act.isComplete) = true) :
    ∃ trouble last, (∀ lag, surface.Within lag → last.course.now ≤
        polled.course.now + settings.timings.ackTimeout + settings.timings.pollInterval + 2 * lag) ∧
      ∀ waitFuel rounds, settings.timings.ackTimeout ≤ waitFuel → 2 ≤ rounds →
        follow surface settings waitFuel rounds observed r = (some trouble, last) := by
  obtain ⟨confirmed, last, ⟨hconfirmed, hbound⟩, hsame⟩ :=
    cancelAndWait_finishes surface interval (hearCancel settings polled)
  have hheard : (hearCancel settings polled).course.now = polled.course.now :=
    Course.trace_now _ _
  rw [hheard] at hbound
  cases confirmed with
  -- confirmed: the next round sees a complete act, so two rounds are enough
  | true =>
    refine ⟨none, last, hbound, fun waitFuel rounds enough more => ?_⟩
    obtain ⟨rounds, rfl⟩ := Nat.exists_eq_add_of_le' more
    rw [follow_canceled surface isOpen early polls canceled (hsame waitFuel enough)]
    exact follow_of_complete surface hconfirmed waitFuel (Nat.succ_pos rounds) _
  | false =>
    refine ⟨some .notCanceled, last, hbound, fun waitFuel rounds enough more => ?_⟩
    obtain ⟨rounds, rfl⟩ := Nat.exists_eq_add_of_le' more
    exact follow_canceled surface isOpen early polls canceled (hsame waitFuel enough) (rounds + 1)

end

/-- **Following an act.** The induction is on the time that is left. Each round takes a poll interval or
more, and the last one can open a wait for the confirmation of a cancellation. -/
theorem follow_finishes (polls : 0 < settings.timings.pollInterval) {timeout : Duration} {r : Run σ}
    (limited : r.act.request.timeout = some timeout) (observed : Nat) :
    ∃ trouble last, (∀ lag, surface.Within lag → last.course.now ≤
        max r.course.now (r.act.startedAt + timeout + settings.timings.pollInterval + lag) +
          settings.timings.ackTimeout + settings.timings.pollInterval + 2 * lag) ∧
      ∀ waitFuel rounds, settings.timings.ackTimeout ≤ waitFuel →
        r.act.startedAt + timeout - r.course.now + 2 ≤ rounds →
          follow surface settings waitFuel rounds observed r = (some trouble, last) := by
  cases hcomplete : r.act.isComplete with
  | true =>
    refine ⟨none, r, fun lag _ => ?_, fun waitFuel rounds _ enough =>
      follow_of_complete surface hcomplete waitFuel (Nat.lt_of_lt_of_le (Nat.succ_pos _) enough) _⟩
    dsimp only [Moment, Duration] at *
    omega
  -- a round: one poll, which moves the clock on and leaves the deadline where it was
  | false =>
    cases hpast : r.act.isPastDeadline r.course.now with
    | true =>
      obtain ⟨trouble, last, hbound, hsame⟩ := timeOut_finishes surface polls hcomplete
      refine ⟨trouble, last, fun lag within => ?_, fun waitFuel rounds enough more => ?_⟩
      · have hbound := hbound lag within
        dsimp only [Moment, Duration] at *
        omega
      · obtain ⟨rounds, rfl⟩ := Nat.exists_eq_add_one.mpr (Nat.lt_of_lt_of_le (Nat.succ_pos _) more)
        rw [follow, if_neg (Bool.eq_false_iff.mp hcomplete), if_pos hpast]
        exact hsame waitFuel enough
    | false =>
      have early := Act.lt_of_not_isPastDeadline limited hpast
      obtain ⟨hnow, _, hterms⟩ := poll_marks surface settings r
      generalize hpolled : traceSteps settings observed (poll surface settings r) = polled
      have htraced : polled.course.now = (poll surface settings r).course.now := by
        rw [← hpolled]
        exact Course.trace_now _ _
      have hlater : r.course.now + settings.timings.pollInterval ≤ polled.course.now :=
        htraced ▸ hnow
      have hround (lag : Duration) (within : surface.Within lag) :
          polled.course.now ≤ r.course.now + settings.timings.pollInterval + lag :=
        htraced ▸ now_poll_le within settings r
      have hkept : polled.act.terms = r.act.terms := by
        rw [← hpolled]
        exact hterms
      obtain ⟨hlimited, hstart⟩ := Act.limited_of_terms hkept limited
      cases hcancel : polled.course.cancelRequested && !polled.act.isComplete with
      | true =>
        obtain ⟨trouble, last, hbound, hsame⟩ :=
          follow_canceled_finishes surface hcomplete hpast hpolled polls hcancel
        refine ⟨trouble, last, fun lag within => ?_, fun waitFuel rounds enough more => ?_⟩
        · have hbound := hbound lag within
          have hround := hround lag within
          dsimp only [Moment, Duration] at *
          omega
        · exact hsame waitFuel rounds enough (Nat.le_trans (Nat.le_add_left _ _) more)
      | false =>
        -- the time that is left has become shorter, so the rest comes to an end by recursion
        obtain ⟨trouble, last, hbound, hsame⟩ :=
          follow_finishes polls hlimited polled.act.steps.length
        rw [hstart] at hbound hsame
        refine ⟨trouble, last, fun lag within => ?_, fun waitFuel rounds enough more => ?_⟩
        · have hbound := hbound lag within
          have hround := hround lag within
          dsimp only [Moment, Duration] at *
          omega
        · obtain ⟨rounds, rfl⟩ :=
            Nat.exists_eq_add_one.mpr (Nat.lt_of_lt_of_le (Nat.succ_pos _) more)
          rw [follow_next surface hcomplete hpast hpolled hcancel]
          refine hsame waitFuel rounds enough ?_
          dsimp only [Moment, Duration] at *
          omega
termination_by r.act.startedAt + timeout - r.course.now
decreasing_by
  rw [hstart]
  dsimp only [Moment, Duration] at *
  omega

/-! ## Whole calls -/

/-- All that is done while an act is bound. -/
theorem runBound_finishes (polls : 0 < settings.timings.pollInterval) {timeout : Duration}
    {r : Run σ} (limited : r.act.request.timeout = some timeout) :
    Finishes (r.act.startedAt + timeout - r.course.now + settings.timings.ackTimeout + 2)
      (fun fuel => runBound surface settings fuel r) fun _ last =>
        ∀ lag, surface.Within lag → last.course.now ≤ max r.course.now (r.act.startedAt + timeout) +
          max settings.timings.pollInterval settings.timings.retryDelay +
          settings.timings.ackTimeout + settings.timings.pollInterval + 3 * lag := by
  obtain ⟨goesOn, prompted, ⟨hterms, hlater, hbound⟩, hsame⟩ :=
    attempts_finishes surface polls (tries settings) limited
  obtain ⟨hlimited, hstart⟩ := Act.limited_of_terms hterms limited
  dsimp only at hsame
  cases goesOn with
  | false =>
    refine ⟨some .notAccepted, prompted, fun lag within => ?_, fun fuel enough => ?_⟩
    · have hbound := hbound lag within
      dsimp only [Moment, Duration] at *
      omega
    · dsimp only
      rw [runBound, hsame fuel (by dsimp only [Moment, Duration] at *; omega)]
  -- the prompts leave time for the wait, and the act is followed from where they end
  | true =>
    obtain ⟨trouble, last, hover, hfollow⟩ := follow_finishes surface polls hlimited 0
    rw [hstart] at hover hfollow
    refine ⟨trouble, last, fun lag within => ?_, fun fuel enough => ?_⟩
    · have hbound := hbound lag within
      have hover := hover lag within
      dsimp only [Moment, Duration] at *
      omega
    · dsimp only
      rw [runBound, hsame fuel (by dsimp only [Moment, Duration] at *; omega)]
      refine hfollow fuel fuel ?_ ?_ <;> dsimp only [Moment, Duration] at * <;> omega

/-- **A whole dispatch** of an act with a limit of time. Four moves of the other side
can make it later: the key, the last drain that begins before the deadline, the cancellation, and the
last drain of the wait for that. -/
theorem dispatchWithin_finishes (polls : 0 < settings.timings.pollInterval) {act : Act}
    {timeout : Duration} (limited : act.request.timeout = some timeout) (c : Course (Link σ)) :
    Finishes (act.startedAt + timeout - c.now + settings.timings.ackTimeout + 2)
      (fun fuel => dispatchWithin surface settings fuel act c) fun _ last =>
        ∀ lag, surface.Within lag → last.course.now ≤ max c.now (act.startedAt + timeout) +
          max settings.timings.pollInterval settings.timings.retryDelay +
          settings.timings.ackTimeout + settings.timings.pollInterval + 4 * lag := by
  have hkey := (installKey_quiet marks (fun _ => rfl) surface settings c).2
  have hlater := le_now_installKey surface settings c
  rcases hinstalled : installKey surface settings c with ⟨answer, installed⟩
  rw [hinstalled] at hkey hlater
  -- what ends without a poll ends with the move that was to post the key
  have hat (lag : Duration) (within : surface.Within lag) :
      installed.now ≤ max c.now (act.startedAt + timeout) +
        max settings.timings.pollInterval settings.timings.retryDelay +
        settings.timings.ackTimeout + settings.timings.pollInterval + 4 * lag := by
    have hkey := hkey lag within
    dsimp only [Moment, Duration] at *
    omega
  cases answer with
  | error cause =>
    refine ⟨conclude settings (some (.channel cause)) act, ⟨act, rebind installed .idle⟩,
      hat, fun fuel _ => ?_⟩
    dsimp only
    rw [dispatchWithin, run, hinstalled]
  | ok _ =>
    cases hbinds : installed.world.binding.bind act with
    | error cause =>
      refine ⟨conclude settings (some (.channel cause)) act, ⟨act, rebind installed .idle⟩,
        hat, fun fuel _ => ?_⟩
      dsimp only
      rw [dispatchWithin, run, hinstalled]
      dsimp only
      rw [hbinds]
    -- the run starts where the key was posted, with the act bound
    | ok binding =>
      obtain ⟨trouble, last, hbound, hsame⟩ := runBound_finishes surface polls
        (r := ⟨act, (rebind installed binding).resetCancel⟩) limited
      have hstart : (rebind installed binding).resetCancel.now = installed.now := rfl
      dsimp only at hbound hsame
      rw [hstart] at hbound hsame
      refine ⟨conclude settings trouble last.act, { last with course := rebind last.course .idle },
        fun lag within => ?_, fun fuel enough => ?_⟩
      · have hbound := hbound lag within
        have hkey := hkey lag within
        have hrebound : (rebind last.course .idle).now = last.course.now := rfl
        rw [hrebound]
        dsimp only [Moment, Duration] at *
        omega
      · dsimp only
        rw [dispatchWithin, run_of_bind surface fuel hinstalled hbinds, hsame fuel]
        dsimp only [Moment, Duration] at *
        omega

/-- The same as an answer. -/
theorem dispatch_finishes (polls : 0 < settings.timings.pollInterval) {act : Act}
    {timeout : Duration} (limited : act.request.timeout = some timeout) (c : Course (Link σ)) :
    ∃ outcome r,
      (∀ lag, surface.Within lag → r.course.now ≤ max c.now (act.startedAt + timeout) +
        max settings.timings.pollInterval settings.timings.retryDelay +
        settings.timings.ackTimeout + settings.timings.pollInterval + 4 * lag) ∧
      ∀ fuel, act.startedAt + timeout - c.now + settings.timings.ackTimeout + 2 ≤ fuel →
        dispatch surface settings fuel act c = some (outcome, r) := by
  obtain ⟨outcome, last, hbound, hsame⟩ := dispatchWithin_finishes surface polls limited c
  exact ⟨outcome, last, hbound, fun fuel enough =>
    dispatch_of_dispatchWithin surface fuel (hsame fuel enough)⟩

/-! ## Pages -/

theorem untilSettled_finishes (polls : 0 < settings.timings.pollInterval) (deadline : Moment)
    (c : Course (Link σ)) :
    Finishes (deadline - c.now) (fun fuel => untilSettled surface settings fuel deadline c)
      fun _ last => last = c ∨ ∃ before, last = pollPage surface settings before ∧
        c.now ≤ before.now ∧ before.now < deadline := by
  have ticks (c : Course (Link σ)) :
      c.now + settings.timings.pollInterval ≤ (pollPage surface settings c).now :=
    (fetch_quiet marks surface settings c).2.1
  unfold untilSettled
  refine Course.repeatUntil_finishes (fun c : Course (Link σ) => c.now) polls ticks
    (fun c late => ?_) c
  rw [if_pos (.inr late)]
  simp

/-- How a wait for a settled page can end: in time or not, or, before anything else, because the key
could not be posted. -/
inductive PageEnds (surface : Surface σ) (settings : Settings) (c : Course (Link σ))
    (sessionId : String) : Except Act.Failure Unit → Course (Link σ) → Prop where
  | taken (last : Course (Link σ)) : PageEnds surface settings c sessionId (.ok ()) last
  | noKey {cause : Channel.Error} {last : Course (Link σ)}
      (noKey : NoKey surface settings c last cause) :
      PageEnds surface settings c sessionId (.error (pageFailure sessionId cause)) last

/-- **A whole wait for a settled page.** -/
theorem settlePage_finishes (polls : 0 < settings.timings.pollInterval) (sessionId : String)
    (timeout : Option Duration) {c : Course (Link σ)} (idle : c.world.binding = .idle) :
    ∃ result last,
      (∀ lag, surface.Within lag → last.now ≤ c.now + settings.timings.ackTimeout +
        timeout.getD settings.timings.settleTimeout + settings.timings.pollInterval + 3 * lag) ∧
      PageEnds surface settings c sessionId result last ∧
      ∀ fuel, settings.timings.ackTimeout + timeout.getD settings.timings.settleTimeout ≤ fuel →
        settlePage surface settings fuel sessionId timeout c = some (result, last) := by
  have hkey := (installKey_quiet marks (fun _ => rfl) surface settings c).2
  generalize hlimit : timeout.getD settings.timings.settleTimeout = limit
  rcases installKey_cases surface settings c with
    ⟨cause, last, hinstalled, hnoKey⟩ | ⟨installed, hinstalled, hbinding, -⟩
  -- without a key nothing was asked for, and the wait is refused
  · rw [hinstalled] at hkey
    refine ⟨_, last, fun lag within => ?_, .noKey hnoKey, fun fuel _ => ?_⟩
    · have hkey := hkey lag within
      dsimp only [Moment, Duration] at *
      omega
    · rw [settlePage, hinstalled]
  · rw [hinstalled] at hkey
    let asked := postSettle surface settings sessionId limit (rebind installed (.page sessionId false))
    obtain ⟨_, last, hlast, hsame⟩ := untilSettled_finishes surface polls
      (asked.now + settings.timings.ackTimeout + limit) asked
    refine ⟨.ok (), rebind last .idle, fun lag within => ?_, .taken _, fun fuel enough => ?_⟩
    · have hkey := hkey lag within
      have hposted : asked.now ≤ installed.now + lag := now_post_le within settings _ _
      have hrebound : (rebind last .idle).now = last.now := rfl
      rw [hrebound]
      -- it was settled at once, or the last poll began before the deadline
      rcases hlast with rfl | ⟨before, rfl, _, inTime⟩
      · dsimp only [Moment, Duration] at *
        omega
      · have hpolled : (pollPage surface settings before).now ≤
            before.now + settings.timings.pollInterval + lag :=
          (fetch_quiet marks surface settings before).2.2 lag within
        dsimp only [Moment, Duration] at *
        omega
    · dsimp only at hsame
      rw [settlePage, hinstalled]
      dsimp only
      rw [(free_of_idle (hbinding.trans idle)).bindPage sessionId, hlimit]
      dsimp only
      rw [hsame fuel]
      dsimp only [Moment, Duration] at *
      omega

/-! ## All calls -/

/-- **Every call comes to an end, and in time.** Where polls take time, an act with a limit of time is
over one pause or poll, one wait and one more poll after its deadline or the moment of the call, if the
moves of the other side take no time, and four of its longest moves later if they do. A wait for a
settled page is over one wait and one poll after the time it was given, and at most three moves, and it
fails only for want of the key. -/
theorem calls_bounded (polls : 0 < settings.timings.pollInterval) {c : Course (Link σ)}
    (used : Used surface settings c) :
    (∀ (act : Act) (timeout : Duration), act.request.timeout = some timeout →
      ∃ outcome r,
        (∀ lag, surface.Within lag → r.course.now ≤ max c.now (act.startedAt + timeout) +
          max settings.timings.pollInterval settings.timings.retryDelay +
          settings.timings.ackTimeout + settings.timings.pollInterval + 4 * lag) ∧
        ∀ fuel, act.startedAt + timeout - c.now + settings.timings.ackTimeout + 2 ≤ fuel →
          dispatch surface settings fuel act c = some (outcome, r)) ∧
    (∀ (sessionId : String) (timeout : Option Duration), ∃ result last,
      (∀ lag, surface.Within lag → last.now ≤ c.now + settings.timings.ackTimeout +
        timeout.getD settings.timings.settleTimeout + settings.timings.pollInterval + 3 * lag) ∧
      PageEnds surface settings c sessionId result last ∧
      ∀ fuel, settings.timings.ackTimeout + timeout.getD settings.timings.settleTimeout ≤ fuel →
        settlePage surface settings fuel sessionId timeout c = some (result, last)) :=
  ⟨fun _ _ limited => dispatch_finishes surface polls limited c,
    fun sessionId timeout => settlePage_finishes surface polls sessionId timeout used.idle⟩

namespace Sample

open Channel.Sample (act key)

/-- An act that has three units of time. -/
def hurried : Act :=
  { act with request := { act.request with timeout := some 3 } }

/-- With an extension that never says anything its dispatch is over as well. -/
theorem hurried_ends :
    0 < (brief key 1).timings.pollInterval ∧ Used (saying []) (brief key 1) (.start (.new ())) ∧
      hurried.request.timeout = some 3 ∧ (saying []).Within 0 ∧
      ∃ outcome r, r.course.now ≤ 2_000_000_005 ∧ ∀ fuel, 6 ≤ fuel →
        dispatch (saying []) (brief key 1) fuel hurried (.start (.new ())) = some (outcome, r) := by
  have polls : 0 < (brief key 1).timings.pollInterval := Nat.one_pos
  have used : Used (saying []) (brief key 1) (.start (.new ())) := .new rfl
  have within : (saying []).Within 0 := (repeats_saying []).within
  obtain ⟨outcome, r, inTime, returns⟩ := (calls_bounded (saying []) polls used).1 hurried 3 rfl
  exact ⟨polls, used, rfl, within, outcome, r, inTime 0 within, returns⟩

end Sample

end Dispatch.Extension

end BrowserAct
