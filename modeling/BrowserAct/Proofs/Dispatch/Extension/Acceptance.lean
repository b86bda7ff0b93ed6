import BrowserAct.Proofs.Act.Outcome
import BrowserAct.Proofs.Dispatch.Extension.FirstPoll

/-!
# Whether an acceptance is heard

A wait for an acceptance looks at the act before each poll and not after its last one. So an
acceptance that comes in with a poll that ends at the deadline of the wait or later is missed, unless
the time of the act itself is used up by then.

* **`untilAccepted_waited`** is one wait, **`attempt_verdict`** one prompt.
* **`attempts_verdict`** is the induction over the prompts, **`follow_follows`** the rest of a run.
* **`dispatchWithin_heard_iff`** says that a run hears an acceptance exactly when it does not miss it.
-/

namespace BrowserAct.Dispatch.Extension

variable {σ : Type}

/-! ## One wait -/

/-- What a wait for an acceptance does: it only polls, and not once the act is accepted. -/
structure Waited (r r' : Run σ) (polls : Log) : Prop where
  seen : r'.course.seen marks = polls ++ r.course.seen marks
  terms : r'.act.terms = r.act.terms
  now_le : r.course.now ≤ r'.course.now
  /-- None of the polls is a prompt. -/
  lastPrompt : ∀ earlier, lastPrompt? (polls ++ earlier) = lastPrompt? earlier
  last : (polls = [] ∧ r'.act = r.act) ∨
    ∃ older, polls = (r'.course.now, .polled r'.act) :: older ∧ Unheard older ∧
      r.act.isAccepted = false

namespace Waited

variable {r r' : Run σ} {polls : Log}

theorem refl (r : Run σ) : Waited r r [] :=
  ⟨rfl, rfl, Nat.le_refl _, fun _ => rfl, Or.inl ⟨rfl, rfl⟩⟩

/-- As long as the act is not accepted, nothing was heard. -/
theorem unheard (waited : Waited r r' polls) (fresh : r'.act.isAccepted = false) :
    Unheard polls ∧ r.act.isAccepted = false := by
  rcases waited.last with ⟨rfl, hact⟩ | ⟨older, rfl, hunheard, hfresh⟩
  · rw [hact] at fresh
    exact ⟨unheard_nil, fresh⟩
  · exact ⟨unheard_cons.mpr ⟨fresh, hunheard⟩, hfresh⟩

/-- An acceptance comes in with the last poll. -/
theorem heard (waited : Waited r r' polls) (fresh : r.act.isAccepted = false)
    (accepted : r'.act.isAccepted = true) :
    ∃ older, polls = (r'.course.now, .polled r'.act) :: older ∧ Unheard older := by
  rcases waited.last with ⟨_, hact⟩ | ⟨older, hpolls, hunheard, _⟩
  · rw [hact, fresh] at accepted
    cases accepted
  · exact ⟨older, hpolls, hunheard⟩

/-- The act was accepted before, so that nothing was polled. -/
theorem eq_of_accepted (waited : Waited r r' polls) (accepted : r.act.isAccepted = true) :
    polls = [] ∧ r'.act = r.act := by
  rcases waited.last with hnothing | ⟨_, _, _, hfresh⟩
  · exact hnothing
  · rw [accepted] at hfresh
    cases hfresh

/-- One more poll. -/
theorem poll (waited : Waited r r' polls) (fresh : r'.act.isAccepted = false)
    (surface : Surface σ) (settings : Settings) :
    ∃ polls, Waited r (Extension.poll surface settings r') polls := by
  obtain ⟨hnow, hseen, hterms⟩ := poll_marks surface settings r'
  obtain ⟨hunheard, hfresh⟩ := waited.unheard fresh
  refine ⟨(_, .polled _) :: polls, ?_, hterms.trans waited.terms, ?_, waited.lastPrompt,
    Or.inr ⟨polls, rfl, hunheard, hfresh⟩⟩
  · rw [hseen, waited.seen]
    rfl
  · exact Nat.le_trans (Nat.le_trans waited.now_le (Nat.le_add_right _ _)) hnow

end Waited

/-- A wait for an acceptance: the answer is about the moment at which it ends. -/
theorem untilAccepted_waited (surface : Surface σ) (settings : Settings) (fuel : Nat)
    (deadline : Moment) (r : Run σ) :
    ∃ polls, Waited r (untilAccepted surface settings fuel deadline r).2 polls ∧
      (untilAccepted surface settings fuel deadline r).1 =
        if deadline ≤ (untilAccepted surface settings fuel deadline r).2.course.now then some false
        else if (untilAccepted surface settings fuel deadline r).2.act.isAccepted then some true
        else none := by
  have hwaited : ∃ polls, Waited r (untilAccepted surface settings fuel deadline r).2 polls := by
    refine Course.repeatUntil_preserves (P := fun s => ∃ polls, Waited r s polls) ?_ fuel
      ⟨[], Waited.refl r⟩
    rintro s hgoesOn ⟨polls, waited⟩
    -- a poll is only made where the wait has no answer yet, so of an act that is not accepted
    have hfresh : s.act.isAccepted = false := by
      rw [Act.isAccepted]
      split at hgoesOn
      · cases hgoesOn
      · split at hgoesOn
        · cases hgoesOn
        · rename_i fresh
          exact Bool.eq_false_iff.mpr fresh
    exact waited.poll hfresh surface settings
  obtain ⟨polls, waited⟩ := hwaited
  exact ⟨polls, waited, (Course.test_repeatUntil fuel r).symm⟩

/-! ## All prompts -/

/-- How the prompts of an act come out that was not accepted before, given the log since then. -/
inductive Verdict (settings : Settings) (log : Log) (r : Run σ) : Option Bool → Prop where
  /-- Nothing was heard; the run goes on only to end an act that is out of time. -/
  | unheard {goesOn : Option Bool} (unheard : Unheard log)
      (past : goesOn = some true → r.act.isPastDeadline r.course.now = true) :
      Verdict settings log r goesOn
  /-- The last poll brought the first acceptance, and the run goes on. -/
  | heard {older : Log} {posted : Moment} (polled : log = (r.course.now, .polled r.act) :: older)
      (accepted : r.act.isAccepted = true) (unheard : Unheard older)
      (prompted : lastPrompt? older = some posted)
      (inTime : r.course.now < posted + acceptanceTime settings r.act posted ∨
        r.act.isPastDeadline r.course.now = true) :
      Verdict settings log r (some true)
  /-- The first acceptance was missed: the act is given up, or a prompt was posted after it. -/
  | missed {goesOn : Option Bool} (missed : Missed settings log)
      (broken : goesOn = some false ∨ ¬ PromptsStop log) : Verdict settings log r goesOn

/-- What a single prompt comes to, whether or not the act was accepted before. -/
theorem attempt_waited (surface : Surface σ) (settings : Settings) (fuel : Nat) (r : Run σ) :
    ∃ polls, ∃ prompted : Run σ, prompted.act = r.act ∧
      prompted.course.seen marks = (prompted.course.now, .prompt) :: r.course.seen marks ∧
      Waited prompted (attempt surface settings fuel r).2 polls ∧
      (attempt surface settings fuel r).1 =
        if prompted.course.now + acceptanceTime settings r.act prompted.course.now ≤
            (attempt surface settings fuel r).2.course.now then
          some ((attempt surface settings fuel r).2.act.isPastDeadline
            (attempt surface settings fuel r).2.course.now)
        else if (attempt surface settings fuel r).2.act.isAccepted then some true
        else none := by
  obtain ⟨-, hseen⟩ := postPrompt_marks surface settings r
  have hact : (postPrompt surface settings r).act = r.act := rfl
  rw [attempt, hact]
  generalize postPrompt surface settings r = prompted at hact hseen
  obtain ⟨polls, hwaited, hanswer⟩ := untilAccepted_waited surface settings fuel
    (prompted.course.now + acceptanceTime settings r.act prompted.course.now) prompted
  rcases hwait : untilAccepted surface settings fuel
    (prompted.course.now + acceptanceTime settings r.act prompted.course.now) prompted
    with ⟨answer, last⟩
  rw [hwait] at hwaited hanswer
  refine ⟨polls, prompted, hact, hseen, ?_⟩
  -- the wait is over, was answered, or goes on
  split at hanswer
  · rename_i hover
    cases hanswer
    exact ⟨hwaited, (if_pos hover).symm⟩
  · rename_i hearly
    split at hanswer
    · rename_i haccepted
      cases hanswer
      exact ⟨hwaited, ((if_neg hearly).trans (if_pos haccepted)).symm⟩
    · rename_i hfresh
      cases hanswer
      exact ⟨hwaited, ((if_neg hearly).trans (if_neg hfresh)).symm⟩

/-- **One prompt.** -/
theorem attempt_verdict (surface : Surface σ) (settings : Settings) (fuel : Nat) {r : Run σ}
    (fresh : r.act.isAccepted = false) :
    ∃ log, (attempt surface settings fuel r).2.course.seen marks =
        log ++ r.course.seen marks ∧
      Verdict settings log (attempt surface settings fuel r).2 (attempt surface settings fuel r).1 ∧
      (Unheard log → (attempt surface settings fuel r).2.act.isAccepted = false) := by
  obtain ⟨polls, prompted, hact, hseen, hwaited, hanswer⟩ :=
    attempt_waited surface settings fuel r
  generalize attempt surface settings fuel r = answered at hwaited hanswer ⊢
  obtain ⟨goesOn, last⟩ := answered
  dsimp only at hwaited hanswer ⊢
  rw [← hact] at fresh
  generalize prompted.course.now = posted at hseen hanswer
  refine ⟨polls ++ [(posted, .prompt)], ?_, ?_⟩
  · rw [hwaited.seen, hseen, List.append_assoc]
    rfl
  -- nothing came in, or the last poll brought the first acceptance
  cases haccepted : last.act.isAccepted with
  | false =>
    have hunheard : Unheard (polls ++ [(posted, .prompt)]) :=
      unheard_append.mpr ⟨(hwaited.unheard haccepted).1, unheard_cons.mpr ⟨rfl, unheard_nil⟩⟩
    refine ⟨.unheard hunheard fun hgoesOn => ?_, fun _ => rfl⟩
    rw [hgoesOn, haccepted] at hanswer
    split at hanswer
    · exact (Option.some.inj hanswer).symm
    · cases hanswer
  | true =>
    obtain ⟨older, rfl, hunheard⟩ := hwaited.heard fresh haccepted
    have hbefore : Unheard (older ++ [(posted, .prompt)]) :=
      unheard_append.mpr ⟨hunheard, unheard_cons.mpr ⟨rfl, unheard_nil⟩⟩
    have hposted : lastPrompt? (older ++ [(posted, .prompt)]) = some posted :=
      hwaited.lastPrompt [(posted, .prompt)]
    have hterms : last.act.terms = r.act.terms := hwaited.terms.trans (congrArg Act.terms hact)
    have htime : acceptanceTime settings last.act posted =
        acceptanceTime settings r.act posted := by
      rw [acceptanceTime, acceptanceTime, Act.remaining_congr hterms]
    rw [haccepted] at hanswer
    constructor
    · split at hanswer
      · rename_i hover
        -- the poll ended when the wait was over; only the time of the act can still save it
        cases hpast : last.act.isPastDeadline last.course.now with
        | true =>
          rw [hpast] at hanswer
          rw [hanswer]
          exact .heard rfl haccepted hbefore hposted (Or.inr hpast)
        | false =>
          rw [hpast] at hanswer
          refine .missed ⟨_, _, _, _, List.suffix_rfl, haccepted, hbefore, hposted, ?_, hpast⟩
            (Or.inl hanswer)
          rw [htime]
          exact hover
      · rename_i hearly
        rw [hanswer]
        refine .heard rfl haccepted hbefore hposted (Or.inl ?_)
        rw [htime]
        exact Nat.lt_of_not_le hearly
    · intro hall
      have hrefused : last.act.isAccepted = false := hall _ List.mem_cons_self
      rw [haccepted] at hrefused
      cases hrefused

/-- What was not heard before does not change how the later prompts come out. -/
theorem Verdict.append {settings : Settings} {log earlier : Log} {r : Run σ}
    {goesOn : Option Bool} (verdict : Verdict settings log r goesOn) (fresh : Unheard earlier) :
    Verdict settings (log ++ earlier) r goesOn := by
  cases verdict with
  | unheard hunheard hpast => exact .unheard (unheard_append.mpr ⟨hunheard, fresh⟩) hpast
  | @heard older _ hpolled haccepted hunheard hprompted hinTime =>
    have hlonger : log ++ earlier = (r.course.now, .polled r.act) :: (older ++ earlier) := by
      rw [hpolled]
      rfl
    exact .heard hlonger haccepted (unheard_append.mpr ⟨hunheard, fresh⟩)
      (lastPrompt?_append hprompted earlier) hinTime
  | missed hmissed hbroken =>
    refine .missed (hmissed.append_right fresh) (hbroken.imp_right ?_)
    intro hstops happended
    exact hstops (List.pairwise_append.mp happended).1

/-- Nothing is seen before the next prompt, if there is one left to post. -/
theorem attempts_prompts (surface : Surface σ) (settings : Settings) (fuel n : Nat) (r : Run σ) :
    ∃ later posted, (attempts surface settings fuel (n + 1) r).2.course.seen marks =
      later ++ (posted, .prompt) :: r.course.seen marks := by
  induction n generalizing r with
  | zero =>
    obtain ⟨polls, prompted, _, hseen, hwaited, _⟩ := attempt_waited surface settings fuel r
    refine ⟨polls, prompted.course.now, ?_⟩
    rw [← hseen, ← hwaited.seen, attempts]
    -- the last prompt that is left leaves the same log, whatever it was answered
    split
    · rename_i heq
      rw [heq]
      rfl
    · rfl
  | succ n ih =>
    obtain ⟨polls, prompted, _, hseen, hwaited, _⟩ := attempt_waited surface settings fuel r
    rw [attempts]
    split
    · rename_i last heq
      rw [heq] at hwaited
      -- unanswered: the prompts that come after the pause are seen before the polls of this one
      obtain ⟨later, posted, hlater⟩ :=
        ih { last with course := last.course.advance settings.timings.retryDelay }
      refine ⟨later ++ (posted, .prompt) :: polls, prompted.course.now, ?_⟩
      rw [if_neg (Nat.succ_ne_zero n), hlater, Course.seen_advance, hwaited.seen, hseen,
        List.append_assoc]
      rfl
    · exact ⟨polls, prompted.course.now, by rw [← hseen, ← hwaited.seen]⟩

/-- **All prompts.** The induction is on the number of prompts that are left. A missed acceptance does
not stop them, and the next one is then posted too late. -/
theorem attempts_verdict (surface : Surface σ) (settings : Settings) (fuel n : Nat) {r : Run σ}
    (fresh : r.act.isAccepted = false) :
    ∃ log, (attempts surface settings fuel n r).2.course.seen marks =
        log ++ r.course.seen marks ∧
      Verdict settings log (attempts surface settings fuel n r).2
        (attempts surface settings fuel n r).1 := by
  induction n generalizing r with
  | zero => exact ⟨[], rfl, .unheard unheard_nil (by simp [attempts])⟩
  | succ n ih =>
    obtain ⟨log, hseen, hverdict, hopen⟩ := attempt_verdict surface settings fuel fresh
    rw [attempts]
    split
    · rename_i last heq
      rw [heq] at hseen hverdict hopen
      dsimp only at hseen hverdict hopen
      -- the verdict on the last prompt is that on all of them
      split
      · exact ⟨log, hseen, hverdict⟩
      · rename_i hn
        obtain ⟨n, rfl⟩ := Nat.exists_eq_succ_of_ne_zero hn
        dsimp only
        generalize hnext : ({ last with
          course := last.course.advance settings.timings.retryDelay } : Run σ) = next
        have hkept : next.course.seen marks = log ++ r.course.seen marks := by
          rw [← hnext, ← hseen]
          rfl
        cases hverdict with
        | unheard hunheard =>
          have hfresh : next.act.isAccepted = false := by
            rw [← hnext]
            exact hopen hunheard
          obtain ⟨later, hlater, hverdict⟩ := ih hfresh
          refine ⟨later ++ log, ?_, hverdict.append hunheard⟩
          rw [hlater, hkept, List.append_assoc]
        | missed hmissed =>
          -- the next prompt comes before anything else, and so after the missed acceptance
          obtain ⟨later, posted, hlater⟩ := attempts_prompts surface settings fuel n next
          refine ⟨later ++ (posted, .prompt) :: log, ?_, ?_⟩
          · rw [hlater, hkept, List.append_assoc]
            rfl
          · have hlonger := hmissed.append_left (later ++ [(posted, .prompt)])
            rw [List.append_assoc] at hlonger
            exact .missed hlonger (Or.inr (not_promptsStop_of_missed hmissed later posted))
    · exact ⟨log, hseen, hverdict⟩

/-- The prompts of an act that was accepted before: it is not polled, and stays as it is. -/
theorem attempts_of_accepted (surface : Surface σ) (settings : Settings) (fuel n : Nat) {r : Run σ}
    (accepted : r.act.isAccepted = true) :
    ∃ log, (attempts surface settings fuel n r).2.course.seen marks =
      log ++ r.course.seen marks ∧ Unheard log := by
  induction n generalizing r with
  | zero => exact ⟨[], rfl, unheard_nil⟩
  | succ n ih =>
    obtain ⟨polls, prompted, hact, hseen, hwaited, _⟩ := attempt_waited surface settings fuel r
    rw [← hact] at accepted
    -- the wait is over before its first poll, so the act and its acceptance stay as they are
    obtain ⟨rfl, hkept⟩ := hwaited.eq_of_accepted accepted
    have hprompt : Unheard [(prompted.course.now, .prompt)] :=
      unheard_cons.mpr ⟨rfl, unheard_nil⟩
    have hafter : (attempt surface settings fuel r).2.course.seen marks =
        [(prompted.course.now, .prompt)] ++ r.course.seen marks := hwaited.seen.trans hseen
    rw [attempts]
    split
    · rename_i last heq
      rw [heq] at hafter hkept
      -- only the prompts that are left can be seen after this one
      split
      · exact ⟨_, hafter, hprompt⟩
      · rw [← hkept] at accepted
        obtain ⟨later, hlater, hunheard⟩ := ih
          (r := { last with course := last.course.advance settings.timings.retryDelay }) accepted
        refine ⟨later ++ [(prompted.course.now, .prompt)], ?_,
          unheard_append.mpr ⟨hunheard, hprompt⟩⟩
        rw [hlater, Course.seen_advance, hafter, List.append_assoc]
    · exact ⟨_, hafter, hprompt⟩

/-! ## Following an act -/

/-- What following an act does to a run: it polls, with the same terms and later, and posts no
prompt. -/
structure Follows (r r' : Run σ) : Prop where
  polls : ∃ polls : Log, r'.course.seen marks = polls ++ r.course.seen marks ∧
    ∀ entry ∈ polls, r.course.now ≤ entry.1 ∧
      ∃ after, entry.2 = .polled after ∧ after.terms = r.act.terms
  terms : r'.act.terms = r.act.terms
  now_le : r.course.now ≤ r'.course.now

namespace Follows

/-- A move that is not seen. -/
theorem quiet {r r' : Run σ} (seen : r'.course.seen marks = r.course.seen marks)
    (terms : r'.act.terms = r.act.terms) (now : r.course.now ≤ r'.course.now) : Follows r r' :=
  ⟨⟨[], seen, List.forall_mem_nil _⟩, terms, now⟩

theorem refl (r : Run σ) : Follows r r :=
  quiet rfl rfl (Nat.le_refl _)

theorem trans {r r' r'' : Run σ} (first : Follows r r') (second : Follows r' r'') :
    Follows r r'' := by
  obtain ⟨polls, hseen, hpolls⟩ := first.polls
  obtain ⟨later, hlater, hpolls'⟩ := second.polls
  refine ⟨⟨later ++ polls, ?_, ?_⟩, second.terms.trans first.terms,
    Nat.le_trans first.now_le second.now_le⟩
  · rw [hlater, hseen, List.append_assoc]
  · intro entry hmem
    rcases List.mem_append.mp hmem with hmem | hmem
    · obtain ⟨hnow, after, hpolled, hterms⟩ := hpolls' entry hmem
      exact ⟨Nat.le_trans first.now_le hnow, after, hpolled, hterms.trans first.terms⟩
    · exact hpolls entry hmem

end Follows

/-- A poll is seen with the act as it leaves it, at a moment that is no earlier. -/
theorem follows_poll (surface : Surface σ) (settings : Settings) (r : Run σ) :
    Follows r (poll surface settings r) := by
  obtain ⟨hnow, hseen, hterms⟩ := poll_marks surface settings r
  have hle := Nat.le_trans (Nat.le_add_right r.course.now _) hnow
  refine ⟨⟨[_], hseen, ?_⟩, hterms, hle⟩
  intro entry hmem
  rw [List.mem_singleton] at hmem
  subst hmem
  exact ⟨hle, _, rfl, hterms⟩

/-- Asking to cancel is no prompt, and the wait for the confirmation only polls. -/
theorem follows_cancelAndWait (surface : Surface σ) (settings : Settings) (fuel : Nat)
    (r : Run σ) : Follows r (cancelAndWait surface settings fuel r).2 := by
  have hcancel (delivered : Bool) :
      marks.observe (.posted Channel.Message.cancel delivered) = none := by
    have htype : Channel.typeOf Channel.Message.cancel = Channel.Message.cancelType := by
      rw [Channel.typeOf, Json.field, Channel.Message.cancel, Json.get?_ofFields_cons _ (by simp)]
      rfl
    show (if Channel.typeOf Channel.Message.cancel = Channel.Message.pendingPromptType then
      some Mark.prompt else none) = none
    rw [htype, if_neg (by decide)]
  rw [cancelAndWait, untilComplete]
  refine Course.repeatUntil_preserves (P := Follows r) ?_ fuel ?_
  · intro s _ hfollows
    exact hfollows.trans (follows_poll surface settings s)
  · exact Follows.quiet (seen_post_of_none marks rfl hcancel surface settings r.course) rfl
      (le_now_post surface settings _ r.course)

/-- A change of an act that is refused is a trouble of its own. -/
theorem follows_change (r : Run σ) (operation : Act.Operation) :
    Follows r (r.change operation).2 ∧ (r.change operation).1 ≠ some .notAccepted := by
  rw [Run.change]
  split
  · rename_i applied
    exact ⟨Follows.quiet rfl (Act.terms_of_apply applied) (Nat.le_refl _), by simp⟩
  · exact ⟨Follows.refl r, by simp⟩

/-- An act whose time ran out is canceled like any other; it has a trouble of its own only where a
change is refused. -/
theorem follows_timeOut (surface : Surface σ) (settings : Settings) (fuel : Nat) (r : Run σ) :
    Follows r (timeOut surface settings fuel r).2 ∧
      (timeOut surface settings fuel r).1 ≠ some (some .notAccepted) := by
  obtain ⟨hmarked, hkind⟩ := follows_change r .markTimedOut
  rw [timeOut]
  -- the act cannot be marked, or it is marked and canceled
  split
  · rename_i trouble marked heq
    rw [heq] at hmarked hkind
    exact ⟨hmarked, fun h => hkind (Option.some.inj h)⟩
  · rename_i marked heq
    rw [heq] at hmarked
    have hcancel := hmarked.trans (follows_cancelAndWait surface settings fuel marked)
    split
    · rename_i waited
      rw [waited] at hcancel
      exact ⟨hcancel, by simp⟩
    · rename_i waited
      rw [waited] at hcancel
      exact ⟨hcancel, by simp⟩
    · rename_i last waited
      rw [waited] at hcancel
      -- the cancellation was confirmed without a result, and the act is failed as timed out
      obtain ⟨hfailed, hkind⟩ := follows_change last (.fail timeOutPayload)
      exact ⟨hcancel.trans hfailed, fun h => hkind (Option.some.inj h)⟩

/-- **Following an act.** The induction is on the number of rounds. -/
theorem follow_follows (surface : Surface σ) (settings : Settings) (waitFuel n observed : Nat)
    (r : Run σ) :
    Follows r (follow surface settings waitFuel n observed r).2 ∧
      (follow surface settings waitFuel n observed r).1 ≠ some (some .notAccepted) := by
  induction n generalizing observed r with
  | zero => exact ⟨Follows.refl r, by simp [follow]⟩
  | succ n ih =>
    rw [follow]
    -- the act is complete, is out of time, or is polled once more
    split
    · exact ⟨Follows.refl r, by simp⟩
    split
    · exact follows_timeOut surface settings waitFuel r
    dsimp only
    have htraced : Follows r (traceSteps settings observed (poll surface settings r)) :=
      (follows_poll surface settings r).trans
        (Follows.quiet (Course.seen_trace marks _ _) rfl (Nat.le_of_eq (Course.trace_now _ _).symm))
    generalize traceSteps settings observed (poll surface settings r) = polled at htraced ⊢
    split
    · have hheard : Follows polled (hearCancel settings polled) :=
        Follows.quiet (Course.seen_trace marks _ _) rfl
          (Nat.le_of_eq (Course.trace_now polled.course.resetCancel _).symm)
      have hcanceled := (htraced.trans hheard).trans
        (follows_cancelAndWait surface settings waitFuel (hearCancel settings polled))
      split
      · rename_i waited
        rw [waited] at hcanceled
        exact ⟨hcanceled, by simp⟩
      · rename_i waited
        rw [waited] at hcanceled
        exact ⟨hcanceled, by simp⟩
      · rename_i last waited
        rw [waited] at hcanceled
        -- the cancellation was confirmed, and the act is looked at again
        obtain ⟨hrest, hkind⟩ := ih polled.act.steps.length last
        exact ⟨hcanceled.trans hrest, hkind⟩
    · obtain ⟨hrest, hkind⟩ := ih polled.act.steps.length polled
      exact ⟨htraced.trans hrest, hkind⟩

/-! ## Whole runs -/

/-- What a run comes to, if it comes to an end. -/
def outcomeOf (settings : Settings) (ended : Option (Option Trouble) × Run σ) :
    Option Act.Outcome :=
  ended.1.map fun trouble => conclude settings trouble ended.2.act

/-- Only an act whose prompts were not accepted is given up as not accepted. -/
theorem conclude_eq_givenUp_iff {settings : Settings} {trouble : Option Trouble} {act : Act} :
    conclude settings trouble act = givenUp act ↔ trouble = some .notAccepted := by
  constructor
  · intro hgivenUp
    have hkind (message : String) : (actFailure .dispatch act message).kind = .dispatch := by
      rw [actFailure, Act.Failure.withMessage_kind, Act.Failure.of_kind]
    rcases trouble with _ | trouble
    -- without a trouble the outcome is that of the act, which is never a failure to dispatch
    · exact absurd (hkind _) (Act.outcome_ne_dispatch hgivenUp)
    · have hfailure : actFailure trouble.kind act trouble.message =
          actFailure .dispatch act Trouble.notAccepted.message := Except.error.inj hgivenUp
      have hsame := congrArg Act.Failure.kind hfailure
      rw [hkind, actFailure, Act.Failure.withMessage_kind, Act.Failure.of_kind] at hsame
      -- two troubles are failures to dispatch, and their messages tell them apart
      cases trouble with
      | channel | state => cases hsame
      | notAccepted => rfl
      | notCanceled =>
        have hmessage := congrArg Act.Failure.message hfailure
        rw [actFailure, actFailure, Act.Failure.withMessage, Act.Failure.withMessage,
          if_neg (by decide), if_neg (by decide)] at hmessage
        have hdiffer : Trouble.notCanceled.message ≠ Trouble.notAccepted.message := by decide
        exact absurd hmessage hdiffer
  · rintro rfl
    rfl

/-- A run that goes on to follow its act posts no further prompt, and does not give the act up as not
accepted. -/
theorem follow_heard (surface : Surface σ) (settings : Settings) (fuel : Nat) {log : Log}
    (stops : PromptsStop log) (r : Run σ) :
    ∃ polls, (follow surface settings fuel fuel 0 r).2.course.seen marks =
        polls ++ r.course.seen marks ∧
      (∀ entry ∈ polls, r.course.now ≤ entry.1 ∧
        ∃ after, entry.2 = .polled after ∧ after.terms = r.act.terms) ∧
      Heard (polls ++ log) (outcomeOf settings (follow surface settings fuel fuel 0 r))
        (follow surface settings fuel fuel 0 r).2.act := by
  obtain ⟨hfollows, hkind⟩ := follow_follows surface settings fuel fuel 0 r
  obtain ⟨polls, hseen, hpolls⟩ := hfollows.polls
  refine ⟨polls, hseen, hpolls, stops.append ?_, ?_⟩
  · intro entry hmem hprompt
    obtain ⟨_, after, hpolled, _⟩ := hpolls entry hmem
    rw [hpolled] at hprompt
    cases hprompt
  -- an act that is given up here would have ended with a trouble that following it never has
  · intro hgivenUp
    obtain ⟨trouble, hended, hconclude⟩ := Option.map_eq_some_iff.mp hgivenUp
    rw [conclude_eq_givenUp_iff.mp hconclude] at hended
    exact absurd hended hkind

/-- An act that was accepted before is not polled for that any more. -/
theorem runBound_of_accepted (surface : Surface σ) (settings : Settings) (fuel : Nat) {r : Run σ}
    (accepted : r.act.isAccepted = true) :
    ∃ log, (runBound surface settings fuel r).2.course.seen marks = log ++ r.course.seen marks ∧
      Heard log (outcomeOf settings (runBound surface settings fuel r))
        (runBound surface settings fuel r).2.act := by
  obtain ⟨log, hseen, hunheard⟩ :=
    attempts_of_accepted surface settings fuel (tries settings) accepted
  have hstops := promptsStop_of_unheard hunheard
  rw [runBound]
  -- the prompts have no end, are not accepted, or the run goes on; no poll has followed them yet
  split
  · rename_i heq
    rw [heq] at hseen
    exact ⟨log, hseen, hstops, fun h => by cases h⟩
  · rename_i heq
    rw [heq] at hseen
    exact ⟨log, hseen, hstops, fun _ => hunheard⟩
  · rename_i last heq
    rw [heq] at hseen
    obtain ⟨polls, hlater, _, hheard⟩ := follow_heard surface settings fuel hstops last
    exact ⟨polls ++ log, by rw [hlater, hseen, List.append_assoc], hheard⟩

/-- An act that was not accepted before hears its acceptance exactly when it does not miss it. -/
theorem runBound_of_fresh (surface : Surface σ) (settings : Settings) (fuel : Nat) {r : Run σ}
    (fresh : r.act.isAccepted = false) :
    ∃ log, (runBound surface settings fuel r).2.course.seen marks = log ++ r.course.seen marks ∧
      (Heard log (outcomeOf settings (runBound surface settings fuel r))
        (runBound surface settings fuel r).2.act ↔ ¬ Missed settings log) := by
  obtain ⟨log, hseen, hverdict⟩ :=
    attempts_verdict surface settings fuel (tries settings) fresh
  rw [runBound]
  -- the prompts have no end, are not accepted, or the run goes on
  split
  · rename_i heq
    rw [heq] at hseen hverdict
    refine ⟨log, hseen, ?_⟩
    cases hverdict with
    | unheard hunheard =>
      exact ⟨fun _ => not_missed_of_unheard hunheard,
        fun _ => ⟨promptsStop_of_unheard hunheard, fun h => by cases h⟩⟩
    | missed hmissed hbroken =>
      refine ⟨fun hheard => ?_, fun h => absurd hmissed h⟩
      rcases hbroken with hended | hprompted
      -- the wait had no end, so it was not given up; a prompt came too late
      · cases hended
      · exact absurd hheard.1 hprompted
  -- the act is given up
  · rename_i heq
    rw [heq] at hseen hverdict
    refine ⟨log, hseen, ?_⟩
    cases hverdict with
    | unheard hunheard =>
      exact ⟨fun _ => not_missed_of_unheard hunheard,
        fun _ => ⟨promptsStop_of_unheard hunheard, fun _ => hunheard⟩⟩
    | missed hmissed =>
      refine ⟨fun hheard => ?_, fun h => absurd hmissed h⟩
      exact not_missed_of_unheard (hheard.2 rfl)
  · rename_i last heq
    rw [heq] at hseen hverdict
    dsimp only at hseen
    -- what is seen while the act is followed comes after all that was seen of the prompts
    have hall (polls : Log)
        (hlater : (follow surface settings fuel fuel 0 last).2.course.seen marks =
          polls ++ last.course.seen marks) :
        (follow surface settings fuel fuel 0 last).2.course.seen marks =
          polls ++ log ++ r.course.seen marks := by
      rw [hlater, hseen, List.append_assoc]
    cases hverdict with
    | unheard hunheard hpast =>
      obtain ⟨polls, hlater, hpolls, hheard⟩ :=
        follow_heard surface settings fuel (promptsStop_of_unheard hunheard) last
      refine ⟨polls ++ log, hall polls hlater, fun _ hmissed => ?_, fun _ => hheard⟩
      -- the act is out of time, and stays so with every later poll
      rcases missed_of_append hmissed with hmissed | ⟨_, now, after, hmem, hleft⟩
      · exact not_missed_of_unheard hunheard hmissed
      · obtain ⟨hnow, _, hpolled, hterms⟩ := hpolls _ hmem
        cases hpolled
        rw [Act.isPastDeadline_congr hterms,
          Act.isPastDeadline_mono hnow (hpast rfl)] at hleft
        cases hleft
    | @heard older posted hpolled haccepted hunheard hprompted hinTime =>
      -- the poll that brought the acceptance is the last entry, and no prompt comes after it
      have hlog : PromptsStop log := by
        have hstops : PromptsStop ([(last.course.now, .polled last.act)] ++ older) :=
          (promptsStop_of_unheard hunheard).append fun entry hmem => by
            rw [List.mem_singleton] at hmem
            subst hmem
            intro hsame
            cases hsame
        exact hpolled ▸ hstops
      obtain ⟨polls, hlater, _, hheard⟩ := follow_heard surface settings fuel hlog last
      refine ⟨polls ++ log, hall polls hlater, fun _ hmissed => ?_, fun _ => hheard⟩
      rw [hpolled] at hmissed
      -- the acceptance that counts is this one; it came in time, and the later polls are not the
      -- first to have it
      rcases missed_of_append hmissed with hmissed | ⟨hfresh, _⟩
      · exact not_missed_of_inTime hunheard hprompted hinTime hmissed
      · have hrefused : last.act.isAccepted = false := (unheard_cons.mp hfresh).1
        rw [haccepted] at hrefused
        cases hrefused
    | missed hmissed hbroken =>
      obtain ⟨hfollows, _⟩ := follow_follows surface settings fuel fuel 0 last
      obtain ⟨polls, hlater, _⟩ := hfollows.polls
      refine ⟨polls ++ log, hall polls hlater, fun hheard => ?_,
        fun h => absurd (hmissed.append_left polls) h⟩
      rcases hbroken with hended | hprompted
      · cases hended
      -- a prompt that came too late stays too late, whatever is polled after it
      · exact absurd (List.pairwise_append.mp hheard.1).2.1 hprompted

/-- **Whether an acceptance is heard.** However the extension behaves and however far a run comes, no
prompt is posted and the act is not given up as not accepted once an acceptance or a completion has
come in, exactly when the first of them does not come in with a poll that ends when the wait for it
is over while the act itself still has time. -/
theorem dispatchWithin_heard_iff (surface : Surface σ) (settings : Settings) (fuel : Nat)
    (act : Act) (c : Course (Link σ)) :
    ∃ log, (dispatchWithin surface settings fuel act c).2.course.seen marks =
        log ++ c.seen marks ∧
      (Heard log (dispatchWithin surface settings fuel act c).1
          (dispatchWithin surface settings fuel act c).2.act ↔
        ¬ (act.isAccepted = false ∧ Missed settings log)) := by
  have hkey := (installKey_quiet marks (fun _ => rfl) surface settings c).1
  -- the outcome is that of the run, and nothing is bound after it
  suffices hrun : ∃ log, (run surface settings fuel act c).2.course.seen marks =
      log ++ c.seen marks ∧
      (Heard log (outcomeOf settings (run surface settings fuel act c))
          (run surface settings fuel act c).2.act ↔
        ¬ (act.isAccepted = false ∧ Missed settings log)) by
    rw [dispatchWithin]
    split
    · rename_i heq
      rw [heq] at hrun
      exact hrun
    · rename_i heq
      rw [heq] at hrun
      exact hrun
  -- a run that is refused before its first prompt sees nothing, so that nothing can be missed
  have hrefused {cause : Channel.Error} {c' : Course (Link σ)}
      (hsame : c'.seen marks = c.seen marks) :
      ∃ log, c'.seen marks = log ++ c.seen marks ∧
        (Heard log (some (conclude settings (some (.channel cause)) act)) act ↔
          ¬ (act.isAccepted = false ∧ Missed settings log)) := by
    refine ⟨[], hsame, fun _ hmissed => not_missed_of_unheard unheard_nil hmissed.2,
      fun _ => ⟨promptsStop_of_unheard unheard_nil, fun _ => unheard_nil⟩⟩
  rw [run]
  split
  · rename_i heq
    rw [heq] at hkey
    exact hrefused hkey
  · rename_i installed heq
    rw [heq] at hkey
    split
    · exact hrefused hkey
    · rename_i binding _
      have hstart : (rebind installed binding).resetCancel.seen marks = c.seen marks := hkey
      -- only an act that was not accepted before can miss its acceptance
      cases haccepted : act.isAccepted with
      | true =>
        obtain ⟨log, hseen, hheard⟩ := runBound_of_accepted surface settings fuel
          (r := ⟨act, (rebind installed binding).resetCancel⟩) haccepted
        refine ⟨log, hstart ▸ hseen, ?_, fun _ => hheard⟩
        rintro _ ⟨hopen, _⟩
        cases hopen
      | false =>
        obtain ⟨log, hseen, hheard⟩ := runBound_of_fresh surface settings fuel
          (r := ⟨act, (rebind installed binding).resetCancel⟩) haccepted
        refine ⟨log, hstart ▸ hseen, hheard.trans ?_⟩
        exact not_congr ⟨fun hmissed => ⟨rfl, hmissed⟩, fun hmissed => hmissed.2⟩

namespace Sample

open Channel (Binding)
open Channel.Sample (act key nonce receive_accepted)

/-- The acceptance comes in with the poll that ends the wait: the act is acknowledged, and given up as
not accepted. -/
theorem acceptance_missed :
    act.isComplete = false ∧ act.acknowledged = false ∧ 0 < (brief key 1).timings.pollInterval ∧
      ∃ r, dispatchWithin (saying [Channel.encrypt key nonce Channel.Message.accepted]) (brief key 1)
          1 act (.start (.new ())) = (some (givenUp r.act), r) ∧
        r.act.acknowledged = true := by
  refine ⟨rfl, rfl, Nat.one_pos, ?_⟩
  have hread : Channel.reading? key 1 (Channel.encrypt key nonce Channel.Message.accepted) =
      some .accepted := by
    rw [Channel.reading?, receive_accepted]
    rfl
  -- the only poll ends at the deadline of the wait, and what it brought in is in the act
  obtain ⟨r, hlate, hact⟩ := dispatchWithin_saying key
    [Channel.encrypt key nonce Channel.Message.accepted] (rfl : act.request.timeout = none) rfl
  refine ⟨r, hlate, ?_⟩
  rw [hact, Binding.handleAll, List.foldl_cons, List.foldl_nil, Binding.take_of_reading hread]
  rfl

end Sample

end BrowserAct.Dispatch.Extension
