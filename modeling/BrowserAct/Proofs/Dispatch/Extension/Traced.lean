import BrowserAct.Proofs.Dispatch.Extension.Ending

/-!
# Steps in the trace

The programs of an act are traced while it is followed: after each poll those of the steps that the poll
brought. Polls are also made before, to hear whether the prompt is accepted, and after, to hear whether a
cancellation is confirmed, and nothing is traced after these. So of the steps that come in, the trace has
those that the act had at the last poll that followed it.

* **`Act.Grows`** is what messages make of an act: steps with a program are added to it.
* **`Watch`** is what of the log says which polls followed the act, and **`followedSteps`** are the steps
  at the last of these.
* **`Shows`** says of a part of a run which polls are watched in it and which lines it traces.
* **`follow_shows`** is following an act, and **`dispatchWithin_traced_iff`** a whole dispatch.
-/

namespace BrowserAct

/-! ## Acts that grow -/

namespace Act

/-- An act goes on: it stays acknowledged, and steps with a program are added to it. -/
structure Grows (a b : Act) : Prop where
  acknowledged : a.acknowledged = true → b.acknowledged = true
  steps : ∃ more, b.steps = a.steps ++ more ∧ ∀ step ∈ more, step.program ≠ ""

namespace Grows

theorem refl (a : Act) : Grows a a :=
  ⟨fun kept => kept, [], (List.append_nil _).symm, List.forall_mem_nil _⟩

theorem trans {a b c : Act} (first : Grows a b) (second : Grows b c) : Grows a c := by
  obtain ⟨more, hmore, hprogram⟩ := first.steps
  obtain ⟨later, hlater, hprogram'⟩ := second.steps
  refine ⟨fun acknowledged => second.acknowledged (first.acknowledged acknowledged), more ++ later, ?_,
    List.forall_mem_append.mpr ⟨hprogram, hprogram'⟩⟩
  rw [hlater, hmore, List.append_assoc]

theorem isPrefix {a b : Act} (grows : Grows a b) : a.steps <+: b.steps := by
  obtain ⟨more, hmore, -⟩ := grows.steps
  exact ⟨more, hmore.symm⟩

end Grows

/-- A step that was made has a program. -/
theorem Step.program_ne_empty {message : Json} {now : Moment} {step : Step}
    (made : Step.ofMessage message now = .ok step) : step.program ≠ "" := by
  rw [Step.ofMessage] at made
  split at made
  · cases made
  split at made
  · cases made
  · rename_i hprogram
    cases made
    exact hprogram

/-- An operation that adds no step leaves the steps as they are. -/
theorem grows_perform {a : Act} {operation : Operation} {now : Moment}
    (added : ∀ step, operation = .addStep step → step.program ≠ "") :
    Grows a (a.perform operation now) := by
  cases operation with
  | addStep step =>
    exact ⟨fun kept => kept, [step], rfl, List.forall_mem_singleton.mpr (added step rfl)⟩
  | acknowledge => exact ⟨fun _ => rfl, [], (List.append_nil _).symm, List.forall_mem_nil _⟩
  | markTimedOut | complete | cancel | fail =>
    exact ⟨fun kept => kept, [], (List.append_nil _).symm, List.forall_mem_nil _⟩

end Act

namespace Channel.Binding

/-- Messages make an act grow. -/
theorem grows_handleAll (key : Key) (now : Moment) (state : Binding × Act) (messages : List Json) :
    state.2.Grows (handleAll key now state messages).2 := by
  refine handleAll_preserves (P := fun a => state.2.Grows a) (fun taken grown => grown.trans ?_) key
    messages (.refl _)
  cases taken with
  | kept => exact .refl _
  | acknowledged => exact Act.grows_perform fun _ added => by cases added
  -- only the report of a step adds one, and it has a program
  | step _ made =>
    refine Act.grows_perform fun _ added => ?_
    cases added
    exact Act.Step.program_ne_empty made
  | completed _ completion =>
    exact Act.grows_perform fun _ added => by cases completion <;> cases added

end Channel.Binding

namespace Dispatch.Extension

open Course (Event)

/-! ## Watching the polls -/

/-- What has been seen of an act in the log: whether it was acknowledged, whether its cancellation was
posted, and its steps at the last poll that followed it. -/
structure Watch where
  acknowledged : Bool
  canceled : Bool
  followed : List Act.Step

namespace Watch

/-- An act that nothing was seen of in the log so far. -/
def start (act : Act) : Watch :=
  ⟨act.acknowledged, false, []⟩

/-- A poll follows an act that was acknowledged before, as long as no cancellation was posted. -/
def see (w : Watch) : Event → Watch
  | .polled act =>
    ⟨act.acknowledged, w.canceled,
      if w.acknowledged && !w.canceled then act.steps else w.followed⟩
  | .posted message _ =>
    if Channel.typeOf message = Channel.Message.cancelType then { w with canceled := true } else w
  | _ => w

/-- What has been seen after a part of the log, which is given latest first. -/
def after (w : Watch) (log : List (Moment × Event)) : Watch :=
  log.foldr (fun entry w => w.see entry.2) w

end Watch

/-- The steps that an act had at the last poll that followed it, none if no poll did. -/
def followedSteps (act : Act) (log : List (Moment × Event)) : List Act.Step :=
  ((Watch.start act).after log).followed

/-- The lines of the trace in a part of the log, first to last. -/
def linesOf (log : List (Moment × Event)) : List String :=
  (log.filterMap fun entry => entry.2.line?).reverse

/-- A part of a run: what has been seen before and after it, and the lines that it traces. -/
def Shows {τ : Type} (w : Watch) (c : Course τ) (w' : Watch) (lines : List String) (c' : Course τ) :
    Prop :=
  ∃ log, c'.events = log ++ c.events ∧ w.after log = w' ∧ linesOf log = lines

section

variable {τ α : Type}

theorem Shows.of_events_eq (w : Watch) {c c' : Course τ} (same : c'.events = c.events) :
    Shows w c w [] c' :=
  ⟨[], same, rfl, rfl⟩

theorem Shows.refl (w : Watch) (c : Course τ) : Shows w c w [] c :=
  .of_events_eq w rfl

/-- What two parts of a run show is shown one after the other. -/
theorem Shows.trans {w w' w'' : Watch} {c c' c'' : Course τ} {lines lines' : List String}
    (first : Shows w c w' lines c') (second : Shows w' c' w'' lines' c'') :
    Shows w c w'' (lines ++ lines') c'' := by
  obtain ⟨log, hlog, rfl, rfl⟩ := first
  obtain ⟨later, hlater, rfl, rfl⟩ := second
  refine ⟨later ++ log, ?_, ?_, ?_⟩
  · rw [hlater, hlog, List.append_assoc]
  · rw [Watch.after, List.foldr_append]
    rfl
  · rw [linesOf, List.filterMap_append, List.reverse_append]
    rfl

/-- A single event, with its line if it has one. -/
theorem shows_log (w : Watch) (c : Course τ) (event : Event) :
    Shows w c (w.see event) event.line?.toList (c.log event) := by
  refine ⟨[(c.now, event)], rfl, rfl, ?_⟩
  rw [linesOf, List.filterMap_cons, List.filterMap_nil]
  cases event.line? <;> rfl

/-- Traced lines do not change what is followed. -/
theorem shows_trace (w : Watch) (c : Course τ) (lines : List String) :
    Shows w c w lines (c.trace lines) := by
  rw [Course.trace]
  induction lines generalizing c with
  | nil => exact .refl w c
  | cons line rest ih => exact (shows_log w c (.traced line)).trans (ih _)

theorem shows_react (w : Watch) (c : Course τ) (r : Reaction τ α) : Shows w c w [] (c.react r).2 := by
  rw [Course.react]
  dsimp only
  split
  · exact shows_log w { c with world := r.world } .cancelRequested
  · exact .of_events_eq w rfl

theorem shows_await (w : Watch) (c : Course τ) (p : Pending τ α) : Shows w c w [] (c.await p).2 :=
  (shows_react w c p.begun).trans (shows_react w ((c.react p.begun).2.advance p.delay) p.ended)

end

/-! ## Moves -/

variable {σ : Type} (surface : Surface σ) (settings : Settings)

/-- A message that is posted is seen and has no line. -/
theorem shows_post (w : Watch) (message : Json) (c : Course (Link σ)) :
    Shows w c (w.see (.posted message true)) [] (post surface settings message c) := by
  let counted := { c with world := { c.world with envelopeCount := c.world.envelopeCount + 1 } }
  have hbegun : Shows w c w [] (counted.log (.posting message)) :=
    shows_log w counted (.posting message)
  rw [post]
  exact (hbegun.trans (shows_await w _ _)).trans (shows_log w _ (.posted message _))

theorem shows_fetch (w : Watch) (c : Course (Link σ)) :
    Shows w c w [] (fetch surface settings c).2 := by
  rw [fetch_eq]
  exact shows_await w (c.advance settings.timings.pollInterval) _

/-- A poll is watched, and the act grows by it. -/
theorem shows_poll (w : Watch) (r : Run σ) :
    Shows w r.course (w.see (.polled (poll surface settings r).act)) []
        (poll surface settings r).course ∧
      r.act.Grows (poll surface settings r).act := by
  have hfetched := shows_fetch surface settings w r.course
  rw [poll]
  rcases hfetch : fetch surface settings r.course with ⟨messages, c⟩
  rw [hfetch] at hfetched
  refine ⟨?_, Channel.Binding.grows_handleAll settings.key c.now (c.world.binding, r.act) messages⟩
  exact hfetched.trans (shows_log w _ _)

/-- The key is posted before the act is followed, and has no line. -/
theorem shows_installKey (w : Watch) (c : Course (Link σ)) :
    Shows w c w [] (installKey surface settings c).2 := by
  rw [installKey]
  split
  · exact .refl w c
  · exact (shows_await w c _).trans (shows_log w _ (.keyPosted _))

/-! ## Waiting for an acceptance -/

/-- A part of a run in which the act is not followed yet, and nothing is traced. -/
def Prompted (r r' : Run σ) : Prop :=
  Shows (.start r.act) r.course (.start r'.act) [] r'.course ∧ r.act.Grows r'.act

theorem Prompted.trans {r r' r'' : Run σ} (first : Prompted r r') (second : Prompted r' r'') :
    Prompted r r'' :=
  ⟨first.1.trans second.1, first.2.trans second.2⟩

/-- A prompt is no cancellation. -/
theorem prompted_postPrompt (r : Run σ) : Prompted r (postPrompt surface settings r) := by
  have hprompt := shows_post surface settings (.start r.act)
    (Channel.Message.pendingPrompt r.act settings.apiKey settings.service.apiUri settings.credentials)
    r.course
  rw [Watch.see, typeOf_pendingPrompt, if_neg (by decide)] at hprompt
  exact ⟨hprompt, .refl _⟩

/-- Polls are made only as long as the act is not acknowledged, and it is acknowledged or complete if the
wait was not in vain. -/
theorem prompted_untilAccepted (fuel : Nat) (deadline : Moment) (r : Run σ) :
    Prompted r (untilAccepted surface settings fuel deadline r).2 ∧
      ((untilAccepted surface settings fuel deadline r).1 = some true →
        (untilAccepted surface settings fuel deadline r).2.act.isAccepted = true) := by
  rw [untilAccepted]
  refine ⟨Course.repeatUntil_preserves (P := Prompted r) ?_ fuel ⟨.refl _ _, .refl _⟩, ?_⟩
  · intro s hwaits before
    -- a poll is made only of an act that was not acknowledged before, so it is not one that follows
    have hfresh : s.act.acknowledged = false := by
      split at hwaits
      · cases hwaits
      split at hwaits
      · cases hwaits
      · rename_i hopen
        exact (Bool.or_eq_false_iff.mp (Bool.eq_false_iff.mpr hopen)).1
    obtain ⟨hshows, hgrows⟩ := shows_poll surface settings (.start s.act) s
    have hsee (after : Act) : (Watch.start s.act).see (.polled after) = .start after := by
      rw [Watch.start, hfresh]
      rfl
    rw [hsee] at hshows
    exact before.trans ⟨hshows, hgrows⟩
  -- the answer is about the act as the last poll left it
  · intro accepted
    rw [← Course.test_repeatUntil] at accepted
    split at accepted
    · cases accepted
    split at accepted
    · assumption
    · cases accepted

/-- What is known of an act when its prompts are over: it is accepted, or out of time. -/
def Followable (r : Run σ) : Prop :=
  r.act.isAccepted = true ∨ r.act.isPastDeadline r.course.now = true

/-- Neither does a prompt; an act that goes on from it can be followed. -/
theorem prompted_attempt (fuel : Nat) (r : Run σ) :
    Prompted r (attempt surface settings fuel r).2 ∧
      ((attempt surface settings fuel r).1 = some true →
        Followable (attempt surface settings fuel r).2) := by
  have hprompt := prompted_postPrompt surface settings r
  rw [attempt]
  generalize (postPrompt surface settings r).course.now + acceptanceTime settings _ _ = deadline
  generalize postPrompt surface settings r = prompted at hprompt ⊢
  obtain ⟨hwait, haccepted⟩ := prompted_untilAccepted surface settings fuel deadline prompted
  generalize untilAccepted surface settings fuel deadline prompted = waited at hwait haccepted ⊢
  obtain ⟨answer, last⟩ := waited
  -- without an answer the wait had no end, and nothing is followed
  cases answer with
  | none => exact ⟨hprompt.trans hwait, fun follows => by cases follows⟩
  | some accepted =>
    refine ⟨hprompt.trans hwait, fun follows => ?_⟩
    rcases Bool.or_eq_true_iff.mp (Option.some.inj follows) with rfl | hpast
    · exact .inl (haccepted rfl)
    · exact .inr hpast

theorem prompted_attempts (fuel n : Nat) (r : Run σ) :
    Prompted r (attempts surface settings fuel n r).2 ∧
      ((attempts surface settings fuel n r).1 = some true →
        Followable (attempts surface settings fuel n r).2) := by
  induction n generalizing r with
  | zero => exact ⟨⟨.refl _ _, .refl _⟩, fun follows => by cases follows⟩
  | succ n ih =>
    have hattempt := prompted_attempt surface settings fuel r
    rw [attempts]
    split
    · rename_i last heq
      rw [heq] at hattempt
      split
      · exact ⟨hattempt.1, fun follows => by cases follows⟩
      -- the pause is not logged
      · have hpause : Prompted last
            { last with course := last.course.advance settings.timings.retryDelay } :=
          ⟨.of_events_eq _ rfl, .refl _⟩
        obtain ⟨hlater, hfollows⟩ := ih
          { last with course := last.course.advance settings.timings.retryDelay }
        exact ⟨(hattempt.1.trans hpause).trans hlater, hfollows⟩
    · exact hattempt

/-! ## Waiting for a confirmation -/

/-- A part of a run after the cancellation was posted: no poll in it follows the act. -/
def Canceled (w : Watch) (r r' : Run σ) : Prop :=
  ∃ w', Shows w r.course w' [] r'.course ∧ w'.canceled = true ∧ w'.followed = w.followed ∧
    r.act.Grows r'.act

/-- A cancellation is posted, and what comes in during the wait for it has no line. -/
theorem canceled_cancelAndWait (w : Watch) (fuel : Nat) (r : Run σ) :
    Canceled w r (cancelAndWait surface settings fuel r).2 := by
  have hposted := shows_post surface settings w Channel.Message.cancel r.course
  have hcancel : Channel.typeOf Channel.Message.cancel = Channel.Message.cancelType := rfl
  rw [Watch.see, if_pos hcancel] at hposted
  rw [cancelAndWait, untilComplete]
  refine Course.repeatUntil_preserves (P := Canceled w r) ?_ fuel ⟨_, hposted, rfl, rfl, .refl _⟩
  rintro s - ⟨w', hshows, hcanceled, hfollowed, hgrows⟩
  obtain ⟨hpolled, hgrows'⟩ := shows_poll surface settings w' s
  -- the cancellation was posted before, so whatever comes in with this poll is not followed
  refine ⟨_, hshows.trans hpolled, hcanceled, ?_, hgrows.trans hgrows'⟩
  rw [Watch.see, hcanceled, Bool.not_true, Bool.and_false]
  exact hfollowed

/-- The same for an act that ran out of time. -/
theorem canceled_timeOut (w : Watch) (fuel : Nat) {r : Run σ} (isOpen : r.act.isComplete = false) :
    ∃ w', Shows w r.course w' [] (timeOut surface settings fuel r).2.course ∧
      w'.followed = w.followed ∧ r.act.Grows (timeOut surface settings fuel r).2.act := by
  have hmarked : r.act.Grows (r.act.perform .markTimedOut r.course.now) :=
    Act.grows_perform fun _ added => by cases added
  obtain ⟨w', hshows, -, hfollowed, hgrows⟩ := canceled_cancelAndWait surface settings w fuel
    { r with act := r.act.perform .markTimedOut r.course.now }
  rw [timeOut, change_of_open isOpen]
  dsimp only
  split
  · rename_i last heq
    rw [heq] at hshows hgrows
    exact ⟨w', hshows, hfollowed, hmarked.trans hgrows⟩
  · rename_i last heq
    rw [heq] at hshows hgrows
    exact ⟨w', hshows, hfollowed, hmarked.trans hgrows⟩
  -- confirmed without a result: failing the act adds no step
  · rename_i last heq
    have hopen := isComplete_cancelAndWait heq
    rw [heq] at hshows hgrows
    rw [change_of_open hopen]
    have hfailed : last.act.Grows (last.act.perform (.fail timeOutPayload) last.course.now) :=
      Act.grows_perform fun _ added => by cases added
    exact ⟨w', hshows, hfollowed, (hmarked.trans hgrows).trans hfailed⟩

/-! ## Following an act -/

/-- The lines of the trace for some steps. -/
def stepLines (settings : Settings) (steps : List Act.Step) : List String :=
  steps.flatMap fun step => settings.trace.programLines step.program

/-- Steps with programs have one line each. -/
theorem stepLines_of_programs {steps : List Act.Step} (programs : ∀ step ∈ steps, step.program ≠ "") :
    stepLines settings steps =
      steps.map fun step => settings.trace.showProgram step.program := by
  induction steps with
  | nil => rfl
  | cons step rest ih =>
    obtain ⟨hfirst, hrest⟩ := List.forall_mem_cons.mp programs
    rw [stepLines, List.flatMap_cons, Trace.programLines, if_neg hfirst, List.map_cons, ← ih hrest]
    rfl

/-- What a run traces besides its steps: nothing, or at its end that it was asked to cancel. -/
def IsClosing (settings : Settings) (lines : List String) : Prop :=
  lines = [] ∨ lines = [settings.trace.line "Terminating agent workflow"]

/-- A part of a run that traces steps: its lines are those of the steps that the act has at the last poll
that follows it, but for the steps that were followed before. -/
def Traces (settings : Settings) (w : Watch) (r r' : Run σ) : Prop :=
  ∃ w' lines closing, Shows w r.course w' lines r'.course ∧ r.act.Grows r'.act ∧
    w'.followed <+: r'.act.steps ∧ IsClosing settings closing ∧
    stepLines settings w.followed ++ lines = stepLines settings w'.followed ++ closing

/-- A part of a run that follows no step and traces nothing. -/
theorem traces_of_quiet {w w' : Watch} {r r' : Run σ} (shows : Shows w r.course w' [] r'.course)
    (same : w'.followed = w.followed) (grows : r.act.Grows r'.act)
    (seen : w.followed <+: r.act.steps) : Traces settings w r r' := by
  refine ⟨w', [], [], shows, grows, ?_, .inl rfl, ?_⟩
  · rw [same]
    exact seen.trans grows.isPrefix
  · rw [same]

/-- A poll that follows an act, with the steps traced after it. -/
theorem shows_traceSteps {r : Run σ} {earlier : List Act.Step} (acknowledged : r.act.acknowledged = true)
    (seen : earlier <+: r.act.steps) {polled : Run σ}
    (polls : polled = traceSteps settings earlier.length (poll surface settings r)) :
    ∃ lines, Shows ⟨true, false, earlier⟩ r.course ⟨true, false, polled.act.steps⟩ lines
        polled.course ∧
      r.act.Grows polled.act ∧ polled.act.acknowledged = true ∧
      stepLines settings earlier ++ lines = stepLines settings polled.act.steps := by
  obtain ⟨hpoll, hgrows⟩ := shows_poll surface settings ⟨true, false, earlier⟩ r
  subst polls
  have hstays : (poll surface settings r).act.acknowledged = true := hgrows.acknowledged acknowledged
  -- the steps at the poll are those observed before and those that are traced now
  have hsteps := List.prefix_iff_eq_append.mp (seen.trans hgrows.isPrefix)
  refine ⟨stepLines settings ((poll surface settings r).act.steps.drop earlier.length), ?_, hgrows,
    hstays, ?_⟩
  · rw [Watch.see, hstays] at hpoll
    exact hpoll.trans (shows_trace _ _ _)
  · rw [stepLines, stepLines, ← List.flatMap_append]
    exact congrArg (stepLines settings) hsteps

/-- A request to cancel ends the following of an act. -/
theorem traces_of_cancel (w : Watch) (fuel : Nat) {r : Run σ} (seen : w.followed <+: r.act.steps) :
    Traces settings w r (cancelAndWait surface settings fuel (hearCancel settings r)).2 := by
  let closing := [settings.trace.line "Terminating agent workflow"]
  have hheard : Shows w r.course w closing (hearCancel settings r).course :=
    shows_trace w r.course.resetCancel closing
  obtain ⟨w', hshows, -, hfollowed, hgrows⟩ := canceled_cancelAndWait surface settings w fuel
    (hearCancel settings r)
  refine ⟨w', closing, closing, hheard.trans hshows, hgrows, ?_, .inr rfl, ?_⟩
  · rw [hfollowed]
    exact seen.trans hgrows.isPrefix
  · rw [hfollowed]

/-- **Following an act.** The induction is on the number of rounds; what carries it is that the steps
observed so far are those of the last poll, all of which were traced. -/
theorem follow_traces (waitFuel n : Nat) {r : Run σ} (followable : Followable r)
    {earlier : List Act.Step} (seen : earlier <+: r.act.steps) :
    Traces settings ⟨r.act.acknowledged, false, earlier⟩ r
      (follow surface settings waitFuel n earlier.length r).2 := by
  have hquiet : Traces settings ⟨r.act.acknowledged, false, earlier⟩ r r :=
    traces_of_quiet settings (.refl _ _) rfl (.refl _) seen
  induction n generalizing r earlier with
  | zero => exact hquiet
  | succ n ih =>
    rw [follow]
    split
    · exact hquiet
    rename_i hopen
    split
    · obtain ⟨w', hshows, hfollowed, hgrows⟩ := canceled_timeOut surface settings
        ⟨r.act.acknowledged, false, earlier⟩ waitFuel (Bool.eq_false_iff.mpr hopen)
      exact traces_of_quiet settings hshows hfollowed hgrows seen
    rename_i hinTime
    -- an act that is open and in time is followed only because it is acknowledged
    have hacknowledged : r.act.acknowledged = true := by
      rcases followable with haccepted | hpast
      · exact (Bool.or_eq_true_iff.mp haccepted).resolve_right hopen
      · exact absurd hpast hinTime
    dsimp only
    generalize hpolled : traceSteps settings earlier.length (poll surface settings r) = polled
    obtain ⟨lines, hshows, hgrows, hstays, hlines⟩ :=
      shows_traceSteps surface settings hacknowledged seen hpolled.symm
    -- what a later part traces comes after the lines of this round
    have hround {r' : Run σ} (traces : Traces settings ⟨true, false, polled.act.steps⟩ polled r') :
        Traces settings ⟨r.act.acknowledged, false, earlier⟩ r r' := by
      obtain ⟨w', later, closing, hshows', hgrows', hprefix, hclosing, hlater⟩ := traces
      refine ⟨w', lines ++ later, closing, hacknowledged ▸ hshows.trans hshows',
        hgrows.trans hgrows', hprefix, hclosing, ?_⟩
      rw [← List.append_assoc, hlines, hlater]
    split
    · have hcanceled := hround (traces_of_cancel surface settings ⟨true, false, polled.act.steps⟩
        waitFuel (List.prefix_refl _))
      split
      · rename_i heq
        rw [heq] at hcanceled
        exact hcanceled
      · rename_i heq
        rw [heq] at hcanceled
        exact hcanceled
      · rename_i last heq
        rw [heq] at hcanceled
        -- a cancellation was confirmed, so the next round finds the act complete and traces nothing
        rw [follow_snd_of_complete surface (isComplete_cancelAndWait heq)]
        exact hcanceled
    · have hfollowable : Followable polled := .inl (by rw [Act.isAccepted, hstays, Bool.true_or])
      have hlater := ih hfollowable (List.prefix_refl polled.act.steps)
        (traces_of_quiet settings (.refl _ _) rfl (.refl _) (List.prefix_refl _))
      rw [hstays] at hlater
      exact hround hlater

/-! ## Whole dispatches -/

/-- The prompts trace nothing, and the rest of the run what following the act does. -/
theorem runBound_traces (fuel : Nat) (r : Run σ) :
    Traces settings (.start r.act) r (runBound surface settings fuel r).2 := by
  obtain ⟨⟨hshows, hgrows⟩, hfollowable⟩ :=
    prompted_attempts surface settings fuel (tries settings) r
  have hquiet := traces_of_quiet settings hshows rfl hgrows List.nil_prefix
  rw [runBound]
  split
  · rename_i heq
    rw [heq] at hquiet
    exact hquiet
  · rename_i heq
    rw [heq] at hquiet
    exact hquiet
  -- only here are there lines: the act is followed from where the prompts end
  · rename_i last heq
    rw [heq] at hshows hgrows hfollowable
    obtain ⟨w', lines, closing, hshows', hgrows', hprefix, hclosing, hlines⟩ :=
      follow_traces surface settings fuel fuel (hfollowable rfl)
        List.nil_prefix
    exact ⟨w', lines, closing, hshows.trans hshows', hgrows.trans hgrows', hprefix, hclosing, hlines⟩

/-- Posting the key and binding the act add nothing to it. -/
theorem dispatchWithin_traces (surface : Surface σ) (settings : Settings) (fuel : Nat) (act : Act)
    (c : Course (Link σ)) :
    Traces settings (.start act) ⟨act, c⟩ (dispatchWithin surface settings fuel act c).2 := by
  have hkey := shows_installKey surface settings (.start act) c
  have hrun : Traces settings (.start act) ⟨act, c⟩ (run surface settings fuel act c).2 := by
    rw [run]
    split
    · rename_i heq
      rw [heq] at hkey
      exact traces_of_quiet settings hkey rfl (.refl act) List.nil_prefix
    · rename_i installed heq
      rw [heq] at hkey
      split
      · exact traces_of_quiet settings hkey rfl (.refl act) List.nil_prefix
      · rename_i binding _
        -- binding the act and clearing the flag are not logged
        obtain ⟨w', lines, closing, hshows, hrest⟩ := runBound_traces surface settings fuel
          ⟨act, (rebind installed binding).resetCancel⟩
        have hbound : Shows (.start act) c (.start act) [] (rebind installed binding).resetCancel := hkey
        exact ⟨w', lines, closing, hbound.trans hshows, hrest⟩
  rw [dispatchWithin]
  split
  · rename_i heq
    rw [heq] at hrun
    exact hrun
  · rename_i heq
    rw [heq] at hrun
    exact hrun

/-- **Which steps are traced.** However the extension behaves and however far a dispatch comes: the lines
that it traces are those of the steps that the act has at the last poll that follows it, each once and in
order, and at the end possibly one about a cancellation. For an act without steps these are the programs
of all its steps exactly if no step comes in after that poll. -/
theorem dispatchWithin_traced_iff (surface : Surface σ) (settings : Settings) (fuel : Nat) (act : Act)
    (c : Course (Link σ)) :
    ∃ log closing,
      (dispatchWithin surface settings fuel act c).2.course.events = log ++ c.events ∧
      IsClosing settings closing ∧
      linesOf log = stepLines settings (followedSteps act log) ++ closing ∧
      followedSteps act log <+: (dispatchWithin surface settings fuel act c).2.act.steps ∧
      (act.steps = [] →
        (linesOf log = (dispatchWithin surface settings fuel act c).2.act.steps.map
            (fun step => settings.trace.showProgram step.program) ++ closing ↔
          followedSteps act log = (dispatchWithin surface settings fuel act c).2.act.steps)) := by
  obtain ⟨w', lines, closing, ⟨log, hlog, rfl, rfl⟩, hgrows, hprefix, hclosing, hlines⟩ :=
    dispatchWithin_traces surface settings fuel act c
  generalize (dispatchWithin surface settings fuel act c).2 = last at hlog hgrows hprefix ⊢
  have htraced : linesOf log = stepLines settings (followedSteps act log) ++ closing := hlines
  have hfollowed : followedSteps act log <+: last.act.steps := hprefix
  refine ⟨log, closing, hlog, hclosing, htraced, hfollowed, fun noSteps => ?_⟩
  -- all steps came in on the way, so each of them has one line
  obtain ⟨steps, hsteps, hprograms⟩ := hgrows.steps
  rw [noSteps, List.nil_append] at hsteps
  subst hsteps
  rw [htraced, stepLines_of_programs settings fun step hmem => hprograms step (hfollowed.subset hmem)]
  constructor
  · intro same
    have hlength := congrArg List.length (List.append_cancel_right same)
    rw [List.length_map, List.length_map] at hlength
    exact hfollowed.eq_of_length hlength
  · intro same
    rw [same]

namespace Sample

open Channel (Binding)
open Channel.Sample (act key nonce recorded receive_accepted receive_step receive_success)

/-- The acceptance, a step and the completion, all at once. -/
def atOnce : List Json :=
  [Channel.encrypt key nonce Channel.Message.accepted,
    Channel.encrypt key nonce (Channel.Sample.step "A"),
    Channel.encrypt key nonce (Channel.Message.success "wool")]

/-- The act takes in all three of them. -/
theorem handleAll_atOnce :
    (Binding.handleAll key 1 (.act act.id true, act) atOnce).2 =
      { act with
        acknowledged := true, steps := [recorded 1], result := some (.succeeded "wool")
        endedAt := some 1 } := by
  let started := act.perform .acknowledge 1
  let stepped := started.perform (.addStep (recorded 1)) 1
  have haccepted : Binding.take key 1 (.act act.id true, act)
      (Channel.encrypt key nonce Channel.Message.accepted) = (.act started.id true, started) := by
    have hread : Channel.reading? key 1 (Channel.encrypt key nonce Channel.Message.accepted) =
        some .accepted := by
      rw [Channel.reading?, receive_accepted]
      rfl
    rw [Binding.take_of_reading hread]
    rfl
  have hstep : Binding.take key 1 (.act started.id true, started)
      (Channel.encrypt key nonce (Channel.Sample.step "A")) = (.act stepped.id true, stepped) := by
    have hread : Channel.reading? key 1 (Channel.encrypt key nonce (Channel.Sample.step "A")) =
        some (.step (Channel.Sample.step "A")) := by
      rw [Channel.reading?, receive_step]
      rfl
    rw [Binding.take_of_reading hread]
    rfl
  have hread : Channel.reading? key 1 (Channel.encrypt key nonce (Channel.Message.success "wool")) =
      some (.completion (.success "wool")) := by
    rw [Channel.reading?, receive_success]
    rfl
  rw [atOnce, Binding.handleAll, List.foldl_cons, List.foldl_cons, List.foldl_cons, List.foldl_nil,
    haccepted, hstep, Binding.take_of_reading hread]
  rfl

/-- The step comes in while the acceptance is waited for, together with the end of the act: it is
recorded, and the trace is empty. -/
theorem step_untraced :
    act.steps = [] ∧
      ∃ outcome r, dispatch (saying atOnce) (brief key 2) 1 act (.start (.new ())) =
          some (outcome, r) ∧
        r.act.steps = [recorded 1] ∧ (recorded 1).program = "return;" ∧ r.course.lines = [] := by
  have hcomplete : (Binding.handleAll key 1 (.act act.id true, act) atOnce).2.isComplete = true := by
    rw [handleAll_atOnce]
    rfl
  obtain ⟨r, hdispatch, hact, hlines⟩ :=
    dispatch_saying_completed key atOnce (rfl : act.request.timeout = none) (rfl : act.isAccepted = false)
      hcomplete
  refine ⟨rfl, _, r, hdispatch, ?_, rfl, hlines⟩
  rw [hact, handleAll_atOnce]

end Sample

end Dispatch.Extension

end BrowserAct
