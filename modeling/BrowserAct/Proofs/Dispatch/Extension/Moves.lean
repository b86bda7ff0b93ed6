import BrowserAct.Proofs.Dispatch.Extension.FirstPoll

/-!
# The moves of a run

While an act is bound, a run is made of a few moves, which follow one another as the act and the clock
demand. What each move keeps, the run keeps.

* **`Move`** is one move, **`Moves`** are some, one after the other.
* **`moves_follow`** is following an act, **`moves_runBound`** all that is done while it is bound.
-/

namespace BrowserAct.Dispatch.Extension

variable {σ : Type} {surface : Surface σ} {settings : Settings}

/-- One move of a run. An act is changed on this side only when its time is used up. -/
inductive Move (surface : Surface σ) (settings : Settings) : Run σ → Run σ → Prop where
  | poll (r : Run σ) : Move surface settings r (poll surface settings r)
  | post (r : Run σ) (message : Json) :
      Move surface settings r { r with course := post surface settings message r.course }
  | pause (r : Run σ) (duration : Duration) :
      Move surface settings r { r with course := r.course.advance duration }
  | trace (r : Run σ) (lines : List String) :
      Move surface settings r { r with course := r.course.trace lines }
  | hear (r : Run σ) : Move surface settings r { r with course := r.course.resetCancel }
  /-- The act is marked and its cancellation posted at one moment. -/
  | expire {r : Run σ} (isOpen : r.act.isComplete = false)
      (past : r.act.isPastDeadline r.course.now = true) :
      Move surface settings r ⟨r.act.perform .markTimedOut r.course.now,
        Extension.post surface settings Channel.Message.cancel r.course⟩
  | fail {r : Run σ} (isOpen : r.act.isComplete = false) :
      Move surface settings r
        { r with act := r.act.perform (.fail timeOutPayload) r.course.now }

/-- Some moves, one after the other. -/
inductive Moves (surface : Surface σ) (settings : Settings) : Run σ → Run σ → Prop where
  | refl (r : Run σ) : Moves surface settings r r
  | step {r r' r'' : Run σ} (before : Moves surface settings r r')
      (move : Move surface settings r' r'') : Moves surface settings r r''

namespace Moves

theorem single {r r' : Run σ} (move : Move surface settings r r') : Moves surface settings r r' :=
  .step (.refl r) move

theorem trans {r r' r'' : Run σ} (first : Moves surface settings r r')
    (second : Moves surface settings r' r'') : Moves surface settings r r'' := by
  induction second with
  | refl => exact first
  | step _ move ih => exact .step ih move

/-- What each move keeps is kept. -/
theorem preserves {P : Run σ → Prop} {r r' : Run σ} (moves : Moves surface settings r r')
    (keeps : ∀ r r', Move surface settings r r' → P r → P r') (holds : P r) : P r' := by
  induction moves with
  | refl => exact holds
  | step _ move ih => exact keeps _ _ move ih

end Moves

/-! ## Waiting -/

/-- A wait does nothing but poll. -/
theorem moves_repeatUntil {α : Type} (test : Run σ → Option α) (fuel : Nat) (r : Run σ) :
    Moves surface settings r (Course.repeatUntil test (poll surface settings) fuel r).2 :=
  Course.repeatUntil_preserves (P := Moves surface settings r)
    (fun s _ before => before.step (.poll s)) fuel (.refl r)

/-- A prompt with its wait. -/
theorem moves_attempt (surface : Surface σ) (settings : Settings) (fuel : Nat) (r : Run σ) :
    Moves surface settings r (attempt surface settings fuel r).2 := by
  rw [attempt]
  generalize (postPrompt surface settings r).course.now + acceptanceTime settings _ _ = deadline
  have hwait : Moves surface settings r
      (untilAccepted surface settings fuel deadline (postPrompt surface settings r)).2 :=
    (Moves.single (.post r _)).trans (moves_repeatUntil _ fuel _)
  generalize untilAccepted surface settings fuel deadline _ = waited at hwait ⊢
  obtain ⟨_ | accepted, last⟩ := waited <;> exact hwait

/-- All prompts, with the pauses between them. -/
theorem moves_attempts (surface : Surface σ) (settings : Settings) (fuel n : Nat)
    (r : Run σ) :
    Moves surface settings r (attempts surface settings fuel n r).2 := by
  induction n generalizing r with
  | zero => exact .refl r
  | succ n ih =>
    have hattempt := moves_attempt surface settings fuel r
    rw [attempts]
    split
    · rename_i last heq
      rw [heq] at hattempt
      split
      · exact hattempt
      · exact (hattempt.step (.pause last settings.timings.retryDelay)).trans (ih _)
    · exact hattempt

theorem moves_cancelAndWait (fuel : Nat) (r : Run σ) :
    Moves surface settings r (cancelAndWait surface settings fuel r).2 :=
  (Moves.single (.post r _)).trans (moves_repeatUntil _ fuel _)

/-- What the wait for a confirmation says of the act is so when it ends. -/
theorem isComplete_cancelAndWait {fuel : Nat} {r r' : Run σ} {confirmed : Bool}
    (waited : cancelAndWait surface settings fuel r = (some confirmed, r')) :
    r'.act.isComplete = confirmed := by
  rw [cancelAndWait] at waited
  dsimp only at waited
  generalize hdeadline : (post surface settings Channel.Message.cancel r.course).now +
    settings.timings.ackTimeout = deadline at waited
  rw [untilComplete] at waited
  have htest := congrArg Prod.fst waited
  rw [← Course.test_repeatUntil, waited] at htest
  dsimp only at htest
  -- the wait answers with whether the act is complete, or at its deadline with no
  split at htest
  · rename_i hcomplete
    rw [hcomplete, Option.some.inj htest]
  · rename_i hopen
    split at htest
    · rw [← Option.some.inj htest]
      exact Bool.eq_false_iff.mpr hopen
    · cases htest

/-! ## Following an act -/

/-- An act that is open refuses no change. -/
theorem change_of_open {r : Run σ} (isOpen : r.act.isComplete = false) (operation : Act.Operation) :
    r.change operation = (none, { r with act := r.act.perform operation r.course.now }) := by
  rw [Run.change, Act.apply_of_open isOpen]

/-- The end at the deadline of the act. -/
theorem moves_timeOut (fuel : Nat) {r : Run σ} (isOpen : r.act.isComplete = false)
    (past : r.act.isPastDeadline r.course.now = true) :
    Moves surface settings r (timeOut surface settings fuel r).2 := by
  rw [timeOut, change_of_open isOpen]
  dsimp only
  have hwait : Moves surface settings r (cancelAndWait surface settings fuel
      { r with act := r.act.perform .markTimedOut r.course.now }).2 :=
    (Moves.single (.expire isOpen past)).trans (moves_repeatUntil _ fuel _)
  split
  · rename_i last heq
    rw [heq] at hwait
    exact hwait
  · rename_i last heq
    rw [heq] at hwait
    exact hwait
  · rename_i last heq
    rw [heq] at hwait
    -- no confirmation came in time, so the act is still open and can be failed
    have hopen := isComplete_cancelAndWait heq
    rw [change_of_open hopen]
    exact hwait.step (.fail hopen)

/-- The request to cancel is heard, and its line is traced. -/
theorem moves_hearCancel (r : Run σ) : Moves surface settings r (hearCancel settings r) :=
  .step (.single (.hear r)) (.trace _ _)

/-- An act that is complete is followed no further. -/
theorem follow_of_complete (surface : Surface σ) {r : Run σ} (complete : r.act.isComplete = true)
    (waitFuel : Nat) {rounds : Nat} (positive : 0 < rounds) (observed : Nat) :
    follow surface settings waitFuel rounds observed r = (some none, r) := by
  obtain ⟨rounds, rfl⟩ := Nat.exists_eq_add_one.mpr positive
  rw [follow, if_pos complete]

/-- It stays where it is, with any number of rounds. -/
theorem follow_snd_of_complete (surface : Surface σ) {r : Run σ}
    (complete : r.act.isComplete = true) (waitFuel rounds observed : Nat) :
    (follow surface settings waitFuel rounds observed r).2 = r := by
  cases rounds with
  | zero => rfl
  | succ rounds => rw [follow_of_complete surface complete waitFuel (Nat.succ_pos rounds)]

/-- Following an act. The induction is on the number of rounds. -/
theorem moves_follow (waitFuel n observed : Nat) (r : Run σ) :
    Moves surface settings r (follow surface settings waitFuel n observed r).2 := by
  induction n generalizing observed r with
  | zero => exact .refl r
  | succ n ih =>
    rw [follow]
    split
    · exact .refl r
    rename_i hopen
    split
    · rename_i hpast
      exact moves_timeOut waitFuel (Bool.eq_false_iff.mpr hopen) hpast
    dsimp only
    have hpolled : Moves surface settings r
        (traceSteps settings observed (poll surface settings r)) :=
      .step (.single (.poll r)) (.trace _ _)
    generalize traceSteps settings observed (poll surface settings r) = polled at hpolled ⊢
    split
    · have hwait := (hpolled.trans (moves_hearCancel polled)).trans
        (moves_cancelAndWait waitFuel (hearCancel settings polled))
      split
      · rename_i heq
        rw [heq] at hwait
        exact hwait
      · rename_i heq
        rw [heq] at hwait
        exact hwait
      -- confirmed: the act is looked at again from the state after the wait
      · rename_i last heq
        rw [heq] at hwait
        exact hwait.trans (ih _ last)
    · exact hpolled.trans (ih _ polled)

/-- All that is done while an act is bound. -/
theorem moves_runBound (surface : Surface σ) (settings : Settings) (fuel : Nat) (r : Run σ) :
    Moves surface settings r (runBound surface settings fuel r).2 := by
  have hprompts := moves_attempts surface settings fuel (tries settings) r
  rw [runBound]
  split
  · rename_i heq
    rw [heq] at hprompts
    exact hprompts
  · rename_i heq
    rw [heq] at hprompts
    exact hprompts
  · rename_i last heq
    rw [heq] at hprompts
    exact hprompts.trans (moves_follow fuel fuel 0 last)

end BrowserAct.Dispatch.Extension
