import BrowserAct.Course.Until

/-!
# Waits with a deadline

A bounded run comes to an end if from some bound on it always gives the same answer. Where every step of
a repetition takes an interval of time or more and the test is answered once a deadline has come, the
repetition ends, and its last step began before the deadline.

* **`Finishes`** says that a bounded run comes to an end, and at which bound at the latest.
* **`repeatUntil_finishes`** is the wait.
-/

namespace BrowserAct.Course

variable {τ α : Type}

/-- With this bound and with every higher one, a run gives one answer and is left in one state, of which
something holds. -/
def Finishes (enough : Nat) (run : Nat → Option α × τ) (P : α → τ → Prop) : Prop :=
  ∃ answer last, P answer last ∧ ∀ fuel, enough ≤ fuel → run fuel = (some answer, last)

variable {test : τ → Option α} {step : τ → τ} {deadline interval : Nat}

/-- **A wait ends**: without a step, or with one that began while there was time left. The induction is on
the time that is left. -/
theorem repeatUntil_finishes (clock : τ → Nat) (positive : 0 < interval)
    (ticks : ∀ state, clock state + interval ≤ clock (step state))
    (answered : ∀ state, deadline ≤ clock state → test state ≠ none) (state : τ) :
    Finishes (deadline - clock state) (fun fuel => repeatUntil test step fuel state) fun _ last =>
      last = state ∨
        ∃ before, last = step before ∧ clock state ≤ clock before ∧ clock before < deadline := by
  cases htest : test state with
  | some answer => exact ⟨answer, state, .inl rfl, fun fuel _ => repeatUntil_of_some htest⟩
  | none =>
    -- the test has no answer yet, so the deadline is still ahead and the step comes closer to it
    have early : clock state < deadline :=
      Nat.lt_of_not_le fun late => answered state late htest
    have hticks := ticks state
    obtain ⟨answer, last, hlast, hsame⟩ := repeatUntil_finishes clock positive ticks answered (step state)
    refine ⟨answer, last, .inr ?_, fun fuel enough => ?_⟩
    · rcases hlast with rfl | ⟨before, hstep, later, inTime⟩
      · exact ⟨state, rfl, Nat.le_refl _, early⟩
      · exact ⟨before, hstep, by omega, inTime⟩
    · obtain ⟨fuel, rfl⟩ := Nat.exists_eq_add_one.mpr (show 0 < fuel by omega)
      dsimp only
      rw [repeatUntil, htest]
      exact hsame fuel (by omega)
termination_by deadline - clock state
decreasing_by omega

end BrowserAct.Course
