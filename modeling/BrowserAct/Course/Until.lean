/-!
# Repeating until there is an answer

A step is repeated until a test gives an answer. Nothing says that it ever will, so the number of
steps is bounded. Where the bound is reached there is no answer, and the state is the one that the
steps led to, so that what holds of it for every bound holds all along an endless run.

* **`test_repeatUntil`** says that the answer is that of the last state.
* **`repeatUntil_preserves`** says that what every step keeps is kept.
* **`repeatUntil_map`** says that two repetitions go alike where their steps and tests do.
-/

namespace BrowserAct.Course

variable {τ α : Type}

/-- Repeats a step, up to a number of times, until a test gives an answer: the answer, if there is one,
and the state that was reached. -/
def repeatUntil (test : τ → Option α) (step : τ → τ) : Nat → τ → Option α × τ
  | 0, state => (test state, state)
  | n + 1, state =>
    match test state with
    | some answer => (some answer, state)
    | none => repeatUntil test step n (step state)

variable {test : τ → Option α} {step : τ → τ}

/-- No step is made once there is an answer. -/
theorem repeatUntil_of_some {n : Nat} {state : τ} {answer : α} (h : test state = some answer) :
    repeatUntil test step n state = (some answer, state) := by
  cases n with
  | zero => rw [repeatUntil, h]
  | succ n => rw [repeatUntil, h]

/-- The answer, or that there is none, holds of the state it is given with. -/
theorem test_repeatUntil (n : Nat) (state : τ) :
    test (repeatUntil test step n state).2 = (repeatUntil test step n state).1 := by
  induction n generalizing state with
  | zero => rfl
  | succ n ih =>
    rw [repeatUntil]
    split
    · assumption
    · exact ih (step state)

/-- What every step keeps is kept. A step is made only where there is no answer yet. -/
theorem repeatUntil_preserves {P : τ → Prop}
    (keeps : ∀ state, test state = none → P state → P (step state)) (n : Nat) {state : τ}
    (holds : P state) : P (repeatUntil test step n state).2 := by
  induction n generalizing state with
  | zero => exact holds
  | succ n ih =>
    rw [repeatUntil]
    split
    · exact holds
    · next eq => exact ih (keeps state eq holds)

/-- Two repetitions go alike where the states of one are seen as states of the other: there the tests
agree, and the steps lead to states that are seen alike. -/
theorem repeatUntil_map {υ : Type} {test' : υ → Option α} {step' : υ → υ} (see : τ → υ)
    {P : τ → Prop} (tests : ∀ state, test' (see state) = test state)
    (steps : ∀ state, P state → step' (see state) = see (step state) ∧ P (step state)) (n : Nat)
    {state : τ} (holds : P state) :
    repeatUntil test' step' n (see state) =
        ((repeatUntil test step n state).1, see (repeatUntil test step n state).2) ∧
      P (repeatUntil test step n state).2 := by
  induction n generalizing state with
  | zero =>
    rw [repeatUntil, repeatUntil, tests]
    exact ⟨rfl, holds⟩
  | succ n ih =>
    rw [repeatUntil, repeatUntil, tests]
    cases test state with
    | some answer => exact ⟨rfl, holds⟩
    | none =>
      obtain ⟨hstep, hholds⟩ := steps state holds
      dsimp only
      rw [hstep]
      exact ih hholds

end BrowserAct.Course
