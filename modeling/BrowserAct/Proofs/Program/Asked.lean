import BrowserAct.Program.Interpreter

/-!
# What a program asks of an actuator

A program asks for its thought first and then for its action, and for nothing after a refusal. An actuator
can keep a record of what it is asked for and of what it answered, and then the record tells what a text
asks for, whatever the answers are.

* **`Actuator.recording`** is an actuator with such a record, and **`interpret_recording`** says that
  nothing else depends on it.
* **`Asks`** is what a program asks for, in order, and what comes of the answers.
* **`interpret_asks`** is about all texts, those that are no program included.
-/

namespace BrowserAct.Program

variable {σ : Type}

/-! ## The record -/

/-- What an actuator is asked for; an action with the answer to it. -/
inductive Asked where
  | perform (action : Action) (answer : Except Refusal Json)
  | start
  | stop

/-- A call of a method, with the action it is for and its answer in the record. -/
def noted (action : Action) (call : σ → Except Refusal Json × σ) (s : σ × List Asked) :
    Except Refusal Json × σ × List Asked :=
  let r := call s.1
  (r.1, r.2, s.2 ++ [.perform action r.1])

/-- The same actuator with a record of all that it is asked for, first to last. -/
def Actuator.recording (actuator : Actuator σ) : Actuator (σ × List Asked) where
  click box := noted (.click box) (actuator.click box)
  type value box pressEnter :=
    noted (.type value box pressEnter) (actuator.type value box pressEnter)
  scroll direction box := noted (.scroll direction box) (actuator.scroll direction box)
  goToUrl url := noted (.goToUrl url) (actuator.goToUrl url)
  think thought := noted (.think thought) (actuator.think thought)
  returns value := noted (.returns value) (actuator.returns value)
  throws message := noted (.throws message) (actuator.throws message)
  domain := actuator.domain
  started := actuator.started
  start s :=
    let r := actuator.start s.1
    (r.1, r.2, s.2 ++ [.start])
  stop s :=
    let r := actuator.stop s.1
    (r.1, r.2, s.2 ++ [.stop])

/-- A result without the record. -/
def forget {α : Type} (result : α × σ × List Asked) : α × σ :=
  (result.1, result.2.1)

/-- Whichever method an action calls, it is noted with that action. -/
theorem perform_recording (actuator : Actuator σ) (action : Action) (s : σ × List Asked) :
    actuator.recording.perform action s =
      ((actuator.perform action s.1).1, (actuator.perform action s.1).2,
        s.2 ++ [.perform action (actuator.perform action s.1).1]) := by
  cases action <;> rfl

/-- What the answer to an action, or the refusal of it, makes of a program. -/
def Interpretation.ofResult (action : Action) : Except Refusal Json → Interpretation
  | .ok value => .ofAnswer action value
  | .error refusal => .ofRefusal refusal

/-- An action is interpreted by its answer. -/
theorem runAction_eq (actuator : Actuator σ) (action : Action) (s : σ) :
    runAction actuator action s =
      (.ofResult action (actuator.perform action s).1, (actuator.perform action s).2) := by
  unfold runAction
  rcases actuator.perform action s with ⟨answer, after⟩
  cases answer <;> rfl

/-- The action comes only after a thought that was not refused. -/
theorem run_thinking (actuator : Actuator σ) (thought : String) (action : Action) (s : σ) :
    run actuator ⟨some thought, action⟩ s =
      match (actuator.perform (.think thought) s).1 with
      | .ok _ => runAction actuator action (actuator.perform (.think thought) s).2
      | .error refusal => (.ofRefusal refusal, (actuator.perform (.think thought) s).2) := by
  have hmethod : actuator.perform (.think thought) = actuator.think thought := rfl
  rw [run, hmethod]
  dsimp only
  rcases actuator.think thought s with ⟨answer, after⟩
  cases answer <;> rfl

theorem run_recording (actuator : Actuator σ) (program : Program) (s : σ × List Asked) :
    forget (run actuator.recording program s) = run actuator program s.1 := by
  obtain ⟨thought, action⟩ := program
  cases thought with
  | none =>
    show forget (runAction actuator.recording action s) = runAction actuator action s.1
    rw [runAction_eq, runAction_eq, perform_recording]
    rfl
  | some thought =>
    rw [run_thinking, run_thinking, perform_recording]
    dsimp only
    -- a thought that is refused ends the program in both
    cases (actuator.perform (.think thought) s.1).1 with
    | error refusal => rfl
    | ok value =>
      dsimp only
      rw [runAction_eq, runAction_eq, perform_recording]
      rfl

theorem interpret_of_error {source : String} {cause : ParseError}
    (unread : parse source = .error cause) (actuator : Actuator σ) (s : σ) :
    interpret actuator source s = (.error cause, s) := by
  unfold interpret
  rw [unread]

theorem interpret_of_ok {source : String} {program : Program} (reads : parse source = .ok program)
    (actuator : Actuator σ) (s : σ) :
    interpret actuator source s = (.ok (run actuator program s).1, (run actuator program s).2) := by
  unfold interpret
  rw [reads]

/-- The record does not change what comes of a text. -/
theorem interpret_recording (actuator : Actuator σ) (source : String) (s : σ × List Asked) :
    forget (interpret actuator.recording source s) = interpret actuator source s.1 := by
  cases hparse : parse source with
  | error cause =>
    rw [interpret_of_error hparse, interpret_of_error hparse]
    rfl
  | ok program =>
    rw [interpret_of_ok hparse, interpret_of_ok hparse, ← run_recording actuator program s]
    rfl

/-! ## What is asked for -/

/-- The answer to the last action that was asked for. -/
def lastAnswer? (asked : List Asked) : Option (Except Refusal Json) :=
  match asked.getLast? with
  | some (.perform _ answer) => some answer
  | _ => none

/-- What a program asks for: its action, or its thought and then, unless that is refused, its action. -/
inductive InOrder : Program → List Asked → Prop
  | action (action : Action) (answer : Except Refusal Json) :
      InOrder ⟨none, action⟩ [.perform action answer]
  | refused (thought : String) (action : Action) (refusal : Refusal) :
      InOrder ⟨some thought, action⟩ [.perform (.think thought) (.error refusal)]
  | thinking (thought : String) (action : Action) (value : Json) (answer : Except Refusal Json) :
      InOrder ⟨some thought, action⟩ [.perform (.think thought) (.ok value), .perform action answer]

/-- What comes of a program whose action is answered with a value. -/
def Follows (action : Action) (value : Json) (interpretation : Interpretation) : Prop :=
  match action with
  | .returns _ => interpretation = .done value
  | .throws message => interpretation = .failed (.agent message)
  | .click _ | .type _ _ _ | .scroll _ _ | .goToUrl _ | .think _ => interpretation = .continue

/-- What a program asks for, and what comes of the answers. -/
structure Asks (program : Program) (asked : List Asked) (interpretation : Interpretation) : Prop where
  inOrder : InOrder program asked
  redirected : ∀ message, interpretation = .redirect message ↔
    lastAnswer? asked = some (.error (.redirect message))
  actuationFailed : ∀ message, interpretation = .failed (.actuation message) ↔
    lastAnswer? asked = some (.error (.failed message))
  /-- Where nothing is refused the last answer is that to the action. -/
  answered : (∀ action refusal, Asked.perform action (.error refusal) ∉ asked) →
    ∃ value, lastAnswer? asked = some (.ok value) ∧ Follows program.action value interpretation

/-- A value never reads as a refusal. -/
theorem ofAnswer_ne_refusal (action : Action) (value : Json) (refusal : Refusal) :
    Interpretation.ofAnswer action value ≠ .ofRefusal refusal := by
  cases refusal <;> cases action <;> simp [Interpretation.ofAnswer, Interpretation.ofRefusal]

/-- Different refusals are interpreted differently. -/
theorem ofRefusal_inj {refusal refusal' : Refusal}
    (same : Interpretation.ofRefusal refusal = .ofRefusal refusal') : refusal = refusal' := by
  cases refusal <;> cases refusal' <;> simp_all [Interpretation.ofRefusal]

/-- A program comes to what a refusal stands for exactly if that was the answer. -/
theorem ofResult_eq_ofRefusal_iff {action : Action} {answer : Except Refusal Json}
    (refusal : Refusal) :
    Interpretation.ofResult action answer = .ofRefusal refusal ↔ answer = .error refusal := by
  constructor
  · intro same
    cases answer with
    | ok value => exact absurd same (ofAnswer_ne_refusal action value refusal)
    | error other => rw [ofRefusal_inj same]
  · intro refused
    rw [refused]
    rfl

/-- An answer is interpreted as its action wants it. -/
theorem follows_ofAnswer (action : Action) (value : Json) :
    Follows action value (.ofAnswer action value) := by
  unfold Follows
  cases action <;> rfl

/-- The last answer was asked for. -/
theorem exists_mem_of_lastAnswer? {asked : List Asked} {answer : Except Refusal Json}
    (last : lastAnswer? asked = some answer) : ∃ action, Asked.perform action answer ∈ asked := by
  unfold lastAnswer? at last
  split at last
  · rename_i action answer' hlast
    cases last
    exact ⟨action, List.mem_of_getLast? hlast⟩
  · cases last

/-- **The last answer decides.** -/
theorem asks_of_last {program : Program} {asked : List Asked} {answer : Except Refusal Json}
    (inOrder : InOrder program asked) (last : lastAnswer? asked = some answer) :
    Asks program asked (.ofResult program.action answer) where
  inOrder := inOrder
  redirected message := by
    rw [last, Option.some.injEq]
    exact ofResult_eq_ofRefusal_iff (.redirect message)
  actuationFailed message := by
    rw [last, Option.some.injEq]
    exact ofResult_eq_ofRefusal_iff (.failed message)
  -- the answer that came last belongs to the action, as none was refused
  answered noRefusal := by
    cases answer with
    | error refusal =>
      obtain ⟨action, hmem⟩ := exists_mem_of_lastAnswer? last
      exact absurd hmem (noRefusal action refusal)
    | ok value => exact ⟨value, last, follows_ofAnswer program.action value⟩

/-- A program that is run with an empty record. -/
theorem run_asks (actuator : Actuator σ) (program : Program) (s : σ) :
    Asks program (run actuator.recording program (s, [])).2.2
      (run actuator.recording program (s, [])).1 := by
  obtain ⟨thought, action⟩ := program
  cases thought with
  | none =>
    have hrun : run actuator.recording ⟨none, action⟩ (s, []) =
        runAction actuator.recording action (s, []) := rfl
    rw [hrun, runAction_eq, perform_recording]
    exact asks_of_last (.action action _) rfl
  | some thought =>
    rw [run_thinking, perform_recording]
    dsimp only
    -- the answer to the thought decides whether anything more is asked for
    cases (actuator.perform (.think thought) s).1 with
    | error refusal => exact asks_of_last (.refused thought action refusal) rfl
    | ok value =>
      dsimp only
      rw [runAction_eq, perform_recording]
      exact asks_of_last (.thinking thought action value _) rfl

/-- **What a text asks for.** A text that is no program asks for nothing and changes nothing. A program
asks for its thought and then for its action, and what comes of it is what the last answer says. -/
theorem interpret_asks (actuator : Actuator σ) (source : String) (s : σ) :
    let (outcome, after, asked) := interpret actuator.recording source (s, [])
    interpret actuator source s = (outcome, after) ∧
      match parse source with
      | .error cause => outcome = .error cause ∧ asked = [] ∧ after = s
      | .ok program => ∃ interpretation, outcome = .ok interpretation ∧
          Asks program asked interpretation := by
  have hsame := interpret_recording actuator source (s, [])
  cases hparse : parse source with
  | error cause =>
    rw [interpret_of_error hparse] at hsame ⊢
    exact ⟨hsame.symm, rfl, rfl, rfl⟩
  | ok program =>
    rw [interpret_of_ok hparse] at hsame ⊢
    exact ⟨hsame.symm, _, rfl, run_asks actuator program s⟩

end BrowserAct.Program
