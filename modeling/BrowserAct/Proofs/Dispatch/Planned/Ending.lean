import BrowserAct.Dispatch.Planned
import BrowserAct.Proofs.Course.Observer

/-!
# How an act that is dispatched by planning ends

Every way out of the rounds goes through an operation that completes the act, except one: where the
record that came with a program makes no step, the round is over at once and the act stays open.

* **`Left`** says how a run is left, given the answers of the planner.
* **`round_leaves`** is one round, **`rounds_left`** all of them.
* **`dispatch_completes_iff`** says that the act is complete and its outcome returned exactly when
  every record makes a step.
-/

namespace BrowserAct.Program

variable {σ : Type}

/-- What every action of an actuator preserves is preserved by running a program. -/
theorem run_preserves {actuator : Actuator σ} {P : σ → Prop}
    (step : ∀ action s, P s → P (actuator.perform action s).2) (program : Program) {s : σ}
    (holds : P s) : P (run actuator program s).2 := by
  have action (action : Action) {s : σ} (holds : P s) : P (runAction actuator action s).2 := by
    have kept := step action s holds
    rw [runAction]
    split <;> rename_i eq <;> rw [eq] at kept <;> exact kept
  rw [run]
  split
  · exact action _ holds
  · rename_i thought _
    have kept : P (actuator.think thought s).2 := step (.think thought) s holds
    split <;> rename_i eq <;> rw [eq] at kept
    · exact action _ kept
    · exact kept

/-- The same for the text of a program. -/
theorem interpret_preserves {actuator : Actuator σ} {P : σ → Prop}
    (step : ∀ action s, P s → P (actuator.perform action s).2) (source : String) {s : σ}
    (holds : P s) : P (interpret actuator source s).2 := by
  rw [interpret]
  split
  · exact holds
  · exact run_preserves step _ holds

end BrowserAct.Program

namespace BrowserAct.Dispatch.Planned

open Act (StateError)
open Course (Observer)
open Program (Refusal)

variable {σ : Type}

/-! ## The answers of the planner -/

/-- What the planner answers. -/
abbrev Answered := Except Planner.Error Planner.Answer

/-- Looks for the answers of the planner. -/
def answers : Observer Answered where
  observe
    | .answered answer => some answer
    | _ => none
  observe_cancelRequested := rfl
  observe_traced _ := rfl

/-- An answer that is a program comes with a record that makes a step. -/
def Recordable (now : Moment) (answer : Answered) : Prop :=
  ∀ source record, answer = .ok (.program source record) →
    ∃ step, Act.Step.ofMessage record now = .ok step

/-- Every answer that is a program comes with a record that makes a step. -/
def AllRecordable (given : List (Moment × Answered)) : Prop :=
  ∀ answer ∈ given, Recordable answer.1 answer.2

theorem allRecordable_nil : AllRecordable [] :=
  List.forall_mem_nil _

/-- Answers are recordable in two parts where they are in both. -/
theorem allRecordable_append {later earlier : List (Moment × Answered)} :
    AllRecordable (later ++ earlier) ↔ AllRecordable later ∧ AllRecordable earlier :=
  List.forall_mem_append

/-- An answer that is no program has no record to fail on. -/
theorem allRecordable_of_no_program {now : Moment} {answer : Answered}
    (noProgram : ∀ source record, answer ≠ .ok (.program source record)) :
    AllRecordable [(now, answer)] := by
  intro entry hentry source record hgiven
  rw [List.mem_singleton] at hentry
  subst hentry
  exact absurd hgiven (noProgram source record)

/-- How a run is left, given the answers of the planner since it began: with a complete act, or open
because the record of the last answer makes no step. -/
def Left (given : List (Moment × Answered)) : Option StateError → Act → Prop
  | none, act => act.isComplete = true ∧ AllRecordable given
  | some cause, act =>
    act.isComplete = false ∧
      ∃ now source record older, given = (now, .ok (.program source record)) :: older ∧
        Act.Step.ofMessage record now = .error cause

/-! ## What the moves of a round add -/

/-- No action of the actuator is an answer of the planner. -/
theorem seen_perform (site : Site σ) (action : Program.Action) (c : Course σ) :
    ((actuator site).perform action c).2.seen answers = c.seen answers := by
  rw [perform_actuator, acting]
  show (((c.log (.acting action)).await _).2.log (.acted _)).seen answers = _
  rw [Course.seen_log_of_none answers rfl, Course.seen_await, Course.seen_log_of_none answers rfl]

/-- A program that is run receives no answers of the planner. -/
theorem seen_interpret (site : Site σ) (source : String) (c : Course σ) :
    (Program.interpret (actuator site) source c).2.seen answers = c.seen answers :=
  Program.interpret_preserves (fun action d same => (seen_perform site action d).trans same) source
    (P := fun d => d.seen answers = c.seen answers) rfl

theorem seen_observe (site : Site σ) (settings : Settings) (deadline : Option Moment)
    (c : Course σ) : (observe site settings deadline c).2.seen answers = c.seen answers := by
  have settling : (c.log (.settling (settleOptions settings.settleTimeout))).seen answers =
      c.seen answers := Course.seen_log_of_none answers rfl c
  rw [observe]
  dsimp only
  split <;> rename_i waited
  · exact (Course.seen_of_awaitUntil answers waited).trans settling
  · rw [Course.seen_log_of_none answers rfl]
    exact (Course.seen_of_awaitUntil answers waited).trans settling
  · rename_i value settled
    have observing : ((settled.log (.settled (.ok value))).log .observing).seen answers =
        c.seen answers := by
      rw [Course.seen_log_of_none answers rfl, Course.seen_log_of_none answers rfl]
      exact (Course.seen_of_awaitUntil answers waited).trans settling
    -- the look is logged without an answer of the planner, cut short or not
    split <;> rename_i watched
    · exact (Course.seen_of_awaitUntil answers watched).trans observing
    · rw [Course.seen_log_of_none answers rfl]
      exact (Course.seen_of_awaitUntil answers watched).trans observing

/-- Asking for a program adds the answer of the planner, if there is one. Without one there is no
program to go on with. -/
theorem seen_plan (site : Site σ) (settings : Settings) (isInitial : Bool)
    (refusal : Option Refusal) (r : Run σ) {answer : Option Planner.Answer} {c : Course σ}
    (planned : plan site settings isInitial refusal r = (answer, c)) :
    (c.seen answers = r.course.seen answers ∧
        (answer = none ∨ ∃ payload, answer = some (.failed payload))) ∨
      ∃ given, answer = some (answerOf given) ∧
        c.seen answers = (c.now, given) :: r.course.seen answers := by
  have observing := seen_observe site settings r.act.deadline r.course
  rw [plan] at planned
  split at planned <;> rename_i observed <;> rw [observed] at observing
  -- cut short before the planner was asked
  · cases planned
    exact Or.inl ⟨observing, Or.inl rfl⟩
  -- the page could not be observed
  · cases planned
    exact Or.inl ⟨observing, Or.inr ⟨_, rfl⟩⟩
  · dsimp only at planned
    split at planned
    · rename_i asked
      cases planned
      refine Or.inl ⟨?_, Or.inl rfl⟩
      rw [Course.seen_of_awaitUntil answers asked, Course.seen_log_of_none answers rfl,
        Course.seen_trace, observing]
    -- the planner answered, and the answer is the last thing that was logged
    · rename_i given after asked
      cases planned
      refine Or.inr ⟨given, rfl, ?_⟩
      rw [Course.seen_log_of_some answers rfl, Course.seen_of_awaitUntil answers asked,
        Course.seen_log_of_none answers rfl, Course.seen_trace, observing]
      rfl

/-! ## One round -/

/-- How a round is left: the next one follows on an open act, or the run is left here. -/
def Round.Leaves (given : List (Moment × Answered)) : Round σ → Prop
  | .next _ r => r.act.isComplete = false ∧ AllRecordable given
  | .over error r => Left given error r.act

/-- The course after a round. -/
def Round.course : Round σ → Course σ
  | .next _ r => r.course
  | .over _ r => r.course

/-- A change of an open act is carried out. -/
theorem change_eq {r : Run σ} (isOpen : r.act.isComplete = false) (operation : Act.Operation) :
    r.change operation = .ok { r with act := r.act.perform operation r.course.now } := by
  rw [Run.change, Act.apply_of_open isOpen]
  rfl

/-- An open act that is changed by an operation that ends it is complete. -/
theorem last_leaves {r : Run σ} (isOpen : r.act.isComplete = false) (operation : Act.Operation)
    (ends : operation.ending?.isSome = true) {given : List (Moment × Answered)}
    (recordable : AllRecordable given) :
    (Round.last r operation).course = r.course ∧ (Round.last r operation).Leaves given := by
  have hlast : Round.last r operation =
      .over none { r with act := r.act.perform operation r.course.now } := by
    rw [Round.last, change_eq isOpen]
  rw [hlast]
  refine ⟨rfl, ?_, recordable⟩
  -- only the operations that end an act are meant, and each of them gives it a result
  cases operation with
  | acknowledge => cases ends
  | addStep => cases ends
  | markTimedOut => cases ends
  | complete => rfl
  | cancel => rfl
  | fail => rfl

/-- An act that ran out of time is complete in the end. -/
theorem timeOut_leaves {r : Run σ} (isOpen : r.act.isComplete = false) :
    (timeOut r).course = r.course ∧ (timeOut r).Leaves [] := by
  rw [timeOut, change_eq isOpen]
  -- Marking the act leaves it open, so that it can be failed.
  have hmarked : (r.act.perform .markTimedOut r.course.now).isComplete = false := isOpen
  exact last_leaves (r := { r with act := r.act.perform .markTimedOut r.course.now }) hmarked
    (.fail timeOutPayload) rfl allRecordable_nil

/-- A program that was run ends the act or leaves it as it is. -/
theorem runProgram_leaves (site : Site σ) (source : String) {r : Run σ}
    (isOpen : r.act.isComplete = false) {given : List (Moment × Answered)}
    (recordable : AllRecordable given) :
    (runProgram site source r).course.seen answers = r.course.seen answers ∧
      (runProgram site source r).Leaves given := by
  have hseen := seen_interpret site source r.course
  rw [runProgram]
  rcases hran : Program.interpret (actuator site) source r.course with ⟨result, course⟩
  rw [hran] at hseen
  have hlast (operation : Act.Operation) (ends : operation.ending?.isSome = true) :
      (Round.last { r with course } operation).course.seen answers = r.course.seen answers ∧
        (Round.last { r with course } operation).Leaves given := by
    obtain ⟨hcourse, hleaves⟩ :=
      last_leaves (r := { r with course }) isOpen operation ends recordable
    exact ⟨(congrArg (Course.seen answers) hcourse).trans hseen, hleaves⟩
  -- all but two outcomes of a program end the act
  rcases result with refused | outcome
  · exact hlast _ rfl
  · cases outcome with
    | «continue» => exact ⟨hseen, isOpen, recordable⟩
    | redirect message => exact ⟨hseen, isOpen, recordable⟩
    | done value => exact hlast _ rfl
    | failed fault => exact hlast _ rfl

/-- An open act takes in every record that makes a step, and the step is logged. -/
theorem record_eq {r : Run σ} (isOpen : r.act.isComplete = false) (message : Json) :
    record r message = (Act.Step.ofMessage message r.course.now).map fun step =>
      { act := r.act.perform (.addStep step) r.course.now
        course := r.course.log (.stepped step) } := by
  rw [record]
  cases hstep : Act.Step.ofMessage message r.course.now with
  | error cause => rfl
  | ok step =>
    show (r.change (.addStep step)).bind _ = _
    rw [change_eq isOpen]
    rfl

/-- Going on with an answer that was just given. Where its record makes no step, the act stays open
and the cause is handed on. -/
theorem execute_leaves (site : Site σ) (settings : Settings) (answer : Answered) {r : Run σ}
    (isOpen : r.act.isComplete = false) :
    (execute site settings (answerOf answer) r).course.seen answers = r.course.seen answers ∧
      (execute site settings (answerOf answer) r).Leaves [(r.course.now, answer)] := by
  have hfailed (payload : Json)
      (noProgram : ∀ source record, answer ≠ .ok (.program source record)) :
      (Round.last r (.fail payload)).course.seen answers = r.course.seen answers ∧
        (Round.last r (.fail payload)).Leaves [(r.course.now, answer)] := by
    have hrecordable : AllRecordable [(r.course.now, answer)] :=
      allRecordable_of_no_program noProgram
    obtain ⟨hcourse, hleaves⟩ := last_leaves isOpen (.fail payload) rfl hrecordable
    exact ⟨congrArg (Course.seen answers) hcourse, hleaves⟩
  rcases answer with e | ⟨source, message⟩ | payload
  · exact hfailed _ (by simp)
  · show (execute site settings (.program source message) r).course.seen answers = _ ∧
      (execute site settings (.program source message) r).Leaves _
    rw [execute]
    generalize htraced : r.course.trace (settings.trace.programLines source) = traced
    have hnow : traced.now = r.course.now := by
      rw [← htraced, Course.trace_now]
    have hseen : traced.seen answers = r.course.seen answers := by
      rw [← htraced, Course.seen_trace]
    rw [record_eq (r := { r with course := traced }) isOpen]
    dsimp only
    rw [hnow]
    -- this is the one way out on which the act is not ended
    cases hstep : Act.Step.ofMessage message r.course.now with
    | error cause => exact ⟨hseen, isOpen, _, source, message, [], rfl, hstep⟩
    | ok step =>
      have hadded : (r.act.perform (.addStep step) r.course.now).isComplete = false := isOpen
      have hrecordable : AllRecordable [(r.course.now, .ok (.program source message))] := by
        intro entry hentry source' record' hgiven
        rw [List.mem_singleton] at hentry
        subst hentry
        cases hgiven
        exact ⟨step, hstep⟩
      obtain ⟨hrun, hleaves⟩ := runProgram_leaves site source
        (r := ⟨r.act.perform (.addStep step) r.course.now, traced.log (.stepped step)⟩)
        hadded hrecordable
      refine ⟨hrun.trans ?_, hleaves⟩
      rw [← hseen]
      exact Course.seen_log_of_none answers rfl traced
  · exact hfailed _ (by simp)

/-- **One round.** It adds the answer of the planner to what was seen, if there is one, and is left
accordingly. -/
theorem round_leaves (site : Site σ) (settings : Settings) (isInitial : Bool)
    (refusal : Option Refusal) {r : Run σ} (isOpen : r.act.isComplete = false) :
    ∃ given, (round site settings isInitial refusal r).course.seen answers =
        given ++ r.course.seen answers ∧
      (round site settings isInitial refusal r).Leaves given := by
  have quiet {next : Round σ} {course : Course σ} (hcourse : next.course = course)
      (hseen : course.seen answers = r.course.seen answers) (hleaves : next.Leaves []) :
      ∃ given, next.course.seen answers = given ++ r.course.seen answers ∧ next.Leaves given :=
    ⟨[], hcourse ▸ hseen, hleaves⟩
  rw [round]
  split
  -- out of time before anything was asked
  · obtain ⟨hcourse, hleaves⟩ := timeOut_leaves isOpen
    exact quiet hcourse rfl hleaves
  · split
    -- canceled between two rounds
    · let line := settings.trace.line "Terminating agent workflow"
      obtain ⟨hcourse, hleaves⟩ :=
        last_leaves (r := { r with course := r.course.resetCancel.trace [line] }) isOpen .cancel rfl
          allRecordable_nil
      refine quiet hcourse ?_ hleaves
      rw [Course.seen_trace, Course.seen_resetCancel]
    · rcases hplan : plan site settings isInitial refusal r with ⟨answer, course⟩
      rcases seen_plan site settings isInitial refusal r hplan with
        ⟨hseen, rfl | ⟨payload, rfl⟩⟩ | ⟨given, rfl, hseen⟩
      · obtain ⟨hcourse, hleaves⟩ := timeOut_leaves (r := { r with course }) isOpen
        exact quiet hcourse hseen hleaves
      · obtain ⟨hcourse, hleaves⟩ :=
          last_leaves (r := { r with course }) isOpen (.fail payload) rfl allRecordable_nil
        exact quiet hcourse hseen hleaves
      · obtain ⟨hkept, hleaves⟩ :=
          execute_leaves site settings given (r := { r with course }) isOpen
        exact ⟨[(course.now, given)], hkept.trans hseen, hleaves⟩

/-! ## The whole run -/

/-- An act that is still open once the steps are used up is failed. -/
theorem exhaust_left {r : Run σ} (isOpen : r.act.isComplete = false) :
    (exhaust r).2.course = r.course ∧ Left [] (exhaust r).1 (exhaust r).2.act := by
  rw [exhaust, change_eq isOpen, if_neg (by rw [isOpen]; exact Bool.false_ne_true)]
  exact ⟨rfl, rfl, allRecordable_nil⟩

/-- What was answered before a run adds to how it is left. -/
theorem Left.append {later earlier : List (Moment × Answered)} {error : Option StateError}
    {act : Act} (left : Left later error act) (recordable : AllRecordable earlier) :
    Left (later ++ earlier) error act := by
  cases error with
  | none =>
    obtain ⟨hcomplete, hlater⟩ := left
    exact ⟨hcomplete, allRecordable_append.mpr ⟨hlater, recordable⟩⟩
  | some cause =>
    obtain ⟨isOpen, now, source, record, older, rfl, hrefused⟩ := left
    exact ⟨isOpen, now, source, record, older ++ earlier, rfl, hrefused⟩

/-- **All rounds.** -/
theorem rounds_left (site : Site σ) (settings : Settings) (n : Nat) (isInitial : Bool)
    (refusal : Option Refusal) {r : Run σ} (isOpen : r.act.isComplete = false) :
    ∃ given, (rounds site settings n isInitial refusal r).2.course.seen answers =
        given ++ r.course.seen answers ∧
      Left given (rounds site settings n isInitial refusal r).1
        (rounds site settings n isInitial refusal r).2.act := by
  induction n generalizing isInitial refusal r with
  | zero =>
    obtain ⟨hcourse, hleft⟩ := exhaust_left isOpen
    exact ⟨[], congrArg (Course.seen answers) hcourse, hleft⟩
  | succ n ih =>
    obtain ⟨given, hseen, hleaves⟩ := round_leaves site settings isInitial refusal isOpen
    rw [rounds]
    cases hround : round site settings isInitial refusal r with
    | «over» error last =>
      rw [hround] at hseen hleaves
      exact ⟨given, hseen, hleaves⟩
    | next refusal' r' =>
      rw [hround] at hseen hleaves
      -- a round that is followed by another leaves the act open, which the induction needs
      obtain ⟨isOpen', hrecordable⟩ := hleaves
      obtain ⟨later, hlater, hleft⟩ := ih false refusal' isOpen'
      refine ⟨later ++ given, ?_, hleft.append hrecordable⟩
      rw [List.append_assoc]
      exact hlater.trans (congrArg (later ++ ·) hseen)

/-- **How a dispatched act ends.** The act is complete, and what is returned is what it comes to,
exactly when every record that the planner gave makes a step. Where one does not, it is the last thing
the planner gave: the act is left open, and the cause is returned as a failure of the client. -/
theorem dispatch_completes_iff (site : Site σ) (settings : Settings) {act : Act}
    (isOpen : act.isComplete = false) (c : Course σ) {outcome : Act.Outcome} {r : Run σ}
    (dispatched : dispatch site settings act c = (outcome, r)) :
    ∃ given, r.course.seen answers = given ++ c.seen answers ∧
      ((r.act.isComplete = true ∧ outcome = r.act.outcome settings.service) ↔
        AllRecordable given) ∧
      (¬ AllRecordable given →
        r.act.isComplete = false ∧
          ∃ now source record older cause, given = (now, .ok (.program source record)) :: older ∧
            Act.Step.ofMessage record now = .error cause ∧
            outcome = .error (actFailure .client r.act cause.message)) := by
  obtain ⟨given, hseen, hleft⟩ := rounds_left site settings act.request.maxSteps true none
    (r := ⟨act, c.resetCancel⟩) isOpen
  rw [dispatch] at dispatched
  rcases hrounds : rounds site settings act.request.maxSteps true none ⟨act, c.resetCancel⟩ with
    ⟨error, last⟩
  rw [hrounds] at dispatched hseen hleft
  cases dispatched
  rw [Course.seen_resetCancel] at hseen
  refine ⟨given, hseen, ?_⟩
  -- without an error all answers could be recorded; the error is about the last of them
  cases error with
  | none =>
    obtain ⟨hcomplete, hrecordable⟩ := hleft
    exact ⟨⟨fun _ => hrecordable, fun _ => ⟨hcomplete, rfl⟩⟩, fun h => absurd hrecordable h⟩
  | some cause =>
    obtain ⟨hopen, now, source, record, older, rfl, hrefused⟩ := hleft
    have hunrecordable : ¬ AllRecordable ((now, .ok (.program source record)) :: older) := by
      intro hrecordable
      obtain ⟨step, hstep⟩ := hrecordable _ List.mem_cons_self source record rfl
      rw [hstep] at hrefused
      cases hrefused
    refine ⟨⟨?_, fun h => absurd h hunrecordable⟩, fun _ =>
      ⟨hopen, now, source, record, older, cause, rfl, hrefused, rfl⟩⟩
    rintro ⟨hcomplete, _⟩
    rw [hopen] at hcomplete
    cases hcomplete

namespace Sample

/-- An act without a limit of time. -/
def act : Act :=
  Act.new "a" ⟨"find wool", "s", "", none, 3, ⟨none, none, none⟩⟩ 0

def settings : Settings :=
  { service := .prod, trace := ⟨"s", true⟩ }

/-- A site that carries out everything at once, and whose planner always gives the same program with
the same record. -/
def site (program : String) (record : Json) : Site Unit where
  settle _ _ := ⟨⟨(), (), false⟩, 0, ⟨.ok .null, (), false⟩⟩
  observe _ := ⟨⟨(), (), false⟩, 0, ⟨.ok ⟨"", [], [], "AAAA", "", 0, ""⟩, (), false⟩⟩
  toBrowser := .of fun _ _ => .atOnce ⟨.ok .null, (), false⟩
  plan _ _ _ := ⟨⟨(), (), false⟩, 0, ⟨.ok (.program program record), (), false⟩⟩

/-- A record with all that a step needs. -/
def record : Json :=
  .ofFields
    [("input", .ofFields [("screenshot", .string "AAAA")]),
      ("output", .ofFields [("rawProgramBody", .string "return;")])]

theorem ofMessage_record : ∃ step, Act.Step.ofMessage record 0 = .ok step :=
  ⟨_, rfl⟩

theorem seen_dispatch :
    (dispatch (site "return;" record) settings act (.start ())).2.course.seen answers =
      [(0, .ok (.program "return;" record))] := by
  rfl

/-- A program that returns at once, with a record that makes a step. -/
theorem dispatch_completes :
    act.isComplete = false ∧
      (dispatch (site "return;" record) settings act (.start ())).2.act.isComplete = true := by
  refine ⟨rfl, ?_⟩
  obtain ⟨given, hseen, hiff, _⟩ := dispatch_completes_iff (site "return;" record) settings
    (rfl : act.isComplete = false) (.start ()) (Prod.eta _).symm
  -- the one answer is the one that the planner gives
  have hgiven : given = [(0, .ok (.program "return;" record))] := by
    rw [← seen_dispatch, hseen]
    exact (List.append_nil given).symm
  subst hgiven
  obtain ⟨hcomplete, _⟩ := hiff.mpr fun entry hentry source message hprogram => by
    rw [List.mem_singleton] at hentry
    subst hentry
    cases hprogram
    exact ofMessage_record
  exact hcomplete

/-- The same program with an empty record: the act is still open when it is handed back. -/
theorem dispatch_leaves_open :
    act.isComplete = false ∧
      (dispatch (site "return;" (.ofFields [])) settings act (.start ())).2.act.isComplete = false ∧
      (dispatch (site "return;" (.ofFields [])) settings act (.start ())).1 =
        .error (actFailure .client act "Invalid step: Screenshot is required") :=
  ⟨rfl, rfl, rfl⟩

end Sample

end BrowserAct.Dispatch.Planned
