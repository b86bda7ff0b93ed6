import BrowserAct.Proofs.Act.LifeCycle
import BrowserAct.Proofs.Act.Terms
import BrowserAct.Proofs.Dispatch.Planned.Log
import BrowserAct.Proofs.Dispatch.Planned.Shape

/-!
# The rounds of a dispatch by planning

A part of a run adds moves to the log and makes something of its act. Both are followed through the
functions of a round, from a single action up.

* **`Goes`** says which moves a part of a run makes, and **`Continued`** and **`Ended`** what becomes of
  its act.
* **`Completes`** is the part of a round that comes after an answer of the planner.
* **`round_moves`** is one round.
-/

namespace BrowserAct.Dispatch.Planned

open Act (StateError)
open Program (Refusal Interpretation)

/-! ## The moves of a part of a run -/

variable {σ α : Type}

/-- A part of a run with these moves. The flag says whether there was a request to cancel. -/
def Goes (c : Course σ) (moves : History) (d : Course σ) : Prop :=
  ∃ history : History, d.events = history.reverse ++ c.events ∧ movesOf history = moves ∧
    d.cancelRequested = (c.cancelRequested || asksToCancel history)

theorem Goes.refl (c : Course σ) : Goes c [] c :=
  ⟨[], rfl, rfl, by simp [asksToCancel]⟩

theorem Goes.trans {c d e : Course σ} {first second : History} (goes : Goes c first d)
    (goes' : Goes d second e) : Goes c (first ++ second) e := by
  obtain ⟨history, hevents, hmoves, hflag⟩ := goes
  obtain ⟨history', hevents', hmoves', hflag'⟩ := goes'
  refine ⟨history ++ history', ?_, ?_, ?_⟩
  · rw [hevents', hevents, List.reverse_append, List.append_assoc]
  · rw [movesOf_append, hmoves, hmoves']
  · rw [hflag', hflag, asksToCancel_append, Bool.or_assoc]

/-- A move that is logged is a move. -/
theorem goes_log {event : Course.Event} (move : isMove event = true) (c : Course σ) :
    Goes c [(c.now, event)] (c.log event) := by
  refine ⟨[(c.now, event)], rfl, List.filter_eq_self.mpr (by simpa using move), ?_⟩
  · cases event <;> first
      | exact (Bool.or_false _).symm
      | cases move

/-- Traced lines are no moves. -/
theorem goes_trace (c : Course σ) (lines : List String) : Goes c [] (c.trace lines) := by
  rw [Course.trace]
  induction lines generalizing c with
  | nil => exact .refl c
  | cons line rest ih =>
    have hline : Goes c [] (c.log (.traced line)) :=
      ⟨[(c.now, .traced line)], rfl, rfl, (Bool.or_false _).symm⟩
    exact hline.trans (ih _)

theorem goes_react (c : Course σ) (r : Reaction σ α) : Goes c [] (c.react r).2 := by
  rw [Course.react]
  dsimp only
  split
  · exact ⟨[(c.now, .cancelRequested)], rfl, rfl, (Bool.or_true _).symm⟩
  · exact ⟨[], rfl, rfl, (Bool.or_false _).symm⟩

theorem goes_await (c : Course σ) (p : Pending σ α) : Goes c [] (c.await p).2 :=
  (goes_react c p.begun).trans (goes_react _ p.ended)

/-- Waiting moves only the clock, whether it is cut short or not. -/
theorem goes_awaitUntil {c d : Course σ} {deadline : Option Moment} {p : Pending σ α}
    {answer : Option α} (waited : c.awaitUntil deadline p = (answer, d)) : Goes c [] d := by
  cases deadline with
  | none =>
    cases waited
    exact goes_await c p
  | some deadline =>
    rw [Course.awaitUntil] at waited
    dsimp only at waited
    split at waited <;> cases waited
    · exact goes_await c p
    · exact goes_react c p.begun

/-- A move is cut short only once the time is used up. -/
theorem deadline_of_cutShort {c d : Course σ} {deadline : Option Moment} {p : Pending σ α}
    (waited : c.awaitUntil deadline p = (none, d)) : ∃ moment, deadline = some moment ∧ moment ≤ d.now := by
  cases deadline with
  | none => cases waited
  | some deadline =>
    refine ⟨deadline, rfl, ?_⟩
    rw [Course.awaitUntil] at waited
    dsimp only at waited
    split at waited <;> cases waited
    show deadline ≤ (c.react p.begun).2.now + (deadline - c.now)
    rw [Course.react_now]
    exact Nat.sub_le_iff_le_add'.mp (Nat.le_refl _)

/-! ## What a part of a run makes of its act -/

/-- What a run that ends so makes of an open act, where that does not depend on the last round. -/
def Ending.result? : Ending → Option Act.Ending
  | .stepsUsedUp => some (.failed (Act.Payload.client .maxStepsExceeded none))
  | .outOfTime => some (.failed timeOutPayload)
  | .cutShort => some (.failed timeOutPayload)
  | .canceled => some .canceled
  | .concluded => none

def Ending.isTimeOut : Ending → Bool
  | .outOfTime => true
  | .cutShort => true
  | _ => false

/-- An act between two rounds: it took in steps, and else it is as it was. -/
structure Continued (act : Act) (steps : List Act.Step) (current : Act) : Prop where
  id : current.id = act.id
  terms : current.terms = act.terms
  isComplete : current.isComplete = act.isComplete
  timedOut : current.timedOut = act.timedOut
  steps : current.steps = act.steps ++ steps

/-- An act at the end of a run. -/
structure Ended (act : Act) (steps : List Act.Step) (ending : Ending) (r : Run σ) : Prop where
  steps : r.act.steps = act.steps ++ steps
  result : act.isComplete = false → ∀ result, ending.result? = some result → r.act.result = some result
  outOfTime : ending.isTimeOut = true → act.isPastDeadline r.course.now = true
  timedOut : r.act.timedOut = true → act.timedOut = true ∨ act.isPastDeadline r.course.now = true

/-- A round takes this turn. -/
def Takes (act : Act) (steps : List Act.Step) : Turn → Round σ → Prop
  | .follows refusal, .next refusal' r => refusal' = refusal ∧ Continued act steps r.act
  | .ends ending, .over _ r => Ended act steps ending r
  | _, _ => False

theorem Continued.refl (act : Act) : Continued act [] act :=
  ⟨rfl, rfl, rfl, rfl, (List.append_nil _).symm⟩

namespace Continued

variable {act current : Act} {steps : List Act.Step} (continued : Continued act steps current)

include continued

theorem isPastDeadline (now : Moment) : current.isPastDeadline now = act.isPastDeadline now :=
  Act.isPastDeadline_congr continued.terms now

/-- What is asked of the planner depends on the terms of the act alone. -/
theorem requestOf (isInitial : Bool) (refusal : Option Refusal) :
    requestOf current isInitial refusal = requestOf act isInitial refusal := by
  have hrequest : current.request = act.request := congrArg Prod.fst continued.terms
  funext observation
  rw [Planned.requestOf, Planned.requestOf, continued.id, hrequest]

/-- A run that ends here by itself can leave the act as it is. -/
theorem ended {r : Run σ} (same : r.act = current) : Ended act steps .concluded r := by
  subst same
  exact ⟨continued.steps, by simp [Ending.result?], by simp [Ending.isTimeOut],
    fun timedOut => .inl (continued.timedOut ▸ timedOut)⟩

/-- A run that ends here leaves the act as it is, if it was complete. -/
theorem ended_of_complete (isComplete : act.isComplete = true) {ending : Ending} {r : Run σ}
    (same : r.act = current) (past : ending.isTimeOut = true → act.isPastDeadline r.course.now = true) :
    Ended act steps ending r := by
  subst same
  refine ⟨continued.steps, fun isOpen => ?_, past, fun timedOut => .inl (continued.timedOut ▸ timedOut)⟩
  rw [isComplete] at isOpen
  cases isOpen

/-- A run that ends here with an operation gives an open act its result. -/
theorem ended_of_ending {operation : Act.Operation}
    {result : Act.Ending} (ends : operation.ending? = some result) {ending : Ending}
    (agrees : ∀ expected, ending.result? = some expected → result = expected) {r : Run σ} {now : Moment}
    (performed : r.act = current.perform operation now)
    (past : ending.isTimeOut = true → act.isPastDeadline r.course.now = true) :
    Ended act steps ending r := by
  rw [Act.perform_of_ending ends] at performed
  refine ⟨?_, fun _ expected hexpected => ?_, past, fun timedOut => .inl ?_⟩
  · rw [performed]
    exact continued.steps
  · rw [performed, ← agrees expected hexpected]
    rfl
  · rw [performed] at timedOut
    exact continued.timedOut ▸ timedOut

end Continued

variable {act : Act} {steps : List Act.Step}

/-- The last round, which ends with an operation on the act. -/
theorem last_takes {r : Run σ} (continued : Continued act steps r.act) {operation : Act.Operation}
    {result : Act.Ending} (ends : operation.ending? = some result) {ending : Ending}
    (agrees : ∀ expected, ending.result? = some expected → result = expected)
    (past : ending.isTimeOut = true → act.isPastDeadline r.course.now = true) :
    Takes act steps (.ends ending) (Round.last r operation) := by
  rw [Round.last, Run.change]
  cases hcomplete : act.isComplete with
  | true =>
    rw [Act.apply_of_complete (continued.isComplete.trans hcomplete)]
    exact continued.ended_of_complete hcomplete rfl past
  | false =>
    rw [Act.apply_of_open (continued.isComplete.trans hcomplete)]
    exact continued.ended_of_ending ends agrees rfl past

theorem timeOut_takes {r : Run σ} (continued : Continued act steps r.act) {ending : Ending}
    (isTimeOut : ending.isTimeOut = true) (past : act.isPastDeadline r.course.now = true) :
    Takes act steps (.ends ending) (timeOut r) := by
  -- the two endings at the deadline fail with the same payload
  have hresult (expected : Act.Ending) (given : ending.result? = some expected) :
      Act.Ending.failed timeOutPayload = expected := by
    cases ending <;> cases isTimeOut <;> exact Option.some.inj given
  rw [timeOut, Run.change]
  cases hcomplete : act.isComplete with
  -- an act that was complete already keeps its result
  | true =>
    rw [Act.apply_of_complete (continued.isComplete.trans hcomplete)]
    exact continued.ended_of_complete hcomplete rfl fun _ => past
  | false =>
    have hopen : r.act.isComplete = false := continued.isComplete.trans hcomplete
    have hmarked : (r.act.perform .markTimedOut r.course.now).isComplete = false := hopen
    rw [Act.apply_of_open hopen]
    show Takes act steps (.ends ending) (Round.last
      { r with act := r.act.perform .markTimedOut r.course.now } (.fail timeOutPayload))
    rw [Round.last, Run.change, Act.apply_of_open hmarked]
    exact ⟨continued.steps, fun _ expected given => congrArg some (hresult expected given),
      fun _ => past, fun _ => .inr past⟩

variable {site : Site σ} {settings : Settings}

/-- The course of a round once it began to wait for the page to settle. -/
def settlingCourse (settings : Settings) (c : Course σ) : Course σ :=
  c.log (.settling (settleOptions settings.settleTimeout))

theorem observe_moves {c d : Course σ} {deadline : Option Moment}
    {answer : Option (Except Refusal Planner.Observation)}
    (observed : observe site settings deadline c = (answer, d)) :
    ∃ moves, Goes (settlingCourse settings c) moves d ∧ Observing moves answer ∧
      (answer = none → ∃ moment, deadline = some moment ∧ moment ≤ d.now) := by
  rw [observe] at observed
  dsimp only at observed
  -- settling is cut short, is refused, or the page is looked at
  split at observed <;> rename_i waited <;> have hwaited := goes_awaitUntil waited
  · cases observed
    exact ⟨[], hwaited, .settling, fun _ => deadline_of_cutShort waited⟩
  · rename_i refusal settled
    cases observed
    have hsettled : Goes settled [(settled.now, .settled (.error refusal))] _ := goes_log rfl settled
    exact ⟨_, hwaited.trans hsettled, .unsettled refusal, by simp⟩
  · rename_i value settled
    have hsettled : Goes settled [(settled.now, .settled (.ok value))]
        (settled.log (.settled (.ok value))) := goes_log rfl settled
    have hobserving : Goes (settled.log (.settled (.ok value))) [(settled.now, .observing)]
        ((settled.log (.settled (.ok value))).log .observing) := goes_log rfl _
    have hbegun := (hwaited.trans hsettled).trans hobserving
    -- the look is cut short, or it has an answer
    split at observed <;> rename_i watched <;> have hwatched := hbegun.trans (goes_awaitUntil watched)
    · cases observed
      exact ⟨_, hwatched, .observing, fun _ => deadline_of_cutShort watched⟩
    · rename_i answer seen
      cases observed
      have hanswer : Goes seen [(seen.now, .observed answer)] (seen.log (.observed answer)) :=
        goes_log rfl seen
      exact ⟨_, hwatched.trans hanswer, .observed answer, by simp⟩

/-- What asking for a program gives the round to go on with. -/
def Asked.Gives (deadline : Option Moment) (c : Course σ) : Asked → Option Planner.Answer → Prop
  | .cutShort, answer => answer = none ∧ ∃ moment, deadline = some moment ∧ moment ≤ c.now
  | .refused refusal, answer => answer = some (.failed (actuationPayload refusal))
  | .answered now given, answer => answer = some (answerOf given) ∧ now = c.now

theorem plan_moves {isInitial : Bool} {refusal : Option Refusal} {r : Run σ}
    {answer : Option Planner.Answer} {c : Course σ}
    (planned : plan site settings isInitial refusal r = (answer, c)) :
    ∃ moves asked, Goes (settlingCourse settings r.course) moves c ∧
      Asking (requestOf r.act isInitial refusal) moves asked ∧ asked.Gives r.act.deadline c answer := by
  rw [plan] at planned
  split at planned <;> rename_i course observed <;>
    obtain ⟨moves, hgoes, hobserving, hcut⟩ := observe_moves observed
  · cases planned
    exact ⟨moves, .cutShort, hgoes, .cutShort hobserving, rfl, hcut rfl⟩
  · rename_i refused
    cases planned
    exact ⟨moves, .refused refused, hgoes, .refused hobserving, rfl⟩
  · rename_i observation
    dsimp only at planned
    -- the page was seen; the request is logged behind the line that announces it
    let traced := course.trace [settings.trace.line "..."]
    let request := (requestOf r.act isInitial refusal observation).text
    have hplanning : Goes traced [(traced.now, .planning request)] (traced.log (.planning request)) :=
      goes_log rfl traced
    have hasked := (hgoes.trans (goes_trace course [settings.trace.line "..."])).trans hplanning
    rw [List.append_nil] at hasked
    split at planned <;> rename_i waited <;> have hwaited := hasked.trans (goes_awaitUntil waited)
    · cases planned
      rw [List.append_nil] at hwaited
      exact ⟨_, .cutShort, hwaited, .planning hobserving, rfl, deadline_of_cutShort waited⟩
    · rename_i given after
      cases planned
      have hanswered : Goes after [(after.now, .answered given)] (after.log (.answered given)) :=
        goes_log rfl after
      have hall := hwaited.trans hanswered
      rw [List.append_nil, List.append_assoc] at hall
      exact ⟨_, .answered after.now given, hall, .answered hobserving given, rfl, rfl⟩

/-! ## Programs -/

/-- A call of the actuator is logged when it is made and when it is answered. -/
theorem perform_moves (site : Site σ) (action : Program.Action) (c : Course σ) :
    ∃ u, Goes c [(c.now, .acting action), (u, .acted ((actuator site).perform action c).1)]
      ((actuator site).perform action c).2 := by
  let begun := c.log (.acting action)
  let ended := begun.await (site.perform action begun.world)
  have hbegun : Goes c [(c.now, .acting action)] begun := goes_log rfl c
  have hacted : Goes ended.2 [(ended.2.now, .acted ended.1)] (ended.2.log (.acted ended.1)) :=
    goes_log rfl ended.2
  rw [perform_actuator]
  exact ⟨ended.2.now, (hbegun.trans (goes_await begun _)).trans hacted⟩

/-- The interpretation of an action is decided by the answer to that call. -/
theorem runAction_moves (site : Site σ) (action : Program.Action) (c : Course σ) :
    ∃ t u answer, Goes c [(t, .acting action), (u, .acted answer)]
        (Program.runAction (actuator site) action c).2 ∧
      (Program.runAction (actuator site) action c).1 = interpretationOf action answer := by
  obtain ⟨u, hgoes⟩ := perform_moves site action c
  rw [Program.runAction]
  rcases hperformed : (actuator site).perform action c with ⟨answer, d⟩
  rw [hperformed] at hgoes
  cases answer <;> exact ⟨c.now, u, _, hgoes, rfl⟩

theorem run_moves (site : Site σ) (program : Program) (c : Course σ) :
    ∃ moves, Goes c moves (Program.run (actuator site) program c).2 ∧
      Acting program moves (Program.run (actuator site) program c).1 := by
  rw [Program.run]
  cases hthought : program.thought with
  | none =>
    obtain ⟨t, u, answer, hgoes, hresult⟩ := runAction_moves site program.action c
    exact ⟨_, hgoes, hresult ▸ .action hthought answer⟩
  | some thought =>
    obtain ⟨u, hgoes⟩ := perform_moves site (.think thought) c
    dsimp only
    rcases hthink : (actuator site).think thought c with ⟨answer, d⟩
    rw [show (actuator site).perform (.think thought) c = (answer, d) from hthink] at hgoes
    cases answer with
    -- a thought that is refused ends the program before its action
    | error refusal => exact ⟨_, hgoes, .thought hthought refusal⟩
    | ok value =>
      obtain ⟨v, w, answer, hgoes', hresult⟩ := runAction_moves site program.action d
      exact ⟨_, hgoes.trans hgoes', hresult ▸ .thoughtAndAction hthought answer⟩

/-- A change of the act is all that an operation at the end of a round comes to. -/
theorem last_moves {r : Run σ} (continued : Continued act steps r.act) (operation : Act.Operation)
    {result : Act.Ending} (ends : operation.ending? = some result) :
    Goes r.course [] (Round.last r operation).course ∧
      Takes act steps (.ends .concluded) (Round.last r operation) := by
  refine ⟨?_, last_takes continued ends (by simp [Ending.result?]) (by simp [Ending.isTimeOut])⟩
  rw [course_last]
  exact .refl _

/-- Running the text of a program: nothing where it is no program, and else its actions. -/
theorem runProgram_moves (site : Site σ) (source : String) {r : Run σ}
    (continued : Continued act steps r.act) :
    (∃ cause, Program.parse source = .error cause ∧ Goes r.course [] (runProgram site source r).course ∧
        Takes act steps (.ends .concluded) (runProgram site source r)) ∨
      ∃ program acting interpretation, Program.parse source = .ok program ∧
        Goes r.course acting (runProgram site source r).course ∧
        Acting program acting interpretation ∧
        Takes act steps (turnOf interpretation) (runProgram site source r) := by
  rw [runProgram, Program.interpret]
  cases hparse : Program.parse source with
  | error cause => exact .inl ⟨cause, rfl, last_moves continued _ rfl⟩
  | ok program =>
    obtain ⟨acting, hgoes, hacting⟩ := run_moves site program r.course
    dsimp only
    rcases hran : Program.run (actuator site) program r.course with ⟨interpretation, course⟩
    rw [hran] at hgoes hacting
    refine .inr ⟨program, acting, interpretation, rfl, ?_⟩
    have hlast (operation : Act.Operation) {result : Act.Ending}
        (ends : operation.ending? = some result) :
        Goes r.course acting (Round.last { r with course } operation).course ∧
          Acting program acting interpretation ∧
          Takes act steps (.ends .concluded) (Round.last { r with course } operation) := by
      obtain ⟨hgoes', htakes⟩ := last_moves (r := { r with course }) continued operation ends
      exact ⟨List.append_nil acting ▸ hgoes.trans hgoes', hacting, htakes⟩
    -- a program that asks to go on changes nothing; the others end the act
    cases interpretation with
    | «continue» | redirect message => exact ⟨hgoes, hacting, rfl, continued⟩
    | done value => exact hlast (.complete (responseOf value)) rfl
    | failed fault => exact hlast (.fail fault.payload) rfl

/-! ## Recording a step -/

/-- An act that is complete takes no record. -/
theorem record_of_complete {r : Run σ} (isComplete : r.act.isComplete = true) (message : Json) :
    ∃ cause, record r message = .error cause := by
  rw [record]
  cases Act.Step.ofMessage message r.course.now with
  | error cause => exact ⟨cause, rfl⟩
  | ok step =>
    show ∃ cause, (r.change (.addStep step)).bind _ = .error cause
    rw [Run.change, Act.apply_of_complete isComplete]
    exact ⟨_, rfl⟩

theorem Continued.addStep {current : Act} (continued : Continued act steps current)
    (step : Act.Step) (now : Moment) :
    Continued act (steps ++ [step]) (current.perform (.addStep step) now) where
  id := continued.id
  terms := continued.terms
  isComplete := continued.isComplete
  timedOut := continued.timedOut
  steps := by rw [← List.append_assoc, ← continued.steps]; rfl

/-! ## After an answer of the planner -/

/-- The rest of a round after such an asking: it completes what a round is made of. -/
def Completes (act : Act) (steps : List Act.Step) (isInitial : Bool) (refusal : Option Refusal)
    (asking : History) (c : Course σ) (rest : Round σ) : Prop :=
  ∃ moves turn, Goes c moves rest.course ∧ RoundMoves act isInitial refusal (asking ++ moves) turn ∧
    Takes act (steps ++ stepsOf moves) turn rest

variable {isInitial : Bool} {refusal : Option Refusal} {asking : History}

/-- The run ends here with no more moves. -/
theorem completes_of_ends {c : Course σ} {rest : Round σ} {ending : Ending} (goes : Goes c [] rest.course)
    (moves : RoundMoves act isInitial refusal asking (.ends ending))
    (takes : Takes act steps (.ends ending) rest) :
    Completes act steps isInitial refusal asking c rest := by
  refine ⟨[], .ends ending, goes, ?_, ?_⟩
  · rwa [List.append_nil]
  · rwa [stepsOf, List.filterMap_nil, List.append_nil]

/-- A failure of the planner fails the act. -/
theorem completes_failed {r : Run σ} (continued : Continued act steps r.act) {given : Answered}
    (asked : Asking (requestOf act isInitial refusal) asking (.answered r.course.now given))
    (noProgram : ∀ source record, given ≠ .ok (.program source record)) (payload : Json) :
    Completes act steps isInitial refusal asking r.course (Round.last r (.fail payload)) := by
  obtain ⟨hgoes, htakes⟩ := last_moves continued (.fail payload) rfl
  exact completes_of_ends hgoes (.noProgram asked noProgram) htakes

/-- The step of a program is recorded, and then the program is run, if it can be read. -/
theorem completes_stepped (site : Site σ) {c : Course σ} {r : Run σ} {source : String}
    {record : Json} {step : Act.Step}
    (asked : Asking (requestOf act isInitial refusal) asking
      (.answered c.now (.ok (.program source record))))
    (makes : MakesStep act c.now record step) (stepped : Goes c [(c.now, .stepped step)] r.course)
    (taken : Continued act (steps ++ [step]) r.act) :
    Completes act steps isInitial refusal asking c (runProgram site source r) := by
  rcases runProgram_moves site source taken with
    ⟨cause, hparse, hgoes, htakes⟩ | ⟨program, acting, interpretation, hparse, hgoes, hacting, htakes⟩
  · exact ⟨_, _, stepped.trans hgoes, .unreadable asked makes hparse, htakes⟩
  -- the only step among the moves is the one that was just recorded
  · have hsteps : stepsOf ([(c.now, Course.Event.stepped step)] ++ acting) = [step] := by
      rw [stepsOf_append, stepsOf_acting hacting]
      rfl
    refine ⟨_, _, stepped.trans hgoes, .ran asked makes hparse hacting, ?_⟩
    rw [hsteps]
    exact htakes

/-- A program is run once its record made a step; without a step the run ends. -/
theorem completes_program (site : Site σ) (settings : Settings) {r : Run σ}
    (continued : Continued act steps r.act) {source : String} {message : Json}
    (asked : Asking (requestOf act isInitial refusal) asking
      (.answered r.course.now (.ok (.program source message)))) :
    Completes act steps isInitial refusal asking r.course
      (execute site settings (.program source message) r) := by
  have htraced := goes_trace r.course (settings.trace.programLines source)
  have hnow := Course.trace_now r.course (settings.trace.programLines source)
  rw [execute]
  generalize r.course.trace (settings.trace.programLines source) = traced at htraced hnow
  cases hcomplete : act.isComplete with
  | true =>
    obtain ⟨cause, hrecord⟩ := record_of_complete (r := { r with course := traced })
      (continued.isComplete.trans hcomplete) message
    -- a complete act takes no step, so the round ends here
    have hnone (step : Act.Step) : ¬ MakesStep act r.course.now message step := by
      rintro ⟨isOpen, -⟩
      rw [hcomplete] at isOpen
      cases isOpen
    rw [hrecord]
    exact completes_of_ends htraced (.noStep asked hnone) (continued.ended rfl)
  | false =>
    rw [record_eq (r := { r with course := traced }) (continued.isComplete.trans hcomplete)]
    dsimp only
    rw [hnow]
    cases hstep : Act.Step.ofMessage message r.course.now with
    | error cause =>
      have hnone (step : Act.Step) : ¬ MakesStep act r.course.now message step := by
        rintro ⟨-, makes⟩
        rw [hstep] at makes
        cases makes
      exact completes_of_ends htraced (.noStep asked hnone) (continued.ended rfl)
    -- the step is logged, and then its program is run
    | ok step =>
      have hlog : Goes traced [(traced.now, .stepped step)] (traced.log (.stepped step)) :=
        goes_log rfl traced
      have hstepped : Goes r.course [(r.course.now, .stepped step)] (traced.log (.stepped step)) :=
        hnow ▸ htraced.trans hlog
      exact completes_stepped site asked ⟨hcomplete, hstep⟩ hstepped
        (continued.addStep step r.course.now)

/-- Going on with an answer of the planner. -/
theorem completes_execute (site : Site σ) (settings : Settings) {r : Run σ}
    (continued : Continued act steps r.act) {given : Answered}
    (asked : Asking (requestOf act isInitial refusal) asking (.answered r.course.now given)) :
    Completes act steps isInitial refusal asking r.course
      (execute site settings (answerOf given) r) := by
  rcases given with e | ⟨source, message⟩ | payload
  · exact completes_failed continued asked (by simp) _
  · exact completes_program site settings continued asked
  · exact completes_failed continued asked (by simp) _

/-! ## One round -/

/-- Once the deadline is reached no time is left. -/
theorem isPastDeadline_of_deadline {now : Moment}
    (reached : ∃ moment, act.deadline = some moment ∧ moment ≤ now) : act.isPastDeadline now = true := by
  obtain ⟨moment, hdeadline, hle⟩ := reached
  rw [Act.deadline, Option.map_eq_some_iff] at hdeadline
  obtain ⟨timeout, htimeout, rfl⟩ := hdeadline
  have hused : timeout - (now - act.startedAt) = 0 :=
    Nat.sub_eq_zero_of_le (Nat.le_sub_of_add_le' hle)
  rw [Act.isPastDeadline, Act.remaining, htimeout, Option.map_some, hused]
  rfl

/-- **One round** that begins in time and without a request to cancel. -/
theorem round_moves (site : Site σ) (settings : Settings) (isInitial : Bool)
    (refusal : Option Refusal) {r : Run σ} (continued : Continued act steps r.act)
    (inTime : act.isPastDeadline r.course.now = false) (notCanceled : r.course.cancelRequested = false) :
    ∃ moves turn,
      Goes (settlingCourse settings r.course) moves (round site settings isInitial refusal r).course ∧
        RoundMoves act isInitial refusal moves turn ∧
        Takes act (steps ++ stepsOf moves) turn (round site settings isInitial refusal r) := by
  have hinTime : ¬ r.act.isPastDeadline r.course.now = true := by
    rw [continued.isPastDeadline, inTime]
    exact Bool.false_ne_true
  rw [round, if_neg hinTime, notCanceled, if_neg Bool.false_ne_true]
  rcases hplan : plan site settings isInitial refusal r with ⟨answer, course⟩
  obtain ⟨asking, asked, hgoes, hasking, hgives⟩ := plan_moves hplan
  rw [continued.requestOf] at hasking
  have hquiet : steps ++ stepsOf asking = steps := by
    rw [stepsOf_asking hasking, List.append_nil]
  -- the deadline cuts the round short, the page is refused, or the planner answers
  cases asked with
  | cutShort =>
    obtain ⟨rfl, hreached⟩ := hgives
    have hpast : act.isPastDeadline course.now = true := by
      rw [← continued.isPastDeadline]
      exact isPastDeadline_of_deadline hreached
    refine ⟨asking, _, ?_, .cutShort hasking, ?_⟩
    · rw [course_timeOut]
      exact hgoes
    · rw [hquiet]
      exact timeOut_takes (r := { r with course }) continued
        (rfl : Ending.cutShort.isTimeOut = true) hpast
  | refused refused =>
    cases hgives
    obtain ⟨hlast, htakes⟩ := last_moves (r := { r with course }) continued
      (.fail (actuationPayload refused)) rfl
    refine ⟨asking, _, List.append_nil asking ▸ hgoes.trans hlast, .refused hasking, ?_⟩
    rw [hquiet]
    exact htakes
  | answered now given =>
    obtain ⟨rfl, rfl⟩ := hgives
    obtain ⟨moves, turn, hexecute, hmoves, htakes⟩ :=
      completes_execute site settings (r := { r with course }) continued hasking
    refine ⟨asking ++ moves, turn, hgoes.trans hexecute, hmoves, ?_⟩
    rw [stepsOf_append, ← List.append_assoc, hquiet]
    exact htakes

end BrowserAct.Dispatch.Planned
