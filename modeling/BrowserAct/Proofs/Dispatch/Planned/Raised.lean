import BrowserAct.Proofs.Act.Payload
import BrowserAct.Proofs.Dispatch.Planned.Returned
import BrowserAct.Proofs.Planner.StatusFailures

/-!
# Failures that a dispatch raises

Where a program throws, the actuator refuses, an answer cannot be used, the planner cannot be reached or
the steps are used up, a dispatch fails its act by itself. The failure is written as a payload first, and
what the act comes to is read off that payload.

* **`Cause`** is why an act is failed, and **`causeOf?`** finds it in what happened last.
* **`Cause.classify_payload_kind`** and **`Cause.classify_payload_message`** say what the payload of a
  cause is classified as.
* **`round_reports`** is one round, and **`dispatch_raised`** the whole way of a cause.
-/

namespace BrowserAct.Program

/-- Every text can be thrown. -/
theorem parse_throws (text : String) :
    parse (String.ofList (Statement.throws text).write) = .ok ⟨none, .throws text⟩ := by
  have written : Written [Statement.throws text] ((Statement.throws text).write ++ []) :=
    .last (.throws text) .nil
  have hpieces : pieces ((Statement.throws text).write ++ []) = .ok [(Statement.throws text).write] :=
    pieces_written written fun statement mem => by
      rw [List.mem_singleton] at mem
      subst mem
      exact Statement.isPiece_write trivial
  rw [List.append_nil] at hpieces
  rw [parse, tokenize, String.toList_ofList, hpieces]
  show ([(Statement.throws text).write].mapM Statement.ofText).bind ofStatements = _
  rw [List.mapM_cons, Statement.ofText_throws]
  rfl

end BrowserAct.Program

namespace BrowserAct.Dispatch.Planned

open Program (Refusal Interpretation)

/-! ## Causes -/

/-- Why a dispatch fails an act by itself, with the text that came with it. -/
inductive Cause where
  /-- The program throws. -/
  | thrown (text : String)
  /-- The actuator fails to settle the page, to observe it, or to carry out an action. -/
  | refused (text : String)
  /-- The answer of the planner cannot be used, or its program cannot be read. -/
  | unusable (text : String)
  | unreachable (text : String)
  | stepsUsedUp
deriving DecidableEq

namespace Cause

/-- The kind of failure that a cause is. -/
def kind : Cause → Act.FailureKind
  | .thrown _ => .agent
  | .refused _ => .actuation
  | .unusable _ => .badResponse
  | .unreachable _ => .serviceUnavailable
  | .stepsUsedUp => .exceededMaxSteps

/-- The text that the failure is to tell. -/
def text? : Cause → Option String
  | .thrown text | .refused text | .unusable text => some text
  | .unreachable _ | .stepsUsedUp => none

/-- The payload that the act is failed with. -/
def payload : Cause → Json
  | .thrown text => Act.Payload.agent text
  | .refused text => Act.Payload.client .actuationError (some text)
  | .unusable text => Act.Payload.client .badResponse (some text)
  | .unreachable text => (Planner.Error.transport text).payload
  | .stepsUsedUp => Act.Payload.client .maxStepsExceeded none

/-- An answer that is none. -/
def ofError : Planner.Error → Cause
  | .transport detail => .unreachable detail
  | error => .unusable error.message

/-- The cause of an error has the payload of the error. -/
theorem payload_ofError (error : Planner.Error) : (ofError error).payload = error.payload := by
  cases error <;> rfl

variable (metadata : Act.Metadata) (service : Service)

/-- **The payload of a cause** is classified as what the cause is, with one exception. -/
theorem classify_payload_kind (cause : Cause) :
    (Act.classify cause.payload false metadata service).kind =
      if cause = .thrown "Canceled." then .canceled else cause.kind := by
  cases cause with
  | thrown text =>
    rw [payload, Act.classify_agent]
    by_cases canceled : text = "Canceled." <;> simp [canceled, kind, Act.Payload.canceledText]
  | refused text | unusable text | stepsUsedUp => simp [payload, Act.classify_client, kind]
  | unreachable text =>
    have hpayload : (Planner.Error.transport text).payload = Act.statusPayload 503 text := rfl
    rw [payload, hpayload, Act.classify_statusPayload]
    simp [Act.statusKind, kind]

/-- And its failure tells the text of the cause. -/
theorem classify_payload_message {cause : Cause} (plain : cause ≠ .thrown "Canceled.") {text : String}
    (tells : cause.text? = some text) (nonempty : text ≠ "") :
    (Act.classify cause.payload false metadata service).message = text := by
  cases cause with
  | thrown told =>
    cases tells
    have noCancellation : text ≠ Act.Payload.canceledText := fun same => plain (congrArg thrown same)
    rw [payload, Act.classify_agent, if_neg noCancellation, Act.Failure.withMessage, if_neg nonempty]
  | refused told | unusable told =>
    cases tells
    simp [payload, Act.classify_client, Act.Failure.withMessage, nonempty, Act.Failure.withRaw]
  | unreachable | stepsUsedUp => cases tells

end Cause

/-- The cause in the moves of a round, given from the last to the first. -/
def causeOf? : History → Option Cause
  | (_, .settled (.error refusal)) :: _ => some (.refused refusal.message)
  | (_, .observed (.error refusal)) :: _ => some (.refused refusal.message)
  | (_, .answered (.error error)) :: _ => some (.ofError error)
  | (_, .stepped _) :: (_, .answered (.ok (.program source _))) :: _ =>
    match Program.parse source with
    | .error cause => some (.unusable cause.message)
    | .ok _ => none
  | (_, .acted (.error (.failed text))) :: _ => some (.refused text)
  | (_, .acted (.ok _)) :: (_, .acting (.throws text)) :: _ => some (.thrown text)
  | _ => none

/-- The cause of a program that failed. -/
def faultOf? : Interpretation → Option Cause
  | .failed (.agent text) => some (.thrown text)
  | .failed (.actuation text) => some (.refused text)
  | _ => none

section

variable {σ : Type} {site : Site σ} {settings : Settings} {r : Run σ}

/-! ## One round -/

/-- A round with such moves ends its act with the payload of their cause, if they raise one. -/
def Reports (act : Act) (moves : History) (rest : Round σ) : Prop :=
  ∀ cause, causeOf? moves.reverse = some cause →
    ∃ r', rest = .over none r' ∧ r'.act.result = some (.failed cause.payload) ∧
      r'.act.timedOut = act.timedOut

theorem reports_of_none {act : Act} {moves : History} (quiet : causeOf? moves.reverse = none)
    (rest : Round σ) : Reports act moves rest := by
  intro cause raised
  rw [quiet] at raised
  cases raised

/-- An open act is ended with the payload. -/
theorem reports_last (isOpen : r.act.isComplete = false) {moves : History} {cause : Cause}
    (raised : causeOf? moves.reverse = some cause) :
    Reports r.act moves (Round.last r (.fail cause.payload)) := by
  intro cause' raised'
  rw [raised] at raised'
  cases raised'
  rw [Round.last, Run.change, Act.apply_of_open isOpen]
  exact ⟨_, rfl, rfl, rfl⟩

/-- What the actions of a program come to raises its fault, and nothing else. -/
theorem causeOf?_acting {program : Program} {acting : History} {interpretation : Interpretation}
    (acts : Acting program acting interpretation) (before : History) :
    causeOf? (before ++ acting).reverse = faultOf? interpretation := by
  -- only the last call of a program can have failed, and its answer is the last entry
  have last (action : Program.Action) (t u : Moment) (before : History)
      (answer : Except Refusal Json) :
      causeOf? (before ++ [(t, Course.Event.acting action), (u, .acted answer)]).reverse =
        faultOf? (interpretationOf action answer) := by
    rw [List.reverse_append]
    cases answer with
    | ok value => cases action <;> rfl
    | error refusal => cases refusal <;> rfl
  cases acts with
  | action _ answer => exact last program.action _ _ before answer
  | @thought t u thought _ refusal => exact last (.think thought) t u before (.error refusal)
  | @thoughtAndAction t u v w thought value _ answer =>
    have hlast := last program.action v w
      (before ++ [(t, .acting (.think thought)), (u, .acted (.ok value))]) answer
    rwa [List.append_assoc] at hlast

/-- The rest of a round after such moves: it adds moves, and reports the cause in all of them. -/
def Finishes (act : Act) (before : History) (c : Course σ) (rest : Round σ) : Prop :=
  ∃ moves, Goes c moves rest.course ∧ Reports act (before ++ moves) rest

/-- Ending the act makes no moves. -/
theorem Goes.last {c : Course σ} {moves : History} (goes : Goes c moves r.course)
    (operation : Act.Operation) : Goes c moves (Round.last r operation).course := by
  rw [course_last]
  exact goes

/-- The round ends here. -/
theorem finishes_last (isOpen : r.act.isComplete = false) {before moves : History} {c : Course σ}
    (goes : Goes c moves r.course) {cause : Cause}
    (raised : causeOf? (before ++ moves).reverse = some cause) :
    Finishes r.act before c (Round.last r (.fail cause.payload)) :=
  ⟨moves, goes.last _, reports_last isOpen raised⟩

theorem finishes_of_none {act : Act} {before moves : History} {c : Course σ} {rest : Round σ}
    (goes : Goes c moves rest.course) (quiet : causeOf? (before ++ moves).reverse = none) :
    Finishes act before c rest :=
  ⟨moves, goes, reports_of_none quiet rest⟩

/-- A program that cannot be read, or fails, raises that. -/
theorem finishes_runProgram (site : Site σ) (isOpen : r.act.isComplete = false) (before : History)
    (t u : Moment) (source : String) (message : Json) (step : Act.Step) :
    Finishes r.act
      (before ++ [(t, .answered (.ok (.program source message))), (u, .stepped step)]) r.course
      (runProgram site source r) := by
  rw [runProgram, Program.interpret]
  cases hparse : Program.parse source with
  | error cause =>
    show Finishes _ _ _ (Round.last r (.fail (Cause.unusable cause.message).payload))
    exact finishes_last isOpen (.refl _) (by simp [causeOf?, hparse])
  | ok program =>
    obtain ⟨acting, hgoes, hacting⟩ := run_moves site program r.course
    dsimp only
    rcases hran : Program.run (actuator site) program r.course with ⟨interpretation, course⟩
    rw [hran] at hgoes hacting
    have hcause := causeOf?_acting hacting
      (before ++ [(t, .answered (.ok (.program source message))), (u, .stepped step)])
    -- only a fault raises anything, and it is what the program ended with
    cases interpretation with
    | «continue» | redirect text => exact finishes_of_none hgoes hcause
    | done value => exact finishes_of_none (Goes.last (r := { r with course }) hgoes _) hcause
    | failed fault =>
      cases fault with
      | agent text | actuation text =>
        exact finishes_last (r := { r with course }) isOpen hgoes hcause

/-- Taking the step of a program is one move. -/
theorem goes_taking (r : Run σ) (settings : Settings) (source : String) (course : Course σ)
    (step : Act.Step) :
    Goes course [(course.now, .stepped step)] (r.taking settings source course step).course := by
  have hlines := goes_trace course (settings.trace.programLines source)
  have hnow := Course.trace_now course (settings.trace.programLines source)
  have hlog := goes_log (rfl : isMove (.stepped step) = true)
    (course.trace (settings.trace.programLines source))
  rw [hnow] at hlog
  exact hlines.trans hlog

/-- An answer that is none raises its error, and one that is a program what becomes of it. -/
theorem finishes_execute (site : Site σ) (settings : Settings) (isOpen : r.act.isComplete = false)
    (before : History) (now : Moment) (given : Answered) :
    Finishes r.act (before ++ [(now, .answered given)]) r.course
      (execute site settings (answerOf given) r) := by
  -- the planner failed, gave a program, or gave the failure itself
  rcases given with error | ⟨source, message⟩ | payload
  · show Finishes _ _ _ (Round.last r (.fail error.payload))
    rw [← Cause.payload_ofError]
    exact finishes_last isOpen (.refl _) (by simp [causeOf?])
  · show Finishes _ _ _ (execute site settings (.program source message) r)
    rw [execute]
    cases hstep : Act.Step.ofMessage message r.course.now with
    -- a record of which no step can be made leaves the act open, and raises nothing
    | error cause =>
      have htraced := goes_trace r.course (settings.trace.programLines source)
      have hnow := Course.trace_now r.course (settings.trace.programLines source)
      rw [record_eq (by exact isOpen)]
      dsimp only
      rw [hnow, hstep]
      exact finishes_of_none htraced (by simp [causeOf?])
    | ok step =>
      rw [record_taking isOpen hstep]
      obtain ⟨moves, hgoes, hreports⟩ := finishes_runProgram
        (r := r.taking settings source r.course step) site isOpen before now r.course.now source message
        step
      refine ⟨_, (goes_taking r settings source r.course step).trans hgoes, ?_⟩
      rw [List.append_assoc] at hreports ⊢
      exact hreports
  · have hlast : Goes r.course [] (Round.last r (.fail payload)).course := (Goes.refl _).last _
    exact finishes_of_none hlast (by simp [causeOf?])

/-- What a round logs once it begins. -/
def settlingMove (settings : Settings) (c : Course σ) : Moment × Course.Event :=
  (c.now, .settling (settleOptions settings.settleTimeout))

/-- The first move of a round is to settle. -/
theorem goes_settling (settings : Settings) (c : Course σ) :
    Goes c [settlingMove settings c] (settlingCourse settings c) :=
  goes_log rfl c

/-- **One round** that begins in time and without a request to cancel. -/
theorem finishes_round (site : Site σ) (settings : Settings) (isInitial : Bool)
    (refusal : Option Refusal) (isOpen : r.act.isComplete = false)
    (inTime : r.act.isPastDeadline r.course.now = false)
    (notCanceled : r.course.cancelRequested = false) :
    Finishes r.act [settlingMove settings r.course] (settlingCourse settings r.course)
      (round site settings isInitial refusal r) := by
  rw [round, inTime, if_neg Bool.false_ne_true, notCanceled, if_neg Bool.false_ne_true]
  rcases hplan : plan site settings isInitial refusal r with ⟨answer, course⟩
  obtain ⟨asking, asked, hgoes, hasking, hgives⟩ := plan_moves hplan
  cases hasking with
  | cutShort observing | planning observing =>
    -- the time was used up, which raises nothing
    obtain ⟨rfl, -⟩ := hgives
    have hcourse : (timeOut { r with course }).course = course := course_timeOut _
    rw [← hcourse] at hgoes
    refine finishes_of_none hgoes ?_
    cases observing <;> simp [causeOf?, settlingMove]
  | @refused before refused observing =>
    cases hgives
    show Finishes _ _ _
      (Round.last { r with course } (.fail (Cause.refused refused.message).payload))
    refine finishes_last (r := { r with course }) isOpen hgoes ?_
    cases observing <;> simp [causeOf?]
  | @answered before observation t now observing given =>
    obtain ⟨rfl, rfl⟩ := hgives
    obtain ⟨moves, hgoes', hreports⟩ := finishes_execute (r := { r with course }) site settings isOpen
      (settlingMove settings r.course :: before ++
        [(t, .planning (requestOf r.act isInitial refusal observation).text)]) course.now given
    refine ⟨_, hgoes.trans hgoes', ?_⟩
    simpa [List.append_assoc] using hreports

theorem movesOf_reverse (history : History) : movesOf history.reverse = (movesOf history).reverse :=
  List.filter_reverse

/-- The moves among the events that a part of a run adds to the log, which has the latest first. -/
theorem movesOf_added {c d : Course σ} {moves added : History} (goes : Goes c moves d)
    (events : d.events = added ++ c.events) : movesOf added = moves.reverse := by
  obtain ⟨history, hevents, rfl, -⟩ := goes
  rw [events] at hevents
  rw [List.append_cancel_right hevents, movesOf_reverse]

/-- **A round that raises a cause** is the last, and ends its act with the payload of the cause. -/
theorem round_reports (isOpen : r.act.isComplete = false) {isInitial : Bool} {refusal : Option Refusal}
    {added : History}
    (events : (round site settings isInitial refusal r).course.events = added ++ r.course.events)
    {cause : Cause} (ends : causeOf? (movesOf added) = some cause) :
    ∃ r', round site settings isInitial refusal r = .over none r' ∧
      r'.act.result = some (.failed cause.payload) ∧ r'.act.timedOut = r.act.timedOut := by
  -- a round that does not begin makes no moves, and so raises nothing
  have hmoves (still : movesOf added = []) : False := by
    rw [still] at ends
    cases ends
  cases hpast : r.act.isPastDeadline r.course.now with
  | true =>
    rw [round, hpast, if_pos rfl, course_timeOut] at events
    exact (hmoves (movesOf_added (.refl r.course) events)).elim
  | false =>
    cases hcancel : r.course.cancelRequested with
    | true =>
      have hlines := goes_trace r.course.resetCancel [settings.trace.line "Terminating agent workflow"]
      rw [round, hpast, if_neg Bool.false_ne_true, hcancel, if_pos rfl, course_last] at events
      exact (hmoves (movesOf_added hlines events)).elim
    | false =>
      obtain ⟨moves, hgoes, hreports⟩ :=
        finishes_round site settings isInitial refusal isOpen hpast hcancel
      rw [movesOf_added ((goes_settling settings r.course).trans hgoes) events] at ends
      exact hreports cause ends

/-! ## The whole way of a cause -/

/-- The causes that a dispatch fails its act for: the moves of a round it comes to end with one, or it
comes to the end of the steps. -/
inductive Raised (site : Site σ) (settings : Settings) (act : Act) (c : Course σ) : Cause → Prop where
  | inRound {n : Nat} {isInitial : Bool} {refusal : Option Refusal} {r : Run σ} {added : History}
      {cause : Cause} (comes : Comes site settings act c (n + 1) isInitial refusal r)
      (events : (round site settings isInitial refusal r).course.events = added ++ r.course.events)
      (ends : causeOf? (movesOf added) = some cause) :
      Raised site settings act c cause
  | stepsUsedUp {isInitial : Bool} {refusal : Option Refusal} {r : Run σ}
      (comes : Comes site settings act c 0 isInitial refusal r) :
      Raised site settings act c .stepsUsedUp

variable {act : Act} {c : Course σ}

/-- A program that throws raises what it throws, once the actuator let it. -/
theorem raised_of_throws {n : Nat} {isInitial : Bool} {refusal : Option Refusal}
    (comes : Comes site settings act c (n + 1) isInitial refusal r)
    (isOpen : r.act.isComplete = false) {source text : String} {course : Course σ}
    (receives : Receives site settings isInitial refusal r source course)
    (parsed : Program.parse source = .ok ⟨none, .throws text⟩)
    (lets : ∀ world, ∃ value, (site.throws text world).ended.answer = .ok value) :
    Raised site settings act c (.thrown text) := by
  obtain ⟨step, hround⟩ := round_of_receives isOpen receives
  let taken := r.taking settings source course step
  obtain ⟨record, hplan, -⟩ := receives.answered
  obtain ⟨asking, -, hasked, -, -⟩ := plan_moves hplan
  obtain ⟨u, hacted⟩ := perform_moves site (.throws text) taken.course
  obtain ⟨value, hvalue⟩ := lets (taken.course.log (.acting (.throws text))).world
  have hanswer := (perform_answer site (.throws text) taken.course).trans hvalue
  rcases hperformed : (actuator site).perform (.throws text) taken.course with ⟨answer, d⟩
  rw [hperformed] at hacted hanswer
  cases hanswer
  have hcourse : (round site settings isInitial refusal r).course = d := by
    rw [hround, runProgram, Program.interpret, parsed]
    dsimp only
    rw [Program.run, Program.runAction, hperformed]
    exact course_last _ _
  -- the action is the last of the moves of the round
  have hwhole := (((goes_settling settings r.course).trans hasked).trans
    (goes_taking r settings source course step)).trans hacted
  rw [← hcourse] at hwhole
  obtain ⟨history, hevents, hmoves, -⟩ := hwhole
  refine .inRound comes hevents ?_
  rw [movesOf_reverse, hmoves, List.reverse_append]
  rfl

/-- A raised cause ends an open act in time, with its payload. -/
theorem rounds_of_raised (isOpen : act.isComplete = false) {cause : Cause}
    (raised : Raised site settings act c cause) :
    ∃ r', rounds site settings act.request.maxSteps true none ⟨act, c.resetCancel⟩ = (none, r') ∧
      r'.act.result = some (.failed cause.payload) ∧ r'.act.timedOut = act.timedOut := by
  cases raised with
  | inRound comes events ends =>
    obtain ⟨steps, hcontinued⟩ := continued_of_comes comes
    obtain ⟨r', hround, hresult, htimedOut⟩ :=
      round_reports (hcontinued.isComplete.trans isOpen) events ends
    refine ⟨r', ?_, hresult, htimedOut.trans hcontinued.timedOut⟩
    rw [rounds_of_comes comes, rounds, hround]
  -- all rounds went by, and the act is ended with that cause
  | @stepsUsedUp _ _ r comes =>
    obtain ⟨steps, hcontinued⟩ := continued_of_comes comes
    have hopen : r.act.isComplete = false := hcontinued.isComplete.trans isOpen
    rw [rounds_of_comes comes, rounds, exhaust, hopen, if_neg Bool.false_ne_true, Run.change,
      Act.apply_of_open hopen]
    exact ⟨_, rfl, rfl, hcontinued.timedOut⟩

/-- The act comes to what the payload of the cause is classified as. -/
theorem dispatch_of_raised (isOpen : act.isComplete = false) (inTime : act.timedOut = false)
    {cause : Cause} (raised : Raised site settings act c cause) :
    ∃ metadata, (dispatch site settings act c).1 =
      .error (Act.classify cause.payload false metadata settings.service) := by
  obtain ⟨r', hrounds, hresult, htimedOut⟩ := rounds_of_raised isOpen raised
  refine ⟨r'.act.metadata, ?_⟩
  rw [dispatch, hrounds]
  show r'.act.outcome settings.service = _
  rw [Act.outcome, hresult]
  dsimp only
  rw [htimedOut, inTime]

/-- **The way of a cause.** An open act that was not marked as out of time, and that a dispatch fails for
a cause, comes to a failure of the kind of that cause, which tells its text, if it is to tell one and it
is not empty. The one exception is a program that throws the text of a cancellation: the act comes to a
cancellation, though nobody asked to cancel. -/
theorem dispatch_raised (isOpen : act.isComplete = false) (inTime : act.timedOut = false)
    {cause : Cause} (raised : Raised site settings act c cause) :
    ∃ failure, (dispatch site settings act c).1 = .error failure ∧
      (cause ≠ .thrown "Canceled." →
        failure.kind = cause.kind ∧
          ∀ text, cause.text? = some text → text ≠ "" → failure.message = text) ∧
      (cause = .thrown "Canceled." → failure.kind = .canceled) := by
  obtain ⟨metadata, hdispatch⟩ := dispatch_of_raised isOpen inTime raised
  have hkind := Cause.classify_payload_kind metadata settings.service cause
  refine ⟨_, hdispatch, fun plain => ⟨?_, fun text tells nonempty => ?_⟩, fun same => ?_⟩
  · rw [hkind, if_neg plain]
  · exact Cause.classify_payload_message metadata settings.service plain tells nonempty
  · rw [hkind, if_pos same]

end

namespace Sample

/-- The site whose planner always gives a program that throws a text. -/
def thrower (text : String) : Site Unit :=
  site (String.ofList (Program.Statement.throws text).write) record

/-- The first round of a dispatch, in which the text is thrown. -/
theorem raised_thrower (text : String) :
    Raised (thrower text) settings act (.start ()) (.thrown text) := by
  let start : Run Unit := ⟨act, (Course.start ()).resetCancel⟩
  have receives : Receives (thrower text) settings true none start
      (String.ofList (Program.Statement.throws text).write)
      (plan (thrower text) settings true none start).2 :=
    ⟨rfl, rfl, record, rfl, ofMessage_record⟩
  exact raised_of_throws .first rfl receives (Program.parse_throws text) fun _ => ⟨.null, rfl⟩

/-- What is thrown is reported, as a failure that the agent declared. -/
theorem noWool_reported :
    act.isComplete = false ∧ act.timedOut = false ∧
      Raised (thrower "No wool.") settings act (.start ()) (.thrown "No wool.") ∧
      ∃ failure, (dispatch (thrower "No wool.") settings act (.start ())).1 = .error failure ∧
        failure.kind = .agent ∧ failure.message = "No wool." := by
  have raised := raised_thrower "No wool."
  obtain ⟨failure, hdispatch, hplain, -⟩ :=
    dispatch_raised (rfl : act.isComplete = false) rfl raised
  obtain ⟨hkind, hmessage⟩ := hplain (by decide)
  exact ⟨rfl, rfl, raised, failure, hdispatch, hkind, hmessage "No wool." rfl (by decide)⟩

/-- Only the text of a cancellation is not: nobody asked to cancel, but a cancellation is reported. -/
theorem canceled_reported :
    Raised (thrower "Canceled.") settings act (.start ()) (.thrown "Canceled.") ∧
      ∃ failure, (dispatch (thrower "Canceled.") settings act (.start ())).1 = .error failure ∧
        failure.kind ≠ (Cause.thrown "Canceled.").kind ∧ failure.kind = .canceled := by
  have raised := raised_thrower "Canceled."
  obtain ⟨metadata, hdispatch⟩ := dispatch_of_raised (rfl : act.isComplete = false) rfl raised
  have hkind := Cause.classify_payload_kind metadata settings.service (.thrown "Canceled.")
  rw [if_pos rfl] at hkind
  exact ⟨raised, _, hdispatch, by rw [hkind]; decide, hkind⟩

end Sample

end BrowserAct.Dispatch.Planned
