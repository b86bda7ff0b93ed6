import BrowserAct.Proofs.Dispatch.Planned.Rounds
import BrowserAct.Proofs.Program.Returned
import BrowserAct.Session.Answer

/-!
# Values that programs return

A value that a program returns ends the act. It becomes the text of the response, and where an answer of
some form was asked for, that text is read as JSON again.

* **`Comes`** are the rounds that a dispatch comes to, **`rounds_of_comes`** says that the dispatch goes on
  from each of them.
* **`round_returned`** is the round that receives a program which returns a value.
* **`form_withForm`** says what is found out about a response.
* **`dispatch_returned`** is the whole way of a value, from the program to what is found out about it.
-/

namespace BrowserAct

/-! ## The form of a response -/

namespace Act.Result

/-- What is found out about the response of a result as JSON: its value, whether it is JSON, and whether
its value is accepted. -/
def form (r : Act.Result) : Option Json × Option Bool × Option Bool :=
  (r.parsed, r.validJson, r.matchesSchema)

/-- What there is to find out about a text. -/
def formOf (accepts : Json → Bool) (text : String) : Option Json × Option Bool × Option Bool :=
  match Json.parse? text with
  | some value => (some value, some true, some (accepts value))
  | none => (none, some false, some false)

/-- What is found out about a response is what there is to find out about its text. -/
theorem form_withForm {r : Act.Result} {text : String} (response : r.response = some text)
    (accepts : Json → Bool) : (r.withForm accepts).form = formOf accepts text := by
  have hread : (r.response.filter (· != "")).bind Json.parse? = Json.parse? text := by
    rw [response]
    by_cases hempty : text = ""
    · subst hempty
      rfl
    · simp [Option.filter, hempty]
  rw [withForm, hread, formOf]
  cases Json.parse? text <;> rfl

end Act.Result

namespace Dispatch.Planned

open Program (Refusal Returning)

section

variable {σ : Type} {site : Site σ} {settings : Settings} {act : Act} {c : Course σ}

/-! ## The rounds of a dispatch -/

/-- The rounds that a dispatch comes to: how many more there may be, whether it is the first, the refusal
to tell the planner of, and the run at its start. -/
inductive Comes (site : Site σ) (settings : Settings) (act : Act) (c : Course σ) :
    Nat → Bool → Option Refusal → Run σ → Prop where
  | first : Comes site settings act c act.request.maxSteps true none ⟨act, c.resetCancel⟩
  | next {n : Nat} {isInitial : Bool} {refusal refusal' : Option Refusal} {r r' : Run σ}
      (comes : Comes site settings act c (n + 1) isInitial refusal r)
      (follows : round site settings isInitial refusal r = .next refusal' r') :
      Comes site settings act c n false refusal' r'

variable {n : Nat} {isInitial : Bool} {refusal : Option Refusal} {r : Run σ}

/-- A dispatch goes on from each round it comes to. -/
theorem rounds_of_comes (comes : Comes site settings act c n isInitial refusal r) :
    rounds site settings act.request.maxSteps true none ⟨act, c.resetCancel⟩ =
      rounds site settings n isInitial refusal r := by
  induction comes with
  | first => rfl
  | next _ follows ih => rw [ih, rounds, follows]

/-- A round that ends its act is not followed by another. -/
theorem last_ne_next (r : Run σ) (operation : Act.Operation) (refusal' : Option Refusal) (r' : Run σ) :
    Round.last r operation ≠ .next refusal' r' := by
  rw [Round.last]
  cases r.change operation <;> simp

theorem timeOut_ne_next (r : Run σ) (refusal' : Option Refusal) (r' : Run σ) :
    timeOut r ≠ .next refusal' r' := by
  rw [timeOut]
  cases r.change .markTimedOut with
  | error e => simp
  | ok marked => exact last_ne_next marked _ refusal' r'

/-- A round that is followed by another leaves the act as it was, but for its steps. -/
theorem continued_of_follows {steps : List Act.Step} (continued : Continued act steps r.act)
    {refusal' : Option Refusal} {r' : Run σ}
    (follows : round site settings isInitial refusal r = .next refusal' r') :
    ∃ steps', Continued act steps' r'.act := by
  -- a round that is followed by another was in time and not canceled
  cases hpast : act.isPastDeadline r.course.now with
  | true =>
    rw [round, continued.isPastDeadline, hpast, if_pos rfl] at follows
    exact (timeOut_ne_next _ _ _ follows).elim
  | false =>
    cases hcancel : r.course.cancelRequested with
    | true =>
      rw [round, continued.isPastDeadline, hpast, if_neg Bool.false_ne_true, hcancel, if_pos rfl]
        at follows
      exact (last_ne_next _ _ _ _ follows).elim
    | false =>
      obtain ⟨moves, turn, -, -, htakes⟩ :=
        round_moves site settings isInitial refusal continued hpast hcancel
      rw [follows] at htakes
      cases turn with
      | ends => cases htakes
      | follows => exact ⟨_, htakes.2⟩

/-- Whatever rounds went before, the act that comes goes on from the one that was dispatched. -/
theorem continued_of_comes (comes : Comes site settings act c n isInitial refusal r) :
    ∃ steps, Continued act steps r.act := by
  induction comes with
  | first => exact ⟨[], .refl act⟩
  | next _ follows ih =>
    obtain ⟨steps, hcontinued⟩ := ih
    exact continued_of_follows hcontinued follows

/-! ## A program that returns a value -/

/-- A round receives a program: it begins in time and without a request to cancel, the planner answers in
time, and the record that comes with the program makes a step. -/
structure Receives (site : Site σ) (settings : Settings) (isInitial : Bool) (refusal : Option Refusal)
    (r : Run σ) (source : String) (course : Course σ) : Prop where
  inTime : r.act.isPastDeadline r.course.now = false
  notCanceled : r.course.cancelRequested = false
  answered : ∃ record, plan site settings isInitial refusal r = (some (.program source record), course) ∧
    ∃ step, Act.Step.ofMessage record course.now = .ok step

/-- The act once it took the step of a program, and the course of the round then. -/
def Run.taking (r : Run σ) (settings : Settings) (source : String) (course : Course σ)
    (step : Act.Step) : Run σ where
  act := r.act.perform (.addStep step) course.now
  course := (course.trace (settings.trace.programLines source)).log (.stepped step)

/-- A record of which a step can be made is taken in with that step. -/
theorem record_taking {source : String} {course : Course σ} {message : Json} {step : Act.Step}
    (isOpen : r.act.isComplete = false) (makes : Act.Step.ofMessage message course.now = .ok step) :
    record { r with course := course.trace (settings.trace.programLines source) } message =
      .ok (r.taking settings source course step) := by
  have hnow := Course.trace_now course (settings.trace.programLines source)
  rw [record_eq (by exact isOpen)]
  dsimp only
  rw [hnow, makes]
  rfl

/-- The round goes on with the program. -/
theorem round_of_receives {source : String} {course : Course σ} (isOpen : r.act.isComplete = false)
    (receives : Receives site settings isInitial refusal r source course) :
    ∃ step, round site settings isInitial refusal r =
      runProgram site source (r.taking settings source course step) := by
  obtain ⟨record, hplan, step, hstep⟩ := receives.answered
  refine ⟨step, ?_⟩
  rw [round, receives.inTime, if_neg Bool.false_ne_true, receives.notCanceled,
    if_neg Bool.false_ne_true, hplan]
  dsimp only
  rw [execute]
  dsimp only
  rw [record_taking isOpen hstep]

/-- A site that hands back each returned value, and nothing where none is returned. -/
def HandsBack (site : Site σ) : Prop :=
  ∀ value world, (site.returns value world).ended.answer = .ok (value.getD .null)

/-- A site that does not refuse a thought in some state of its world, if there is a thought. -/
def Thinks (site : Site σ) (thought : Option String) (world : σ) : Prop :=
  ∀ text ∈ thought, ∃ value, (site.think text world).ended.answer = .ok value

/-- The answer to a call is that of the site, whatever is logged around it. -/
theorem perform_answer (site : Site σ) (action : Program.Action) (c : Course σ) :
    ((actuator site).perform action c).1 = (site.perform action c.world).ended.answer := by
  rw [perform_actuator]
  rfl

/-- A returned value is handed back, once the thought before it was not refused. -/
theorem run_returned (handsBack : HandsBack site) {thought : Option String} {v : Json} {c : Course σ}
    (thinks : Thinks site thought c.world) :
    (Program.run (actuator site) ⟨thought, .returns (some v)⟩ c).1 = .done v := by
  have haction (c : Course σ) :
      (Program.runAction (actuator site) (.returns (some v)) c).1 = .done v := by
    have hanswer := (perform_answer site (.returns (some v)) c).trans (handsBack (some v) c.world)
    rw [Program.runAction]
    rcases hperformed : (actuator site).perform (.returns (some v)) c with ⟨answer, d⟩
    rw [hperformed] at hanswer
    cases hanswer
    rfl
  -- a thought comes first, and its answer is not the result
  cases thought with
  | none => exact haction c
  | some text =>
    obtain ⟨value, hvalue⟩ := thinks text rfl
    have hanswer := (perform_answer site (.think text) c).trans hvalue
    rw [Program.run]
    dsimp only
    rcases hthink : (actuator site).think text c with ⟨answer, d⟩
    rw [show (actuator site).perform (.think text) c = (answer, d) from hthink] at hanswer
    cases hanswer
    exact haction d

/-- **The round that receives such a program** is the last, and completes an open act with the response of
the value. -/
theorem round_returned {source : String} {course : Course σ} {thought : Option String} {v : Json}
    (isOpen : r.act.isComplete = false)
    (receives : Receives site settings isInitial refusal r source course)
    (parsed : Program.parse source = .ok ⟨thought, .returns (some v)⟩)
    (handsBack : HandsBack site) (thinks : Thinks site thought course.world) :
    ∃ r', round site settings isInitial refusal r = .over none r' ∧
      r'.act.result = some (.succeeded (responseOf v)) := by
  obtain ⟨step, hround⟩ := round_of_receives isOpen receives
  let taken := r.taking settings source course step
  have hworld : taken.course.world = course.world := Course.world_trace course _
  have htaken : taken.act.isComplete = false := isOpen
  -- the program runs in the world that the round left, and returns the value
  have hran : Program.interpret (actuator site) source taken.course =
      (.ok (.done v),
        (Program.run (actuator site) ⟨thought, .returns (some v)⟩ taken.course).2) := by
    have hdone := run_returned (v := v) handsBack (hworld.symm ▸ thinks)
    rw [Program.interpret, parsed]
    dsimp only
    rw [hdone]
  rw [hround, runProgram, hran]
  dsimp only
  rw [Round.last, Run.change, Act.apply_of_open htaken]
  exact ⟨_, rfl, rfl⟩

/-- **The way of a returned value.** An open act whose dispatch comes to a round that receives a program
which returns a value succeeds with the response of that value. What is found out about the response is,
for a text, what there is to find out about that very text, for nothing that it is no JSON, and for any
other value that it is that value. -/
theorem dispatch_returned (isOpen : act.isComplete = false)
    (comes : Comes site settings act c (n + 1) isInitial refusal r) {source : String}
    {course : Course σ} (receives : Receives site settings isInitial refusal r source course)
    {v : Json} (standard : v.Standard) (within : v.depth ≤ Json.nestingLimit)
    {thought : Option String} (returning : Returning v thought source.toList)
    (handsBack : HandsBack site) (thinks : Thinks site thought course.world) :
    ∃ result : Act.Result, (dispatch site settings act c).1 = .ok result ∧
      result.response = some (responseOf v) ∧
      ∀ accepts : Json → Bool,
        (v = .null → (result.withForm accepts).form = (none, some false, some false)) ∧
        (∀ text, v = .string text → (result.withForm accepts).form = Act.Result.formOf accepts text) ∧
        (v ≠ .null → (∀ text, v ≠ .string text) →
          (result.withForm accepts).form = (some v, some true, some (accepts v))) := by
  -- the act is still open when the program comes in, since the rounds before only add steps
  obtain ⟨steps, hcontinued⟩ := continued_of_comes comes
  have hparsed : Program.parse source = .ok ⟨thought, .returns (some v)⟩ := by
    have hsource := Program.parse_returning standard within returning
    rwa [String.ofList_toList] at hsource
  obtain ⟨r', hround, hresult⟩ := round_returned (hcontinued.isComplete.trans isOpen) receives hparsed
    handsBack thinks
  have hdispatch : (dispatch site settings act c).1 =
      .ok (.of (some (responseOf v)) r'.act.metadata) := by
    rw [dispatch, rounds_of_comes comes, rounds, hround]
    show r'.act.outcome settings.service = _
    rw [Act.outcome, hresult]
  refine ⟨_, hdispatch, rfl, fun accepts => ?_⟩
  have hform := Act.Result.form_withForm (r := .of (some (responseOf v)) r'.act.metadata) rfl accepts
  -- nothing, a text as it stands, or the text of any other value
  refine ⟨?_, ?_, ?_⟩
  · rintro rfl
    exact hform
  · rintro text rfl
    exact hform
  · intro notNull noText
    have hresponse : responseOf v = v.compress := by
      cases v with
      | null => exact (notNull rfl).elim
      | string text => exact (noText text rfl).elim
      | _ => rfl
    rw [hform, hresponse, Act.Result.formOf, Json.parse?_compress_of_standard standard within]

end

namespace Sample

/-- A value with a text in it that looks like the end of a statement. -/
def found : Json :=
  .object [("items", .array [.string "wool\"];", .integer 3])]

/-- A program that returns the value after a thought. -/
def foundProgram : String :=
  String.ofList ((Program.Statement.call "think" ["done; ("]).write ++
    ([';'] ++ ((Program.returned found).write ++ [';'])))

/-- A site on which nothing is done but what has to be handed back. -/
def quietSite : Site Unit :=
  { site foundProgram record with
    returns := fun value _ => .atOnce ⟨.ok (value.getD .null), (), false⟩ }

/-- The program returns what was found, after a thought. -/
theorem returning_foundProgram : Returning found (some "done; (") foundProgram.toList := by
  have hsemicolon : Program.Filling true [';'] := .separator .semicolon .nil
  rw [foundProgram, String.toList_ofList]
  exact Program.returning_written found "done; (" [] hsemicolon hsemicolon

/-- The value comes out of the first round as it was written. -/
theorem found_returned :
    act.isComplete = false ∧ found.Standard ∧ found.depth ≤ Json.nestingLimit ∧
      ∃ result : Act.Result, (dispatch quietSite settings act (.start ())).1 = .ok result ∧
        ∀ accepts, (result.withForm accepts).form = (some found, some true, some (accepts found)) := by
  have hstandard : found.Standard := by
    simp [found, Json.Standard, Json.StandardFields, Json.StandardItems, Json.Fields.Sorted]
  have hwithin : found.depth ≤ Json.nestingLimit := by decide
  -- the first answer of the planner is the program
  have hreceives : Receives quietSite settings true none ⟨act, (Course.start ()).resetCancel⟩
      foundProgram (plan quietSite settings true none ⟨act, (Course.start ()).resetCancel⟩).2 :=
    ⟨rfl, rfl, record, rfl, ofMessage_record⟩
  have hhandsBack : HandsBack quietSite := by
    intro value _
    cases value <;> rfl
  obtain ⟨result, hdispatch, -, hform⟩ := dispatch_returned (rfl : act.isComplete = false) .first
    hreceives hstandard hwithin returning_foundProgram hhandsBack (fun _ _ => ⟨_, rfl⟩)
  refine ⟨rfl, hstandard, hwithin, result, hdispatch, fun accepts => (hform accepts).2.2 ?_ ?_⟩
  · simp [found]
  · simp [found]

end Sample

end Dispatch.Planned

end BrowserAct
