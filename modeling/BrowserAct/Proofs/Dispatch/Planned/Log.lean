import BrowserAct.Proofs.Course.Extends
import BrowserAct.Proofs.Dispatch.Planned.Ending

/-!
# What a dispatch by planning adds to the log

All that is logged while an act is carried out belongs to that act: no other act is dispatched.

* **`round_inner`** is one round, **`dispatch_inner`** a whole dispatch.
-/

namespace BrowserAct.Dispatch.Planned

open Act (StateError)
open Course (Extends)
open Course.Event (IsInner)
open Program (Refusal)

variable {σ α : Type} {site : Site σ} {settings : Settings}

/-! ## Moves of the world -/

theorem inner_log {event : Course.Event} (inner : IsInner event) (c : Course σ) :
    Extends IsInner c (c.log event) :=
  Course.extends_log inner c

theorem inner_trace (c : Course σ) (lines : List String) : Extends IsInner c (c.trace lines) :=
  Course.extends_trace (fun _ => ⟨rfl, rfl⟩) c lines

/-- What a party does while it is waited for is inner too. -/
theorem inner_awaitUntil {c d : Course σ} {deadline : Option Moment} {p : Pending σ α}
    {answer : Option α} (waited : c.awaitUntil deadline p = (answer, d)) :
    Extends IsInner c d := by
  have hinner := Course.extends_awaitUntil (P := IsInner) ⟨rfl, rfl⟩ c deadline p
  rw [waited] at hinner
  exact hinner

/-- Every action that a program takes is logged, and no more. -/
theorem inner_interpret (site : Site σ) (source : String) (c : Course σ) :
    Extends IsInner c (Program.interpret (actuator site) source c).2 := by
  refine Program.interpret_preserves (P := Extends IsInner c) ?_ source (.refl c)
  intro action d before
  have hacting : Extends IsInner d (d.log (.acting action)) := inner_log ⟨rfl, rfl⟩ d
  rw [perform_actuator]
  exact before.trans ((hacting.trans (Course.extends_await ⟨rfl, rfl⟩ _ _)).trans
    (inner_log ⟨rfl, rfl⟩ _))

/-- Looking at the page logs inner events only. -/
theorem inner_observe {deadline : Option Moment} {c d : Course σ}
    {answer : Option (Except Refusal Planner.Observation)}
    (observed : observe site settings deadline c = (answer, d)) : Extends IsInner c d := by
  have hsettling : Extends IsInner c (c.log (.settling (settleOptions settings.settleTimeout))) :=
    inner_log ⟨rfl, rfl⟩ c
  rw [observe] at observed
  dsimp only at observed
  split at observed <;> rename_i waited <;> have hwaited := hsettling.trans (inner_awaitUntil waited)
  · cases observed
    exact hwaited
  · cases observed
    exact hwaited.trans (inner_log ⟨rfl, rfl⟩ _)
  -- the page has settled and is looked at
  · rename_i value settled
    have hsettled : Extends IsInner c (settled.log (.settled (.ok value))) :=
      hwaited.trans (inner_log ⟨rfl, rfl⟩ _)
    have hobserving : Extends IsInner c ((settled.log (.settled (.ok value))).log .observing) :=
      hsettled.trans (inner_log ⟨rfl, rfl⟩ _)
    split at observed <;> rename_i watched <;>
      have hwatched := hobserving.trans (inner_awaitUntil watched) <;> cases observed
    · exact hwatched
    · exact hwatched.trans (inner_log ⟨rfl, rfl⟩ _)

theorem inner_plan {isInitial : Bool} {refusal : Option Refusal} {r : Run σ}
    {answer : Option Planner.Answer} {c : Course σ}
    (planned : plan site settings isInitial refusal r = (answer, c)) :
    Extends IsInner r.course c := by
  rw [plan] at planned
  split at planned <;> rename_i course observed <;> have hobserved := inner_observe observed
  · cases planned
    exact hobserved
  · cases planned
    exact hobserved
  · dsimp only at planned
    -- the page was seen, and the request is logged behind its line
    have hasking (request : String) : Extends IsInner r.course
        ((course.trace [settings.trace.line "..."]).log (.planning request)) :=
      (hobserved.trans (inner_trace course _)).trans (inner_log ⟨rfl, rfl⟩ _)
    split at planned <;> rename_i asked
    · cases planned
      exact (hasking _).trans (inner_awaitUntil asked)
    · cases planned
      exact ((hasking _).trans (inner_awaitUntil asked)).trans (inner_log ⟨rfl, rfl⟩ _)

/-! ## Rounds -/

/-- A change of the act is not logged, whether or not it is refused. -/
theorem course_last (r : Run σ) (operation : Act.Operation) :
    (Round.last r operation).course = r.course := by
  rw [Round.last, Run.change]
  cases r.act.apply operation r.course.now <;> rfl

/-- Ending an act at its deadline logs nothing. -/
theorem course_timeOut (r : Run σ) : (timeOut r).course = r.course := by
  rw [timeOut, Run.change]
  cases r.act.apply .markTimedOut r.course.now with
  | error cause => rfl
  | ok act => exact course_last { r with act } _

/-- Recording a step logs the step. -/
theorem inner_record {r r' : Run σ} {message : Json} (recorded : record r message = .ok r') :
    Extends IsInner r.course r'.course := by
  rw [record] at recorded
  cases hstep : Act.Step.ofMessage message r.course.now with
  | error cause =>
    rw [hstep] at recorded
    cases recorded
  | ok step =>
    rw [hstep] at recorded
    cases hadded : r.act.apply (.addStep step) r.course.now with
    | error cause =>
      simp only [bind, Except.bind, Run.change, hadded] at recorded
      cases recorded
    | ok act =>
      simp only [bind, Except.bind, Run.change, hadded] at recorded
      cases recorded
      exact inner_log ⟨rfl, rfl⟩ r.course

/-- Running a program logs its calls. -/
theorem inner_runProgram (source : String) (r : Run σ) :
    Extends IsInner r.course (runProgram site source r).course := by
  have hinner := inner_interpret site source r.course
  rw [runProgram]
  rcases hran : Program.interpret (actuator site) source r.course with ⟨result, course⟩
  rw [hran] at hinner
  have hlast (operation : Act.Operation) :
      Extends IsInner r.course (Round.last { r with course } operation).course := by
    rw [course_last]
    exact hinner
  rcases result with refused | outcome
  · exact hlast _
  · cases outcome with
    | «continue» | redirect message => exact hinner
    | done value | failed fault => exact hlast _

theorem inner_execute (answer : Planner.Answer) (r : Run σ) :
    Extends IsInner r.course (execute site settings answer r).course := by
  cases answer with
  | failed payload =>
    rw [execute, course_last]
    exact .refl _
  | program source message =>
    have htraced := inner_trace r.course (settings.trace.programLines source)
    rw [execute]
    split <;> rename_i recorded
    · exact htraced
    · exact (htraced.trans (inner_record recorded)).trans (inner_runProgram source _)

/-- **One round.** -/
theorem round_inner (site : Site σ) (settings : Settings) (isInitial : Bool)
    (refusal : Option Refusal) (r : Run σ) :
    Extends IsInner r.course (round site settings isInitial refusal r).course := by
  rw [round]
  -- a round is ended before it begins, by the deadline or by a request, or it asks the planner
  split
  · rw [course_timeOut]
    exact .refl _
  split
  · rw [course_last]
    exact inner_trace r.course.resetCancel _
  split
  · rename_i planned
    rw [course_timeOut]
    exact inner_plan planned
  · rename_i planned
    exact (inner_plan planned).trans (inner_execute _ _)

theorem course_exhaust (r : Run σ) : (exhaust r).2.course = r.course := by
  rw [exhaust]
  split
  · rfl
  · rw [Run.change]
    cases r.act.apply _ r.course.now <;> rfl

/-- All rounds. The induction is on the number of steps that are left. -/
theorem rounds_inner (site : Site σ) (settings : Settings) (n : Nat) (isInitial : Bool)
    (refusal : Option Refusal) (r : Run σ) :
    Extends IsInner r.course (rounds site settings n isInitial refusal r).2.course := by
  induction n generalizing isInitial refusal r with
  | zero =>
    rw [rounds, course_exhaust]
    exact .refl _
  | succ n ih =>
    have hround := round_inner site settings isInitial refusal r
    rw [rounds]
    split <;> rename_i heq <;> rw [heq] at hround
    · exact hround.trans (ih _ _ _)
    · exact hround

/-- **A whole dispatch.** -/
theorem dispatch_inner (site : Site σ) (settings : Settings) (act : Act) (c : Course σ) :
    Extends IsInner c (dispatch site settings act c).2.course :=
  rounds_inner site settings act.request.maxSteps true none ⟨act, c.resetCancel⟩

end BrowserAct.Dispatch.Planned
