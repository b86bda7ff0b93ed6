import BrowserAct.Proofs.Session.Requests
import Mathlib.Data.ENat.Lattice

/-!
# The attempts of an act

An act that passes all checks is dispatched again and again, each time as a new act and with a pause
before it, until an attempt ends in another way than at a short-term rate limit or no more are left.
A dispatcher can keep a record of what it is asked for, and then the record tells of the attempts.

* **`Dispatcher.recording`** is a dispatcher with such a record, and **`act_recording`** says that nothing
  else depends on it.
* **`Tried`** are the attempts as the loop makes them, and **`attempts_tried`** says that it does.
* **`Carried`** is what a user has to know of them: how many, which, in which order, and what comes of it.
* **`Given`** is what comes of the last outcome: its failure, its result, or the result in the wanted form.
* **`act_attempts`** is about whole acts, those refused included.
-/

namespace BrowserAct

/-- The same course in another world. -/
def Course.within {σ τ : Type} (c : Course σ) (world : τ) : Course τ :=
  ⟨world, c.now, c.cancelRequested, c.events⟩

namespace Session

open Client (isShortTermLimit)

variable {σ : Type}

/-! ## The record -/

/-- An act that was handed to a dispatcher, how far the run had come by then, and what came of it. -/
structure Trial (σ : Type) where
  act : Act
  begun : Course σ
  outcome : Act.Outcome
  ended : Course σ

/-- What a dispatcher is asked for in the course of an act. -/
inductive Call (σ : Type) where
  | dispatch (trial : Trial σ)
  | pause (duration : Duration)

/-- A world with a record of what was asked for, first to last. -/
abbrev Recorded (σ : Type) := σ × List (Call σ)

/-- A course without the record. -/
def plain (c : Course (Recorded σ)) : Course σ :=
  c.within c.world.1

/-- The same dispatcher with a record of the acts it is handed and of the pauses. -/
def Dispatcher.recording (d : Dispatcher σ) : Dispatcher (Recorded σ) where
  dispatch act c :=
    (d.dispatch act (plain c)).map fun (outcome, act', ended) =>
      (outcome, act',
        ended.within (ended.world, c.world.2 ++ [.dispatch ⟨act, plain c, outcome, ended⟩]))
  settle sessionId timeout c :=
    (d.settle sessionId timeout (plain c)).map fun (answer, ended) =>
      (answer, ended.within (ended.world, c.world.2))
  goToUrl url sessionId timeout c :=
    (d.goToUrl url sessionId timeout (plain c)).map fun (answer, ended) =>
      (answer, ended.within (ended.world, c.world.2))
  pause duration world :=
    let r := d.pause duration world.1
    ⟨(), (r.world, world.2 ++ [.pause duration]), r.cancels⟩

namespace State

/-- A session with an empty record. -/
def recording (s : State σ) : State (Recorded σ) :=
  ⟨s.started, s.actCount, s.course.within (s.course.world, [])⟩

def forget (s : State (Recorded σ)) : State σ :=
  ⟨s.started, s.actCount, plain s.course⟩

/-- What was asked for so far. -/
def calls (s : State (Recorded σ)) : List (Call σ) :=
  s.course.world.2

end State

namespace Client

variable {client : Client} {d : Dispatcher σ} {request : Act.Request}

/-- One attempt is one act that the dispatcher is handed. -/
theorem attempt_recording (client : Client) (d : Dispatcher σ) (request : Act.Request)
    (s : State (Recorded σ)) :
    client.attempt d.recording request s =
      (d.dispatch (client.newAct request s.forget) (client.begun request s.forget)).map
        fun (outcome, _, ended) =>
          (outcome, ⟨s.started, s.actCount + 1, ended.within (ended.world, s.calls ++
            [.dispatch ⟨client.newAct request s.forget, client.begun request s.forget, outcome,
              ended⟩])⟩) := by
  show ((d.dispatch (client.newAct request s.forget) (client.begun request s.forget)).map _).bind _ = _
  cases d.dispatch (client.newAct request s.forget) (client.begun request s.forget) <;> rfl

/-- Recording changes nothing in an attempt. -/
theorem forget_attempt (client : Client) (d : Dispatcher σ) (request : Act.Request)
    (s : State (Recorded σ)) :
    (client.attempt d.recording request s).map (fun ended => (ended.1, ended.2.forget)) =
      client.attempt d request s.forget := by
  rw [attempt_recording]
  show _ = (d.dispatch (client.newAct request s.forget) (client.begun request s.forget)).bind _
  cases d.dispatch (client.newAct request s.forget) (client.begun request s.forget) <;> rfl

theorem forget_pause (client : Client) (d : Dispatcher σ) (s : State (Recorded σ)) :
    (client.pause d.recording s).forget = client.pause d s.forget := by
  have hreact (c : Course (Recorded σ)) (r : Reaction σ Unit) (calls : List (Call σ)) :
      plain (c.react (⟨(), (r.world, calls), r.cancels⟩ : Reaction (Recorded σ) Unit)).2 =
        ((plain c).react r).2 := by
    rw [Course.react, Course.react]
    dsimp only
    split <;> rfl
  rw [pause, pause, State.forget]
  exact congrArg (State.mk s.started s.actCount) (hreact _ _ _)

/-- What is recorded of a pause is how long it is. -/
theorem calls_pause (client : Client) (d : Dispatcher σ) (s : State (Recorded σ)) :
    (client.pause d.recording s).calls = s.calls ++ [.pause client.retry.delay] := by
  rw [pause, State.calls, Course.await, Course.react]
  dsimp only
  split <;> rfl

theorem forget_attempts (client : Client) (d : Dispatcher σ) (request : Act.Request) (more : Nat)
    (s : State (Recorded σ)) :
    (client.attempts d.recording request more s).map (fun ended => (ended.1, ended.2.forget)) =
      client.attempts d request more s.forget := by
  induction more generalizing s with
  | zero => exact forget_attempt client d request s
  | succ more ih =>
    rw [attempts, attempts, ← forget_attempt]
    cases client.attempt d.recording request s with
    | none => rfl
    | some ended =>
      obtain ⟨outcome, last⟩ := ended
      rw [Option.map_some]
      dsimp only
      -- whether there is another attempt is told from the outcome, which is the same
      split
      · rw [ih, forget_pause]
      · rfl

/-! ## Acts by their checks -/

section

variable {prompt : String} {options : Options} {s : State σ}

/-- A session that was not started carries out nothing. -/
theorem act_of_notStarted (client : Client) (d : Dispatcher σ) (notStarted : s.started = false) :
    client.act d prompt options s = some (.error .notStarted, s) := by
  rw [act, notStarted]
  rfl

/-- Nor is anything carried out where the input is refused. -/
theorem act_of_refused (d : Dispatcher σ) (started : s.started = true) {cause : InputError}
    (refused : client.prepare prompt options = .error cause) :
    client.act d prompt options s = some (.error (.input cause), s) := by
  rw [act, started, refused]
  rfl

/-- Otherwise the attempts decide, and their outcome is concluded. -/
theorem act_of_prepared (d : Dispatcher σ) (started : s.started = true) {order : Order}
    (prepared : client.prepare prompt options = .ok order) :
    client.act d prompt options s =
      (client.attempts d order.request (client.retry.tries - 1) s).map
        fun ended => (conclude order.schema ended.1, ended.2) := by
  rw [act, started, prepared]
  rfl

end

/-- **Nothing depends on the record.** -/
theorem act_recording (client : Client) (d : Dispatcher σ) (prompt : String) (options : Options)
    (s : State σ) :
    (client.act d.recording prompt options s.recording).map (fun ended => (ended.1, ended.2.forget)) =
      client.act d prompt options s := by
  cases hstarted : s.started with
  | false =>
    have hrecording : s.recording.started = false := hstarted
    rw [act_of_notStarted client d hstarted, act_of_notStarted client d.recording hrecording]
    rfl
  | true =>
    have hrecording : s.recording.started = true := hstarted
    cases hprepare : client.prepare prompt options with
    | error cause =>
      rw [act_of_refused d hstarted hprepare, act_of_refused d.recording hrecording hprepare]
      rfl
    | ok order =>
      -- only the attempts are recorded; preparing the order and concluding do not see the record
      have hattempts := forget_attempts client d order.request (client.retry.tries - 1) s.recording
      rw [act_of_prepared d hstarted hprepare, act_of_prepared d.recording hrecording hprepare]
      show _ = (client.attempts d order.request (client.retry.tries - 1) s.recording.forget).map _
      rw [← hattempts, Option.map_map, Option.map_map]
      rfl

/-! ## The attempts one after the other -/

/-- An act is announced and dispatched: a line of the trace, and then the dispatch. -/
def Announced (client : Client) (request : Act.Request) (before : Course σ) (trial : Trial σ) : Prop :=
  trial.begun = (before.trace [client.trace.line ("act(\"" ++ request.prompt ++ "\")")]).log
    (.dispatched trial.act)

/-- An event that is no line of the trace. -/
def IsSilent (event : Course.Event) : Prop :=
  event.line? = none

/-- A pause between two attempts takes the time it is to take, and nothing is traced in it. -/
def Paused (client : Client) (before after : Course σ) : Prop :=
  after.now = before.now + client.retry.delay ∧ Course.Extends IsSilent before after

/-- The attempts that are made, with so many more left after the first. -/
inductive Tried (client : Client) (request : Act.Request) : Nat → State σ → List (Trial σ) → Prop where
  | last {more : Nat} {s : State σ} {trial : Trial σ} (fresh : trial.act = client.newAct request s)
      (announced : Announced client request s.course trial)
      (ends : more = 0 ∨ isShortTermLimit trial.outcome = false) : Tried client request more s [trial]
  | again {more : Nat} {s next : State σ} {trial : Trial σ} {later : List (Trial σ)}
      (fresh : trial.act = client.newAct request s)
      (announced : Announced client request s.course trial)
      (limited : isShortTermLimit trial.outcome = true)
      (paused : Paused client trial.ended next.course) (counted : next.actCount = s.actCount + 1)
      (tried : Tried client request more next later) :
      Tried client request (more + 1) s (trial :: later)

/-- A pause takes its time, and nothing else happens in it. -/
theorem paused_pause (client : Client) (d : Dispatcher σ) (s : State σ) :
    Paused client s.course (client.pause d s).course := by
  constructor
  · simp [pause]
  · have hpaused : IsSilent (.paused client.retry.delay) := rfl
    have hrequest : IsSilent .cancelRequested := rfl
    exact (Course.extends_log hpaused s.course).trans (Course.extends_await hrequest _ _)

/-- What came of the attempts: the outcome of the last one, at its end. -/
def Ends (s : State σ) (trials : List (Trial σ)) (outcome : Act.Outcome) (last : State σ) : Prop :=
  ∃ trial ∈ trials.getLast?, outcome = trial.outcome ∧
    last = ⟨s.started, s.actCount + trials.length, trial.ended⟩

/-- **The loop.** The record of attempts that end is one dispatch after the other with a pause between
two. The induction is on the number of attempts that are left. -/
theorem attempts_tried {more : Nat} {s last : State (Recorded σ)} {outcome : Act.Outcome}
    (ended : client.attempts d.recording request more s = some (outcome, last)) :
    ∃ trials, Tried client request more s.forget trials ∧
      last.calls = s.calls ++ (trials.map .dispatch).intersperse (.pause client.retry.delay) ∧
      Ends s.forget trials outcome last.forget := by
  -- one attempt is one trial, and its record is that one call
  have hattempt {s last : State (Recorded σ)} {outcome : Act.Outcome}
      (attempted : client.attempt d.recording request s = some (outcome, last)) :
      ∃ trial, trial.act = client.newAct request s.forget ∧
        Announced client request s.forget.course trial ∧
        last.calls = s.calls ++ [.dispatch trial] ∧ outcome = trial.outcome ∧
        last.forget = ⟨s.started, s.actCount + 1, trial.ended⟩ := by
    rw [attempt_recording] at attempted
    obtain ⟨⟨came, act', course⟩, -, hlast⟩ := Option.map_eq_some_iff.mp attempted
    cases hlast
    exact ⟨⟨client.newAct request s.forget, client.begun request s.forget, _, course⟩, rfl, rfl, rfl,
      rfl, rfl⟩
  induction more generalizing s with
  | zero =>
    obtain ⟨trial, hact, hannounced, hcalls, rfl, hlast⟩ := hattempt ended
    exact ⟨[trial], .last hact hannounced (.inl rfl), hcalls, trial, rfl, rfl, hlast⟩
  | succ more ih =>
    rw [attempts] at ended
    cases hfirst : client.attempt d.recording request s with
    | none =>
      rw [hfirst] at ended
      cases ended
    | some came =>
      obtain ⟨first, middle⟩ := came
      obtain ⟨trial, hact, hannounced, hcalls, rfl, hmiddle⟩ := hattempt hfirst
      rw [hfirst] at ended
      dsimp only at ended
      split at ended <;> rename_i hlimited
      -- the other attempts start from the state after the pause, which is the same without the record
      · obtain ⟨later, htried, hlater, other, hother, hsame, hends⟩ := ih ended
        have hpaused := paused_pause client d middle.forget
        rw [forget_pause] at htried hends
        rw [hmiddle] at hpaused htried hends
        refine ⟨trial :: later, .again hact hannounced hlimited hpaused rfl htried, ?_, other, ?_,
          hsame, ?_⟩
        · rw [hlater, calls_pause, hcalls, List.append_assoc, List.append_assoc]
          cases later with
          | nil => cases hother
          | cons => rfl
        · cases later with
          | nil => cases hother
          | cons => rwa [Option.mem_def, List.getLast?_cons_cons]
        · rw [hends, List.length_cons, Nat.add_comm later.length 1, ← Nat.add_assoc]
          rfl
      · cases ended
        exact ⟨[trial], .last hact hannounced (.inr (by simpa using hlimited)), hcalls, trial, rfl, rfl,
          hmiddle⟩

/-! ## What is known of the attempts -/

namespace Tried

variable {more : Nat} {s : State σ} {trials : List (Trial σ)}

theorem length_le (tried : Tried client request more s trials) : trials.length ≤ more + 1 := by
  induction tried with
  | last => exact Nat.le_add_left 1 _
  | again _ _ _ _ _ _ ih => exact Nat.succ_le_succ ih

/-- All attempts but the last end at a short-term rate limit. -/
theorem limited (tried : Tried client request more s trials) {i : Nat} {trial : Trial σ}
    (found : trials[i]? = some trial) (notLast : i + 1 < trials.length) :
    isShortTermLimit trial.outcome = true := by
  induction tried generalizing i with
  | last => exact absurd notLast (by simp)
  | again _ _ limited _ _ _ ih =>
    cases i with
    | zero =>
      cases found
      exact limited
    | succ i => exact ih found (Nat.lt_of_succ_lt_succ notLast)

/-- The last one ends in another way, unless it is the last that is left. -/
theorem ends (tried : Tried client request more s trials) :
    trials.length = more + 1 ∨
      ∃ i trial, trials[i]? = some trial ∧ trials.length = i + 1 ∧
        isShortTermLimit trial.outcome = false := by
  induction tried with
  | last _ _ ends =>
    rcases ends with rfl | hother
    · exact .inl rfl
    · exact .inr ⟨0, _, rfl, rfl, hother⟩
  | again _ _ _ _ _ _ ih =>
    rcases ih with hall | ⟨i, trial, hfound, hlength, hother⟩
    · exact .inl (congrArg (· + 1) hall)
    · exact .inr ⟨i + 1, trial, hfound, congrArg (· + 1) hlength, hother⟩

/-- An act is announced at the moment at which it is made. -/
theorem now_of_announced {before : Course σ} {trial : Trial σ}
    (announced : Announced client request before trial) : trial.begun.now = before.now := by
  rw [announced, Course.log_now, Course.trace_now]

/-- Each attempt is made with the act of its number. -/
theorem act_eq (tried : Tried client request more s trials) {i : Nat} {trial : Trial σ}
    (found : trials[i]? = some trial) :
    trial.act = .new (client.actIds (s.actCount + i)) request trial.begun.now := by
  have hfirst {s : State σ} {trial : Trial σ} (fresh : trial.act = client.newAct request s)
      (announced : Announced client request s.course trial) :
      trial.act = .new (client.actIds (s.actCount + 0)) request trial.begun.now := by
    rw [fresh, now_of_announced announced]
    rfl
  induction tried generalizing i with
  | last fresh announced =>
    cases i with
    | zero =>
      cases found
      exact hfirst fresh announced
    | succ i => cases found
  -- the acts after the first are counted from the state after it
  | again fresh announced _ _ counted _ ih =>
    cases i with
    | zero =>
      cases found
      exact hfirst fresh announced
    | succ i =>
      have hact := ih found
      rwa [counted, Nat.add_assoc, Nat.add_comm 1 i] at hact

/-- The first attempt starts where the session stands. -/
theorem head_announced (tried : Tried client request more s trials) :
    ∃ trial ∈ trials.head?, Announced client request s.course trial := by
  cases tried with
  | last _ announced | again _ announced => exact ⟨_, rfl, announced⟩

/-- Each attempt but the first is announced after a pause. -/
theorem isChain (tried : Tried client request more s trials) :
    trials.IsChain fun a b =>
      ∃ before, Paused client a.ended before ∧ Announced client request before b := by
  induction tried with
  | last => exact .singleton _
  | @again _ _ next _ later _ _ _ paused _ tried ih =>
    obtain ⟨second, hsecond, hannounced⟩ := tried.head_announced
    cases later with
    | nil => cases hsecond
    | cons =>
      cases hsecond
      exact .cons_cons ⟨next.course, paused, hannounced⟩ ih

end Tried

/-! ## How many attempts there are -/

/-- The outcome is a failure at a short-term rate limit. -/
def AtLimit (outcome : Act.Outcome) : Prop :=
  ∃ failure, outcome = .error failure ∧ failure.kind = .rateLimit .shortWindow

/-- The loop finds out which outcomes these are. -/
theorem isShortTermLimit_iff {outcome : Act.Outcome} :
    isShortTermLimit outcome = true ↔ AtLimit outcome := by
  unfold isShortTermLimit AtLimit
  cases outcome <;> simp

/-- The position, counted from one, of the first outcome that is not a short-term rate limit. -/
noncomputable def firstOther (outcomes : ℕ → Act.Outcome) : ℕ∞ :=
  ⨅ (i : ℕ) (_ : ¬ AtLimit (outcomes i)), ((i + 1 : ℕ) : ℕ∞)

/-- **There are as many attempts** as there may be, or as it takes to come to another outcome, whichever
is less. -/
theorem Tried.length_eq {more : Nat} {s : State σ} {trials : List (Trial σ)}
    (tried : Tried client request more s trials) {outcomes : ℕ → Act.Outcome}
    (begins : ∀ i trial, trials[i]? = some trial → outcomes i = trial.outcome) :
    (trials.length : ℕ∞) = min ((more + 1 : ℕ) : ℕ∞) (firstOther outcomes) := by
  apply le_antisymm
  · refine le_min (Nat.cast_le.mpr tried.length_le) (le_iInf₂ fun i hother => ?_)
    -- an attempt with another outcome is the last one
    by_contra hmore
    have hlonger : i + 1 < trials.length := Nat.cast_lt.mp (not_le.mp hmore)
    have hfound : trials[i]? = some trials[i] := List.getElem?_eq_getElem _
    rw [begins i _ hfound] at hother
    exact hother (isShortTermLimit_iff.mp (tried.limited hfound hlonger))
  · rcases tried.ends with hall | ⟨i, trial, hfound, hlength, hother⟩
    · rw [hall]
      exact min_le_left _ _
    · rw [hlength]
      have hnotLimited : ¬ AtLimit (outcomes i) := by
        rw [← isShortTermLimit_iff, begins i trial hfound, hother]
        exact Bool.false_ne_true
      exact (min_le_right _ _).trans (iInf₂_le i hnotLimited)

/-! ## Requests that pass all checks -/

/-- All checks of a request pass: the time allowed is from two seconds to half an hour, the prompt has
up to ten thousand characters, fewer than a hundred steps are allowed, the name of the endpoint is short
of two thousand and forty-eight bytes, and what is asked for as a schema is one. -/
structure Accepted (client : Client) (prompt : String) (options : Options) (schema : Option Schema) :
    Prop where
  timeout : ∀ timeout, options.timeout = some timeout →
    2_000_000_000 ≤ timeout ∧ timeout ≤ 1_800_000_000_000
  prompt : 1 ≤ prompt.length ∧ prompt.length ≤ 10_000
  stepLimit : ∀ count, options.maxSteps = some count → count < 100
  endpoint : (options.endpointName.getD client.endpointName).utf8ByteSize < 2048
  schema : options.schema = schema.map (·.document)

/-- What all attempts of an act ask for. -/
def requestFor (client : Client) (prompt : String) (options : Options) : Act.Request where
  prompt := match options.schema with
    | some schema => prompt ++ ", format output with jsonschema: " ++ schema.compress
    | none => prompt
  sessionId := client.trace.sessionId
  endpointName := options.endpointName.getD client.endpointName
  timeout := options.timeout
  maxSteps := options.maxSteps.getD 30
  knobs := options.knobs

/-- Between two seconds and half an hour, both included. -/
theorem checkTimeout_iff {timeout : Option Duration} : checkTimeout timeout = .ok () ↔
    ∀ d, timeout = some d → 2_000_000_000 ≤ d ∧ d ≤ 1_800_000_000_000 := by
  cases timeout with
  | none =>
    constructor
    · rintro - _ ⟨⟩
    · exact fun _ => rfl
  | some limit =>
    rw [checkTimeout, ensure_eq_ok, Bool.and_eq_true, decide_eq_true_eq, decide_eq_true_eq]
    constructor
    · rintro passes _ ⟨⟩
      exact passes
    · exact fun passes => passes limit rfl

/-- A prompt has a character at least, and ten thousand at most. -/
theorem checkPrompt_iff {prompt : String} :
    checkPrompt prompt = .ok () ↔ 1 ≤ prompt.length ∧ prompt.length ≤ 10_000 := by
  rw [checkPrompt, ensure_eq_ok, Bool.and_eq_true, decide_eq_true_eq, decide_eq_true_eq]
  rfl

/-- Fewer than a hundred steps can be asked for. -/
theorem checkStepLimit_iff {count : Option Nat} :
    checkStepLimit count = .ok () ↔ ∀ n, count = some n → n < 100 := by
  cases count with
  | none =>
    constructor
    · rintro - _ ⟨⟩
    · exact fun _ => rfl
  | some limit =>
    rw [checkStepLimit, ensure_eq_ok, decide_eq_true_eq]
    constructor
    · rintro passes _ ⟨⟩
      exact passes
    · exact fun passes => passes limit rfl

/-- The length of a parameter is counted in bytes. -/
theorem checkParameter_iff {field value : String} :
    checkParameter field value = .ok () ↔ value.utf8ByteSize < 2048 := by
  rw [checkParameter, ensure_eq_ok, decide_eq_true_eq, parameterLimit]

theorem readSchema_iff {document : Option Json} {schema : Option Schema} :
    readSchema document = .ok schema ↔ document = schema.map (·.document) := by
  cases document with
  | none =>
    have hread : readSchema none = .ok none := rfl
    rw [hread]
    cases schema <;> simp
  | some document =>
    unfold readSchema
    dsimp only
    split
    · rename_i taken htaken
      rw [Except.ok.injEq]
      constructor
      · rintro rfl
        rw [Option.map_some, Schema.ofJson?_eq_some_iff.mp htaken]
      · intro asked
        obtain ⟨other, rfl, hother⟩ := Option.map_eq_some_iff.mp asked.symm
        exact htaken.symm.trans (Schema.ofJson?_eq_some_iff.mpr hother)
    -- a document that makes no schema is the document of none
    · rename_i hnone
      constructor
      · rintro ⟨⟩
      · intro asked
        obtain ⟨other, rfl, hother⟩ := Option.map_eq_some_iff.mp asked.symm
        rw [Schema.ofJson?_eq_some_iff.mpr hother] at hnone
        cases hnone

section

variable {prompt : String} {options : Options} {schema : Option Schema}

/-- What is accepted is prepared as it is described. -/
theorem prepare_of_accepted (accepted : Accepted client prompt options schema) :
    client.prepare prompt options = .ok ⟨client.requestFor prompt options, schema⟩ := by
  rw [prepare, checkTimeout_iff.mpr accepted.timeout, checkPrompt_iff.mpr accepted.prompt,
    checkStepLimit_iff.mpr accepted.stepLimit]
  dsimp only [bind, Except.bind]
  rw [checkParameter_iff.mpr accepted.endpoint, readSchema_iff.mpr accepted.schema, requestFor]
  cases options.schema <;> rfl

theorem accepted_of_prepare {order : Order} (prepared : client.prepare prompt options = .ok order) :
    Accepted client prompt options order.schema := by
  have hbind {α β : Type} {first : Except InputError α} {next : α → Except InputError β} {b : β}
      (passed : (first >>= next) = .ok b) : ∃ a, first = .ok a ∧ next a = .ok b := by
    cases first with
    | error cause => cases passed
    | ok a => exact ⟨a, rfl, passed⟩
  obtain ⟨⟨⟩, htimeout, prepared⟩ := hbind prepared
  obtain ⟨⟨⟩, hprompt, prepared⟩ := hbind prepared
  obtain ⟨⟨⟩, hsteps, prepared⟩ := hbind prepared
  obtain ⟨⟨⟩, hendpoint, prepared⟩ := hbind prepared
  obtain ⟨schema, hschema, prepared⟩ := hbind prepared
  cases prepared
  exact ⟨checkTimeout_iff.mp htimeout, checkPrompt_iff.mp hprompt, checkStepLimit_iff.mp hsteps,
    checkParameter_iff.mp hendpoint, readSchema_iff.mp hschema⟩

end

/-! ## What a user is given -/

/-- What a user is given for the outcome of the last attempt. Where a schema was asked for, a result
says besides whether its response is JSON, which value that is, and whether the schema accepts it. An
empty response, or none, is no JSON. -/
inductive Given : Option Schema → Act.Outcome → Except Error Act.Result → Prop where
  | failed (schema : Option Schema) (failure : Act.Failure) :
      Given schema (.error failure) (.error (.act failure))
  | plain (found : Act.Result) : Given none (.ok found) (.ok found)
  | value (schema : Schema) {found : Act.Result} {text : String} {value : Json}
      (response : found.response = some text) (reads : Json.parse? text = some value) :
      Given (some schema) (.ok found) (.ok ⟨found.metadata, found.response, some value, some true,
        some (schema.accepts value)⟩)
  | noValue (schema : Schema) {found : Act.Result}
      (unread : ∀ text, found.response = some text → Json.parse? text = none) :
      Given (some schema) (.ok found) (.ok ⟨found.metadata, found.response, none, some false,
        some false⟩)

theorem given_conclude (schema : Option Schema) (outcome : Act.Outcome) :
    Given schema outcome (conclude schema outcome) := by
  cases outcome with
  | error failure => exact .failed schema failure
  | ok found =>
    cases schema with
    | none => exact .plain found
    | some schema =>
      rw [conclude, Act.Result.withForm]
      -- with a schema the text of the response is a value, or else there is none to fill in
      cases hreads : (found.response.filter (· != "")).bind Json.parse? with
      | some value =>
        obtain ⟨text, hkept, hvalue⟩ := Option.bind_eq_some_iff.mp hreads
        exact .value schema (Option.filter_eq_some_iff.mp hkept).1 hvalue
      | none =>
        refine .noValue schema fun text response => ?_
        rw [response] at hreads
        by_cases hempty : text = ""
        · subst hempty
          rfl
        · rwa [Option.filter_some, if_pos (bne_iff_ne.mpr hempty)] at hreads

/-! ## Whole acts -/

/-- What is known of an act that was carried out: which acts were dispatched one after the other, and
what came of them. -/
structure Carried (client : Client) (request : Act.Request) (schema : Option Schema) (s : State σ)
    (trials : List (Trial σ)) (result : Except Error Act.Result) (last : State (Recorded σ)) : Prop where
  /-- The dispatcher was asked for these acts, with one pause between two, and for nothing else. -/
  calls : last.calls = (trials.map .dispatch).intersperse (.pause client.retry.delay)
  /-- Whatever outcomes would come after these, the acts are as many as the first that is not at a
  short-term rate limit, or as there may be. -/
  count : ∀ outcomes : ℕ → Act.Outcome,
    (∀ (i : ℕ) (trial : Trial σ), trials[i]? = some trial → outcomes i = trial.outcome) →
      (trials.length : ℕ∞) = min ((max 1 client.retry.tries : ℕ) : ℕ∞) (firstOther outcomes)
  /-- Each is a new act of the same request, open and with the next id. -/
  acts : ∀ (i : ℕ) (trial : Trial σ), trials[i]? = some trial →
    trial.act = { id := client.actIds (s.actCount + i), request, startedAt := trial.begun.now
                  endedAt := none, steps := [], result := none, acknowledged := false
                  timedOut := false }
  ids : Function.Injective client.actIds → (trials.map (·.act.id)).Nodup
  /-- Each is announced by one line of the trace. -/
  first : ∃ trial ∈ trials.head?, Announced client request s.course trial
  others : trials.IsChain fun a b =>
    ∃ before, Paused client a.ended before ∧ Announced client request before b
  /-- The user is given the outcome of the last. -/
  ends : ∃ outcome, Ends s trials outcome last.forget ∧ Given schema outcome result

theorem carried_of_tried {schema : Option Schema} {s : State σ} {trials : List (Trial σ)}
    {outcome : Act.Outcome} {last : State (Recorded σ)}
    (tried : Tried client request (client.retry.tries - 1) s trials)
    (calls : last.calls = (trials.map .dispatch).intersperse (.pause client.retry.delay))
    (ends : Ends s trials outcome last.forget) :
    Carried client request schema s trials (conclude schema outcome) last where
  calls := calls
  count := by
    intro outcomes begins
    have htries : client.retry.tries - 1 + 1 = max 1 client.retry.tries := by omega
    rw [tried.length_eq begins, htries]
  acts := fun i trial found => tried.act_eq found
  ids := by
    intro injective
    rw [List.nodup_iff_getElem?_ne_getElem?]
    intro i j before within same
    rw [List.length_map] at within
    have hi := List.getElem?_eq_getElem (Nat.lt_trans before within)
    have hj := List.getElem?_eq_getElem within
    rw [List.getElem?_map, List.getElem?_map, hi, hj, Option.map_some, Option.map_some,
      Option.some.injEq, tried.act_eq hi, tried.act_eq hj] at same
    -- two attempts with one identifier would have the same count
    have hcount : s.actCount + i = s.actCount + j := injective same
    omega
  first := tried.head_announced
  others := tried.isChain
  ends := ⟨outcome, ends, given_conclude schema outcome⟩

theorem attempts_isSome (answers : ∀ act c, (d.dispatch act c).isSome) (more : Nat) (s : State σ) :
    (client.attempts d request more s).isSome := by
  have hattempt (s : State σ) : ∃ ended, client.attempt d request s = some ended := by
    obtain ⟨came, hcame⟩ := Option.isSome_iff_exists.mp
      (answers (client.newAct request s) (client.begun request s))
    have hbind : client.attempt d request s =
        (d.dispatch (client.newAct request s) (client.begun request s)).bind _ := rfl
    rw [hbind, hcame]
    exact ⟨_, rfl⟩
  induction more generalizing s with
  | zero =>
    obtain ⟨ended, hsome⟩ := hattempt s
    rw [attempts, hsome]
    rfl
  | succ more ih =>
    obtain ⟨⟨outcome, last⟩, hsome⟩ := hattempt s
    rw [attempts, hsome]
    dsimp only
    -- another attempt is another call that has an answer
    split
    · exact ih _
    · rfl

/-- **An act and its attempts.** With whichever dispatcher, and with a record of what it is asked for:
an act in a session that was not started, or one that fails a check, is refused, and nothing has
happened. An act that passes all checks is carried out, and comes to an end if each of its dispatches
does. -/
theorem act_attempts (client : Client) (d : Dispatcher σ) (prompt : String) (options : Options)
    (s : State σ) :
    (client.act d.recording prompt options s.recording).map (fun ended => (ended.1, ended.2.forget)) =
      client.act d prompt options s ∧
    (s.started = false →
      client.act d.recording prompt options s.recording = some (.error .notStarted, s.recording)) ∧
    (s.started = true → (¬ ∃ schema, Accepted client prompt options schema) →
      ∃ cause, client.act d.recording prompt options s.recording =
        some (.error (.input cause), s.recording)) ∧
    (s.started = true → ∀ schema, Accepted client prompt options schema →
      (∀ result last, client.act d.recording prompt options s.recording = some (result, last) →
        ∃ trials, Carried client (client.requestFor prompt options) schema s trials result last) ∧
      ((∀ act c, (d.dispatch act c).isSome) →
        (client.act d.recording prompt options s.recording).isSome)) := by
  refine ⟨act_recording client d prompt options s, fun notStarted => ?_, fun started refused => ?_,
    fun started schema accepted => ⟨fun result last ended => ?_, fun answers => ?_⟩⟩
  · exact act_of_notStarted client d.recording notStarted
  · cases hprepare : client.prepare prompt options with
    | error cause => exact ⟨cause, act_of_refused d.recording started hprepare⟩
    | ok order => exact (refused ⟨_, accepted_of_prepare hprepare⟩).elim
  -- the result is what the attempts end with, concluded
  · rw [act_of_prepared d.recording started (prepare_of_accepted accepted)] at ended
    obtain ⟨⟨outcome, last⟩, hattempts, hended⟩ := Option.map_eq_some_iff.mp ended
    cases hended
    obtain ⟨trials, htried, hcalls, hends⟩ := attempts_tried hattempts
    exact ⟨trials, carried_of_tried htried hcalls hends⟩
  · have hrecording : ∀ act c, (d.recording.dispatch act c).isSome := by
      intro act c
      rw [Dispatcher.recording, Option.isSome_map]
      exact answers act (plain c)
    rw [act_of_prepared d.recording started (prepare_of_accepted accepted), Option.isSome_map]
    exact attempts_isSome hrecording _ _

namespace Sample

/-- A dispatcher whose acts come to the outcomes it is given, one after the other. -/
def scripted : Dispatcher (List Act.Outcome) where
  dispatch act c :=
    match c.world with
    | [] => none
    | outcome :: later => some (outcome, act, c.within later)
  settle _ _ c := some (.ok (), c)
  goToUrl _ _ _ c := some (.ok (), c)
  pause := noMove

def tooMany : Act.Failure :=
  .of (.rateLimit .shortWindow) (.ofSession "session")

/-- A result whose response is a truth value, as JSON. -/
def truth : Act.Result :=
  .of (some "true") (.ofSession "session")

theorem isSchema_boolean : Schema.isSchema (Schema.ofType "boolean") = true := by
  decide +kernel

/-- The schema of truth values. -/
def boolean : Schema :=
  ⟨Schema.ofType "boolean", isSchema_boolean⟩

def booleanOptions : Options :=
  { options with schema := some boolean.document }

/-- The session once it is started, with the outcomes that its acts will come to. -/
def started (outcomes : List Act.Outcome) : State (List Act.Outcome) :=
  ⟨true, 0, .start outcomes⟩

/-- The act passes all checks, whichever form is asked for. -/
theorem accepted_options (schema : Option Schema) :
    Accepted session "find wool" { options with schema := schema.map (·.document) } schema where
  timeout := by rintro _ ⟨⟩
  prompt := by decide
  stepLimit := by rintro _ ⟨⟩
  endpoint := by
    have hshort : session.endpointName.utf8ByteSize < 2048 := by decide
    exact hshort
  schema := rfl

/-- After one failure at the limit the second act decides. -/
theorem act_scripted {options : Options} {schema : Option Schema}
    (accepted : Accepted session "find wool" options schema) (outcome : Act.Outcome) :
    ∃ last, session.act scripted.recording "find wool" options
        (started [.error tooMany, outcome]).recording = some (conclude schema outcome, last) ∧
      last.calls.length = 3 := by
  rw [act_of_prepared _ rfl (prepare_of_accepted accepted)]
  exact ⟨_, rfl, rfl⟩

/-- An act that is over the limit once is dispatched twice, with one pause between. What the second
attempt comes to is given to the user: a failure, a result, or a result of the form asked for. -/
theorem tried_twice :
    Accepted session "find wool" options none ∧
    (∃ trials last, Carried session (session.requestFor "find wool" options) none
        (started [.error tooMany, .error tooMany]) trials (.error (.act tooMany)) last ∧
      last.calls.length = 3) ∧
    (∃ trials last, Carried session (session.requestFor "find wool" options) none
        (started [.error tooMany, .ok truth]) trials (.ok truth) last ∧
      last.calls.length = 3) ∧
    Accepted session "find wool" booleanOptions (some boolean) ∧
    ∃ trials last, Carried session (session.requestFor "find wool" booleanOptions) (some boolean)
        (started [.error tooMany, .ok truth]) trials
        (.ok ⟨.ofSession "session", some "true", some (.bool true), some true, some true⟩) last ∧
      last.calls.length = 3 := by
  have hcarried (options : Options) (schema : Option Schema)
      (accepted : Accepted session "find wool" options schema) (outcome : Act.Outcome) :
      ∃ trials last, Carried session (session.requestFor "find wool" options) schema
        (started [.error tooMany, outcome]) trials (conclude schema outcome) last ∧
        last.calls.length = 3 := by
    obtain ⟨last, hended, hcalls⟩ := act_scripted accepted outcome
    obtain ⟨-, -, -, hacts⟩ := act_attempts session scripted "find wool" options
      (started [.error tooMany, outcome])
    obtain ⟨trials, hcarried⟩ := (hacts rfl schema accepted).1 _ _ hended
    exact ⟨trials, last, hcarried, hcalls⟩
  -- the text of the answer is a value that the wanted form allows
  have hgiven : conclude (some boolean) (.ok truth) =
      .ok ⟨.ofSession "session", some "true", some (.bool true), some true, some true⟩ := rfl
  have hplain : Accepted session "find wool" options none := accepted_options none
  have hformed : Accepted session "find wool" booleanOptions (some boolean) :=
    accepted_options (some boolean)
  exact ⟨hplain, hcarried _ _ hplain _, hcarried _ _ hplain _, hformed,
    hgiven ▸ hcarried _ _ hformed _⟩

end Sample

end Client

end Session

end BrowserAct
