import BrowserAct.Proofs.Dispatch.Planned.Ending

/-!
# What a dispatch by planning is made of

What happens in a dispatch is written down in a log. Apart from lines of the trace and requests to
cancel, which come at any time, the log is made of rounds, and what a round is made of follows from what
it got as answers.

* **`Observing`**, **`Asking`** and **`Acting`** are the parts of a round.
* **`RoundMoves`** and **`RunMoves`** say what a round and a run are made of.
* **`filterMap_of_kind`** says what can be seen of moves of one kind.
-/

namespace BrowserAct.Dispatch.Planned

open Program (Refusal Interpretation)

/-! ## Histories -/

/-- What happened, with the times, first to last. -/
abbrev History := List (Moment × Course.Event)

/-- Whether an event is a move of the run, and not one that can come at any time. -/
def isMove : Course.Event → Bool
  | .traced _ => false
  | .cancelRequested => false
  | _ => true

def isCancelRequest : Course.Event → Bool
  | .cancelRequested => true
  | _ => false

def step? : Course.Event → Option Act.Step
  | .stepped step => some step
  | _ => none

def movesOf (history : History) : History :=
  history.filter fun entry => isMove entry.2

def asksToCancel (history : History) : Bool :=
  history.any fun entry => isCancelRequest entry.2

/-- The steps that were recorded. -/
def stepsOf (history : History) : List Act.Step :=
  history.filterMap fun entry => step? entry.2

theorem movesOf_append (first second : History) :
    movesOf (first ++ second) = movesOf first ++ movesOf second :=
  List.filter_append first second

theorem asksToCancel_append (first second : History) :
    asksToCancel (first ++ second) = (asksToCancel first || asksToCancel second) :=
  List.any_append

theorem stepsOf_append (first second : History) :
    stepsOf (first ++ second) = stepsOf first ++ stepsOf second :=
  List.filterMap_append

/-- Waiting for the page to settle and observing it, after the wait began; no answer where that was cut
short. -/
inductive Observing : History → Option (Except Refusal Planner.Observation) → Prop
  | settling : Observing [] none
  | unsettled {t : Moment} (refusal : Refusal) :
      Observing [(t, .settled (.error refusal))] (some (.error refusal))
  | observing {t : Moment} {value : Json} :
      Observing [(t, .settled (.ok value)), (t, .observing)] none
  | observed {t u : Moment} {value : Json} (answer : Except Refusal Planner.Observation) :
      Observing [(t, .settled (.ok value)), (t, .observing), (u, .observed answer)] (some answer)

/-- What asking for a program comes to. -/
inductive Asked where
  | cutShort
  /-- The page could not be observed, so the planner is not asked. -/
  | refused (refusal : Refusal)
  | answered (now : Moment) (answer : Answered)

/-- Observing the page and asking the planner once, with a request that is made from the observation. -/
inductive Asking (request : Planner.Observation → Planner.Request) : History → Asked → Prop
  | cutShort {before : History} (observing : Observing before none) : Asking request before .cutShort
  | refused {before : History} {refusal : Refusal}
      (observing : Observing before (some (.error refusal))) :
      Asking request before (.refused refusal)
  | planning {before : History} {observation : Planner.Observation} {t : Moment}
      (observing : Observing before (some (.ok observation))) :
      Asking request (before ++ [(t, .planning (request observation).text)]) .cutShort
  | answered {before : History} {observation : Planner.Observation} {t now : Moment}
      (observing : Observing before (some (.ok observation))) (answer : Answered) :
      Asking request
        (before ++ [(t, .planning (request observation).text), (now, .answered answer)])
        (.answered now answer)

/-- What the answer to its last action makes of a program. -/
def interpretationOf (action : Program.Action) : Except Refusal Json → Interpretation
  | .ok value => .ofAnswer action value
  | .error refusal => .ofRefusal refusal

/-- The actions of a program, each with its answer: the thought, if there is one, and then the action,
unless the thought was refused. -/
inductive Acting (program : Program) : History → Interpretation → Prop
  | action {t u : Moment} (noThought : program.thought = none) (answer : Except Refusal Json) :
      Acting program [(t, .acting program.action), (u, .acted answer)]
        (interpretationOf program.action answer)
  | thought {t u : Moment} {thought : String} (thinks : program.thought = some thought)
      (refusal : Refusal) :
      Acting program [(t, .acting (.think thought)), (u, .acted (.error refusal))]
        (.ofRefusal refusal)
  | thoughtAndAction {t u v w : Moment} {thought : String} {value : Json}
      (thinks : program.thought = some thought) (answer : Except Refusal Json) :
      Acting program
        [(t, .acting (.think thought)), (u, .acted (.ok value)), (v, .acting program.action),
          (w, .acted answer)]
        (interpretationOf program.action answer)

/-- How a run ends. -/
inductive Ending where
  | stepsUsedUp
  /-- The time was used up when a round was to begin. -/
  | outOfTime
  /-- There was a request to cancel when a round was to begin. -/
  | canceled
  /-- The time was used up while a program was asked for. -/
  | cutShort
  /-- A round came to an end of its own. -/
  | concluded
deriving DecidableEq

/-- What comes after a round. -/
inductive Turn where
  /-- Another round, which tells the planner of a refusal, if there is one. -/
  | follows (refusal : Option Refusal)
  | ends (ending : Ending)

/-- Only a program that went on or was redirected is followed by another round. -/
def turnOf : Interpretation → Turn
  | .continue => .follows none
  | .redirect message => .follows (some (.redirect message))
  | .done _ => .ends .concluded
  | .failed _ => .ends .concluded

/-- The request of a round for an act. -/
def requestOf (act : Act) (isInitial : Bool) (refusal : Option Refusal)
    (observation : Planner.Observation) : Planner.Request where
  actId := act.id
  prompt := act.request.prompt
  endpointName := act.request.endpointName
  observation
  isInitial
  refusal

/-- A record from which an act takes a step; a complete act takes none. -/
def MakesStep (act : Act) (now : Moment) (record : Json) (step : Act.Step) : Prop :=
  act.isComplete = false ∧ Act.Step.ofMessage record now = .ok step

/-- One round after it began to wait for the page to settle: one request, and for a program that comes
with a step one record and the actions of the program. -/
inductive RoundMoves (act : Act) (isInitial : Bool) (refusal : Option Refusal) :
    History → Turn → Prop
  | cutShort {asking : History} (asked : Asking (requestOf act isInitial refusal) asking .cutShort) :
      RoundMoves act isInitial refusal asking (.ends .cutShort)
  | refused {asking : History} {refused : Refusal}
      (asked : Asking (requestOf act isInitial refusal) asking (.refused refused)) :
      RoundMoves act isInitial refusal asking (.ends .concluded)
  | noProgram {asking : History} {now : Moment} {answer : Answered}
      (asked : Asking (requestOf act isInitial refusal) asking (.answered now answer))
      (noProgram : ∀ source record, answer ≠ .ok (.program source record)) :
      RoundMoves act isInitial refusal asking (.ends .concluded)
  | noStep {asking : History} {now : Moment} {source : String} {record : Json}
      (asked : Asking (requestOf act isInitial refusal) asking
        (.answered now (.ok (.program source record))))
      (noStep : ∀ step, ¬ MakesStep act now record step) :
      RoundMoves act isInitial refusal asking (.ends .concluded)
  | unreadable {asking : History} {now : Moment} {source : String} {record : Json} {step : Act.Step}
      {cause : Program.ParseError}
      (asked : Asking (requestOf act isInitial refusal) asking
        (.answered now (.ok (.program source record))))
      (makes : MakesStep act now record step) (unreadable : Program.parse source = .error cause) :
      RoundMoves act isInitial refusal (asking ++ [(now, .stepped step)]) (.ends .concluded)
  | ran {asking acting : History} {now : Moment} {source : String} {record : Json} {step : Act.Step}
      {program : Program} {interpretation : Interpretation}
      (asked : Asking (requestOf act isInitial refusal) asking
        (.answered now (.ok (.program source record))))
      (makes : MakesStep act now record step) (reads : Program.parse source = .ok program)
      (acted : Acting program acting interpretation) :
      RoundMoves act isInitial refusal (asking ++ (now, .stepped step) :: acting)
        (turnOf interpretation)

/-- A run of at most so many rounds, given round by round. -/
inductive RunMoves (act : Act) : Nat → Bool → Option Refusal → List History → Ending → Prop
  | stepsUsedUp {isInitial : Bool} {refusal : Option Refusal} :
      RunMoves act 0 isInitial refusal [] .stepsUsedUp
  | outOfTime {n : Nat} {isInitial : Bool} {refusal : Option Refusal} :
      RunMoves act (n + 1) isInitial refusal [] .outOfTime
  | canceled {n : Nat} {isInitial : Bool} {refusal : Option Refusal} :
      RunMoves act (n + 1) isInitial refusal [] .canceled
  | last {n : Nat} {isInitial : Bool} {refusal : Option Refusal} {t : Moment}
      {options : Program.SettleOptions} {round : History} {ending : Ending}
      (moves : RoundMoves act isInitial refusal round (.ends ending)) :
      RunMoves act (n + 1) isInitial refusal [(t, .settling options) :: round] ending
  | next {n : Nat} {isInitial : Bool} {refusal refusal' : Option Refusal} {t : Moment}
      {options : Program.SettleOptions} {round : History} {later : List History} {ending : Ending}
      (moves : RoundMoves act isInitial refusal round (.follows refusal'))
      (goesOn : RunMoves act n false refusal' later ending) :
      RunMoves act (n + 1) isInitial refusal (((t, .settling options) :: round) :: later) ending

/-! ### Kinds of moves -/

def isObserving : Course.Event → Bool
  | .settled _ => true
  | .observing => true
  | .observed _ => true
  | _ => false

def isAsking : Course.Event → Bool
  | .planning _ => true
  | .answered _ => true
  | event => isObserving event

def isActing : Course.Event → Bool
  | .acting _ => true
  | .acted _ => true
  | _ => false

/-- The moves of a look at the page are of its kind. -/
theorem Observing.kind {moves : History} {answer : Option (Except Refusal Planner.Observation)}
    (observing : Observing moves answer) : ∀ entry ∈ moves, isObserving entry.2 = true := by
  cases observing <;> simp [isObserving]

theorem Asking.kind {request : Planner.Observation → Planner.Request} {moves : History} {asked : Asked}
    (asking : Asking request moves asked) : ∀ entry ∈ moves, isAsking entry.2 = true := by
  have hobserving {moves : History} {answer : Option (Except Refusal Planner.Observation)}
      (observing : Observing moves answer) : ∀ entry ∈ moves, isAsking entry.2 = true := by
    rintro ⟨t, event⟩ hmem
    have hkind := observing.kind _ hmem
    cases event <;> first | rfl | cases hkind
  cases asking with
  | cutShort observing | refused observing => exact hobserving observing
  | planning observing | answered observing =>
    exact List.forall_mem_append.mpr ⟨hobserving observing, by simp [isAsking]⟩

theorem Acting.kind {program : Program} {moves : History} {interpretation : Interpretation}
    (acting : Acting program moves interpretation) : ∀ entry ∈ moves, isActing entry.2 = true := by
  cases acting <;> simp [isActing]

/-- Who looks for something else sees nothing of moves of one kind. -/
theorem filterMap_of_kind {β : Type} {kind : Course.Event → Bool}
    {look : Moment × Course.Event → Option β} {moves : History}
    (kinds : ∀ entry ∈ moves, kind entry.2 = true)
    (blind : ∀ t event, kind event = true → look (t, event) = none) : moves.filterMap look = [] :=
  List.filterMap_eq_nil_iff.mpr fun entry hmem => blind entry.1 entry.2 (kinds entry hmem)

/-- Asking the planner records no step. -/
theorem stepsOf_asking {request : Planner.Observation → Planner.Request} {moves : History}
    {asked : Asked} (asking : Asking request moves asked) : stepsOf moves = [] :=
  filterMap_of_kind asking.kind fun t event isAsking => by
    cases event <;> first | rfl | cases isAsking

theorem stepsOf_acting {program : Program} {moves : History} {interpretation : Interpretation}
    (acting : Acting program moves interpretation) : stepsOf moves = [] :=
  filterMap_of_kind acting.kind fun t event isActing => by
    cases event <;> first | rfl | cases isActing

end BrowserAct.Dispatch.Planned
