import BrowserAct.Channel.Window
import BrowserAct.Proofs.Channel.RoundTrip
import BrowserAct.Proofs.Json.Standard

/-!
# Streams of messages to a bound act

Messages come in one after the other, each at a moment of its own, and a bound act takes them in. Most
of what can come in says nothing to it, and nothing counts once it is complete.

* **`Dropped`** are the messages that say nothing, whether they are refused or passed over.
* **`readings`** is what the others say, and **`untilCompletion`** the part of it that counts.
* **`Act.after`** is what an act becomes by a list of readings, field by field.
* **`handleStream_of_bind`** says that a stream makes of a bound act what its readings up to the
  first completion make of it, and of the binding nothing but its end.
-/

namespace BrowserAct.Channel

/-! ## What a message says -/

/-- A message that says nothing to a bound act. -/
inductive Dropped (key : Key) (now : Moment) (raw : Json) : Prop where
  /-- It is no object; the heartbeat is one of these. -/
  | notAnObject (shape : raw.isObject = false)
  | undecryptable {cause : Error} (failed : decrypt key raw = .error cause)
  | unreadable {message : Json} {cause : Error} (opened : decrypt key raw = .ok message)
      (failed : Inbound.parse message = .error cause)
  /-- It reports a step without a screenshot or without a program. -/
  | noStep {message report : Json} {cause : Act.StateError} (opened : decrypt key raw = .ok message)
      (parsed : Inbound.parse message = .ok (.step report))
      (failed : Act.Step.ofMessage report now = .error cause)

/-- What a message says, if it is not dropped. -/
def reading? (key : Key) (now : Moment) (raw : Json) : Option Inbound :=
  match receive key raw with
  | .ok (some inbound) =>
    match inbound.operation? now with
    | .ok _ => some inbound
    | .error _ => none
  | _ => none

/-- A message is received as a report exactly when it is an object that decrypts and parses. -/
theorem receive_eq_some_iff {key : Key} {raw : Json} {inbound : Inbound} :
    receive key raw = .ok (some inbound) ↔
      raw.isObject = true ∧
        ∃ message, decrypt key raw = .ok message ∧ Inbound.parse message = .ok inbound := by
  rw [receive]
  cases raw with
  | object fields =>
    have noText : (Json.object fields).asString? ≠ some Message.heartbeat := by
      intro same
      cases same
    have shape : (Json.object fields).isObject = true := rfl
    rw [if_neg noText, if_pos shape]
    cases opened : decrypt key (.object fields) with
    | error cause =>
      constructor
      · intro h
        cases h
      · rintro ⟨_, _, h, _⟩
        cases h
    | ok message =>
      show (Inbound.parse message >>= fun i => pure (some i)) = _ ↔ _
      cases parsed : Inbound.parse message with
      | error cause =>
        constructor
        · intro h
          cases h
        · rintro ⟨_, _, same, h⟩
          cases same
          rw [parsed] at h
          cases h
      | ok found =>
        constructor
        · intro h
          cases h
          exact ⟨rfl, message, rfl, parsed⟩
        · rintro ⟨_, _, same, h⟩
          cases same
          rw [parsed] at h
          cases h
          rfl
  -- what is no object is refused or, as the heartbeat, passed over
  | _ =>
    constructor
    · intro h
      split at h <;> cases h
    · rintro ⟨shape, _⟩
      cases shape

/-- Only a report of a step can ask for an operation that there is none of. -/
theorem Inbound.operation?_eq_error_iff {inbound : Inbound} {now : Moment}
    {cause : Act.StateError} :
    inbound.operation? now = .error cause ↔
      ∃ report, inbound = .step report ∧ Act.Step.ofMessage report now = .error cause := by
  cases inbound with
  | step report =>
    rw [Inbound.operation?]
    cases made : Act.Step.ofMessage report now with
    | error e =>
      show Except.error e = _ ↔ _
      constructor
      · intro h
        cases h
        exact ⟨report, rfl, made⟩
      · rintro ⟨_, same, h⟩
        cases same
        rw [made] at h
        cases h
        rfl
    | ok step =>
      constructor
      · intro h
        cases h
      · rintro ⟨_, same, h⟩
        cases same
        rw [made] at h
        cases h
  -- the others ask for an operation or for none, and cannot fail
  | accepted | completion | tab | unknown =>
    constructor
    · intro h
      cases h
    · rintro ⟨_, same, _⟩
      cases same

/-- Without a completion, a message can only acknowledge or report a step. -/
theorem Inbound.operation?_eq_some {inbound : Inbound} {now : Moment} {operation : Act.Operation}
    (asked : inbound.operation? now = .ok (some operation))
    (goesOn : inbound.isCompletion = false) :
    (inbound = .accepted ∧ operation = .acknowledge) ∨
      ∃ report step, inbound = .step report ∧ Act.Step.ofMessage report now = .ok step ∧
        operation = .addStep step := by
  cases inbound with
  | tab | unknown => cases asked
  | completion => cases goesOn
  | accepted =>
    cases asked
    exact Or.inl ⟨rfl, rfl⟩
  | step report =>
    rw [Inbound.operation?] at asked
    -- a step that cannot be made is no operation
    cases made : Act.Step.ofMessage report now with
    | error cause =>
      rw [made] at asked
      cases asked
    | ok step =>
      rw [made] at asked
      cases asked
      exact Or.inr ⟨report, step, rfl, made, rfl⟩

/-- A message says what it is received as, if that asks for an operation or is known to ask for none. -/
theorem reading?_eq_some_iff {key : Key} {now : Moment} {raw : Json} {inbound : Inbound} :
    reading? key now raw = some inbound ↔
      receive key raw = .ok (some inbound) ∧
        ∃ operation?, inbound.operation? now = .ok operation? := by
  constructor
  · intro read
    rw [reading?] at read
    split at read
    case h_2 => cases read
    case h_1 found received =>
      -- what was received counts only where its operation can be told
      split at read
      case h_2 => cases read
      case h_1 operation? asked =>
        cases read
        exact ⟨received, operation?, asked⟩
  · rintro ⟨received, operation?, asked⟩
    rw [reading?, received]
    simp only [asked]

/-- A message is dropped exactly when it has no reading. -/
theorem reading?_eq_none_iff {key : Key} {now : Moment} {raw : Json} :
    reading? key now raw = none ↔ Dropped key now raw := by
  constructor
  · intro unread
    cases shape : raw.isObject with
    | false => exact .notAnObject shape
    | true =>
      cases opened : decrypt key raw with
      | error cause => exact .undecryptable opened
      | ok message =>
        cases parsed : Inbound.parse message with
        | error cause => exact .unreadable opened parsed
        | ok inbound =>
          have received := receive_eq_some_iff.mpr ⟨shape, message, opened, parsed⟩
          cases asked : inbound.operation? now with
          | error cause =>
            -- only a report of a step can ask for an operation that there is none of
            obtain ⟨report, rfl, failed⟩ := Inbound.operation?_eq_error_iff.mp asked
            exact .noStep opened parsed failed
          | ok operation? =>
            rw [reading?_eq_some_iff.mpr ⟨received, operation?, asked⟩] at unread
            cases unread
  · intro dropped
    cases read : reading? key now raw with
    | none => rfl
    | some inbound =>
      -- a reading was received and asks for an operation, which no dropped message does
      obtain ⟨received, operation?, asked⟩ := reading?_eq_some_iff.mp read
      obtain ⟨shape, message, opened, parsed⟩ := receive_eq_some_iff.mp received
      cases dropped with
      | notAnObject noObject =>
        rw [shape] at noObject
        cases noObject
      | undecryptable failed =>
        rw [opened] at failed
        cases failed
      | unreadable opened' failed =>
        cases opened.symm.trans opened'
        rw [parsed] at failed
        cases failed
      | noStep opened' parsed' failed =>
        cases opened.symm.trans opened'
        cases parsed.symm.trans parsed'
        rw [Inbound.operation?_eq_error_iff.mpr ⟨_, rfl, failed⟩] at asked
        cases asked

/-! ## What a message does -/

namespace Binding

/-- A message that is dropped changes nothing, whatever is bound. -/
theorem take_of_dropped {key : Key} {now : Moment} {raw : Json} (dropped : Dropped key now raw)
    (state : Binding × Act) : take key now state raw = state := by
  have unread := reading?_eq_none_iff.mpr dropped
  obtain ⟨b, a⟩ := state
  rw [take, handle]
  -- a message that is not received is refused or passed over; one that is received has no operation
  cases received : receive key raw with
  | error cause => rfl
  | ok report? =>
    cases report? with
    | none => rfl
    | some inbound =>
      cases asked : inbound.operation? now with
      | ok operation? =>
        rw [reading?_eq_some_iff.mpr ⟨received, operation?, asked⟩] at unread
        cases unread
      | error cause =>
        obtain ⟨report, rfl, failed⟩ := Inbound.operation?_eq_error_iff.mp asked
        cases b with
        | idle => rfl
        | page sessionId settled => simp [apply, Inbound.isCompletion]
        -- the report of a step that has none changes neither this act nor another
        | act id isOpen =>
          by_cases same : a.id = id
          · simp [apply, applyToAct, asked, same]
          · simp [apply, same]

/-- What a message makes of an act: nothing, or what is made of it by an operation that messages ask for,
as long as it is open. -/
inductive Taken (now : Moment) (a : Act) : Act → Prop where
  | kept : Taken now a a
  | acknowledged (isOpen : a.isComplete = false) : Taken now a (a.perform .acknowledge now)
  | step {report : Json} {step : Act.Step} (isOpen : a.isComplete = false)
      (made : Act.Step.ofMessage report now = .ok step) : Taken now a (a.perform (.addStep step) now)
  | completed (isOpen : a.isComplete = false) (completion : Completion) :
      Taken now a (a.perform completion.operation now)

theorem taken_of_apply {inbound : Inbound} {now : Moment} {operation : Act.Operation} {a changed : Act}
    (asked : inbound.operation? now = .ok (some operation))
    (applied : a.apply operation now = .ok changed) : Taken now a changed := by
  cases isOpen : a.isComplete with
  | true =>
    rw [Act.apply_of_complete isOpen] at applied
    cases applied
  | false =>
    rw [Act.apply_of_open isOpen] at applied
    cases applied
    cases inbound with
    | completion completion =>
      cases asked
      exact .completed isOpen completion
    | accepted | step | tab | unknown =>
      rcases Inbound.operation?_eq_some asked rfl with ⟨-, rfl⟩ | ⟨report, step, -, made, rfl⟩
      · exact .acknowledged isOpen
      · exact .step isOpen made

/-- **What one message does to an act**, whatever is bound. -/
theorem taken_take (key : Key) (now : Moment) (state : Binding × Act) (raw : Json) :
    Taken now state.2 (take key now state raw).2 := by
  obtain ⟨b, a⟩ := state
  rw [take, handle]
  cases receive key raw with
  | error cause => exact .kept
  | ok report? =>
    cases report? with
    | none => exact .kept
    | some inbound =>
      cases b with
      | idle => exact .kept
      | page sessionId settled => exact .kept
      | act id isOpen =>
        dsimp only
        rw [apply]
        split
        -- the only way to change the act is the operation that the message asks for
        · rename_i handled
          split at handled
          · rw [applyToAct] at handled
            split at handled
            · cases handled
            · cases handled
              exact .kept
            · rename_i operation asked
              split at handled
              · cases handled
              · rename_i applied
                cases handled
                exact taken_of_apply asked applied
          · cases handled
            exact .kept
        · exact .kept

/-- **What every message leaves true of an act stays true of it**, however many come in. -/
theorem handleAll_preserves {P : Act → Prop} {now : Moment}
    (preserved : ∀ {a changed : Act}, Taken now a changed → P a → P changed) (key : Key)
    (messages : List Json) {state : Binding × Act} (holds : P state.2) :
    P (handleAll key now state messages).2 := by
  rw [handleAll]
  apply List.foldlRecOn (motive := fun state : Binding × Act => P state.2) _ _ holds
  intro state holds raw _
  exact preserved (taken_take key now state raw) holds

/-- The act that is bound takes in a reading by the operation that the reading asks for. -/
theorem take_of_reading {key : Key} {now : Moment} {raw : Json} {inbound : Inbound}
    (read : reading? key now raw = some inbound) (a : Act) (isOpen : Bool) :
    take key now (.act a.id isOpen, a) raw =
      match inbound.operation? now with
      | .ok (some operation) =>
        match a.apply operation now with
        | .ok changed => (.act a.id (isOpen && !inbound.isCompletion), changed)
        | .error _ => (.act a.id isOpen, a)
      | _ => (.act a.id isOpen, a) := by
  obtain ⟨received, operation?, asked⟩ := reading?_eq_some_iff.mp read
  rw [take, handle, received, asked]
  simp only [apply, if_true, applyToAct, asked]
  -- without an operation nothing changes; with one, what the act makes of it
  cases operation? with
  | none => rfl
  | some operation =>
    cases changed : a.apply operation now <;> simp only [changed]

/-- Nothing that comes in changes an act that is complete, or what is bound with it. -/
theorem take_of_complete {a : Act} (complete : a.isComplete = true) (key : Key) (now : Moment)
    (isOpen : Bool) (raw : Json) :
    take key now (.act a.id isOpen, a) raw = (.act a.id isOpen, a) := by
  cases read : reading? key now raw with
  | none => exact take_of_dropped (reading?_eq_none_iff.mp read) _
  | some inbound =>
    rw [take_of_reading read]
    split
    · rw [Act.apply_of_complete complete]
    · rfl

/-! ## Streams -/

/-- Takes in a stream of messages, each at its own moment. -/
def handleStream (key : Key) (state : Binding × Act) (stream : List (Moment × Json)) :
    Binding × Act :=
  stream.foldl (fun state arrival => take key arrival.1 state arrival.2) state

theorem handleStream_append (key : Key) (state : Binding × Act)
    (first second : List (Moment × Json)) :
    handleStream key state (first ++ second) =
      handleStream key (handleStream key state first) second :=
  List.foldl_append

/-- Nothing in a stream changes an act that is complete. -/
theorem handleStream_of_complete {a : Act} (complete : a.isComplete = true) (key : Key)
    (isOpen : Bool) (stream : List (Moment × Json)) :
    handleStream key (.act a.id isOpen, a) stream = (.act a.id isOpen, a) := by
  induction stream with
  | nil => rfl
  | cons arrival rest ih =>
    show handleStream key (take key arrival.1 (.act a.id isOpen, a) arrival.2) rest = _
    rw [take_of_complete complete, ih]

end Binding

/-! ## What a stream says -/

/-- What the messages of a stream say, the dropped ones left out. -/
def readings (key : Key) (stream : List (Moment × Json)) : List (Moment × Inbound) :=
  stream.filterMap fun arrival => (reading? key arrival.1 arrival.2).map (arrival.1, ·)

/-- The readings up to the first completion, which is the last of them. -/
def untilCompletion : List (Moment × Inbound) → List (Moment × Inbound)
  | [] => []
  | reading :: rest =>
    if reading.2.isCompletion then [reading] else reading :: untilCompletion rest

/-- Nothing but readings after the first completion is cut off, so a completion is always kept. -/
theorem any_isCompletion_untilCompletion (readings : List (Moment × Inbound)) :
    (untilCompletion readings).any (·.2.isCompletion) = readings.any (·.2.isCompletion) := by
  induction readings with
  | nil => rfl
  | cons reading rest ih =>
    rw [untilCompletion]
    cases completes : reading.2.isCompletion with
    | true => simp [completes]
    | false => simp [completes, ih]

theorem readings_cons_of_dropped {key : Key} {now : Moment} {raw : Json}
    (unread : reading? key now raw = none) (rest : List (Moment × Json)) :
    readings key ((now, raw) :: rest) = readings key rest := by
  rw [readings, List.filterMap_cons, unread]
  rfl

/-- A message that is read adds one, with the moment at which it came in. -/
theorem readings_cons {key : Key} {now : Moment} {raw : Json} {inbound : Inbound}
    (read : reading? key now raw = some inbound) (rest : List (Moment × Json)) :
    readings key ((now, raw) :: rest) = (now, inbound) :: readings key rest := by
  rw [readings, List.filterMap_cons, read]
  rfl

namespace Inbound

def isAccepted : Inbound → Bool
  | .accepted => true
  | _ => false

/-- The step that is reported. -/
def step? (inbound : Inbound) (now : Moment) : Option Act.Step :=
  match inbound with
  | .step report => (Act.Step.ofMessage report now).toOption
  | _ => none

/-- The end that is reported. -/
def ending? : Inbound → Option Act.Ending
  | .completion report => report.operation.ending?
  | _ => none

end Inbound

/-! ## What readings make of an act -/

end BrowserAct.Channel

namespace BrowserAct.Act

open Channel

/-- What an act becomes by a list of readings. -/
def after (a : Act) (read : List (Moment × Inbound)) : Act :=
  { a with
    acknowledged := a.acknowledged || read.any (·.2.isAccepted)
    steps := a.steps ++ read.filterMap fun reading => reading.2.step? reading.1
    result := (read.findSome? (·.2.ending?)).or a.result
    endedAt := (read.findSome? fun reading => reading.2.ending?.map fun _ => reading.1).or a.endedAt }

@[simp] theorem after_nil (a : Act) : a.after [] = a := by
  simp [after]

/-- A reading that asks for nothing makes nothing of an act. -/
theorem after_cons_of_no_operation {inbound : Inbound} {now : Moment}
    (asked : inbound.operation? now = .ok none) (a : Act) (rest : List (Moment × Inbound)) :
    a.after ((now, inbound) :: rest) = a.after rest := by
  cases inbound with
  | tab | unknown => simp [after, Inbound.isAccepted, Inbound.step?, Inbound.ending?]
  | accepted | completion => cases asked
  | step report =>
    rw [Inbound.operation?] at asked
    cases made : Act.Step.ofMessage report now <;> rw [made] at asked <;> cases asked

/-- A reading that ends nothing makes of an act what its operation makes of it. -/
theorem after_cons_of_operation {inbound : Inbound} {now : Moment} {operation : Operation}
    (asked : inbound.operation? now = .ok (some operation))
    (goesOn : inbound.isCompletion = false) (a : Act) (rest : List (Moment × Inbound)) :
    a.after ((now, inbound) :: rest) = (a.perform operation now).after rest := by
  rcases Inbound.operation?_eq_some asked goesOn with ⟨rfl, rfl⟩ | ⟨report, step, rfl, made, rfl⟩
  · simp [after, perform, Inbound.isAccepted, Inbound.step?, Inbound.ending?]
  · simp [after, perform, Inbound.isAccepted, Inbound.step?, Inbound.ending?, made,
      Except.toOption]

/-- A completion ends an act. -/
theorem after_completion (a : Act) (now : Moment) (report : Completion) :
    a.after [(now, .completion report)] = a.perform report.operation now := by
  cases report <;>
    simp [after, perform, finish, Completion.operation, Operation.ending?, Inbound.isAccepted,
      Inbound.step?, Inbound.ending?]

/-- Every way of completion gives a result, whether the act succeeded or not. -/
theorem isComplete_perform_completion (a : Act) (now : Moment) (report : Completion) :
    (a.perform report.operation now).isComplete = true := by
  cases report <;> rfl

/-- Only a completion completes an act. -/
theorem isComplete_perform {inbound : Inbound} {now : Moment} {operation : Operation}
    (asked : inbound.operation? now = .ok (some operation))
    (goesOn : inbound.isCompletion = false) (a : Act) :
    (a.perform operation now).isComplete = a.isComplete := by
  rcases Inbound.operation?_eq_some asked goesOn with ⟨rfl, rfl⟩ | ⟨report, step, rfl, made, rfl⟩
    <;> rfl

/-- An act is complete after readings that report a completion. -/
theorem isComplete_after (a : Act) (read : List (Moment × Inbound)) :
    (a.after read).isComplete = (read.any (·.2.isCompletion) || a.isComplete) := by
  have ends (inbound : Inbound) : inbound.ending?.isSome = inbound.isCompletion := by
    cases inbound with
    | completion report => cases report <;> rfl
    | _ => rfl
  have found : (read.findSome? (·.2.ending?)).isSome = read.any (·.2.isCompletion) := by
    rw [List.isSome_findSome?]
    simp only [ends]
  show ((read.findSome? (·.2.ending?)).or a.result).isSome = _
  rw [Option.isSome_or, found]
  rfl

end BrowserAct.Act

namespace BrowserAct.Channel

namespace Binding

/-- A bound act becomes what the readings up to the first completion make of it, and is bound until
that completion. -/
theorem handleStream_of_open {a : Act} (isOpen : a.isComplete = false) (key : Key)
    (stream : List (Moment × Json)) :
    handleStream key (.act a.id true, a) stream =
      (.act a.id (!(untilCompletion (readings key stream)).any (·.2.isCompletion)),
        a.after (untilCompletion (readings key stream))) := by
  -- the act is open until the first completion, and complete acts take in nothing more
  induction stream generalizing a with
  | nil => simp [handleStream, readings, untilCompletion]
  | cons arrival rest ih =>
    obtain ⟨now, raw⟩ := arrival
    show handleStream key (take key now (.act a.id true, a) raw) rest = _
    cases read : reading? key now raw with
    | none =>
      rw [readings_cons_of_dropped read, take_of_dropped (reading?_eq_none_iff.mp read), ih isOpen]
    | some inbound =>
      obtain ⟨_, operation?, asked⟩ := reading?_eq_some_iff.mp read
      rw [readings_cons read, take_of_reading read, asked, untilCompletion]
      cases completes : inbound.isCompletion with
      | true =>
        -- the first completion is taken in, and the rest of the stream finds the act complete
        cases inbound with
        | completion report =>
          cases asked
          have complete := Act.isComplete_perform_completion a now report
          have sameId := (a.perform_request report.operation now).1
          have ignored := handleStream_of_complete complete key false rest
          rw [sameId] at ignored
          simp only [Act.apply_of_open isOpen, if_true, Act.after_completion]
          exact ignored
        | accepted | step | tab | unknown => cases completes
      | false =>
        cases operation? with
        | none =>
          simp only [Act.after_cons_of_no_operation asked, Bool.false_eq_true, if_false,
            List.any_cons, completes, Bool.false_or]
          exact ih isOpen
        | some operation =>
          have stillOpen := (Act.isComplete_perform asked completes a).trans isOpen
          have taken := ih stillOpen
          rw [(a.perform_request operation now).1] at taken
          simp only [Act.apply_of_open isOpen, Act.after_cons_of_operation asked completes,
            Bool.false_eq_true, if_false, List.any_cons, completes, Bool.false_or, Bool.not_false,
            Bool.and_true]
          exact taken

/-- Only an open act can be bound, and it is bound as open. -/
theorem bind_eq_ok {b bound : Binding} {a : Act} (binds : b.bind a = .ok bound) :
    a.isComplete = false ∧ bound = .act a.id true := by
  rw [bind] at binds
  split at binds
  · cases binds
  · rename_i isOpen
    refine ⟨by simpa using isOpen, ?_⟩
    -- another act may be bound already, as long as it is this one
    cases other : b.openAct? with
    | none =>
      simp only [other] at binds
      cases binds
      rfl
    | some id =>
      simp only [other] at binds
      split at binds
      · cases binds
        rfl
      · cases binds

/-- **The semantics of a stream.** Of the messages that come in for a bound act, those that are dropped
and those after the first completion leave the act and its binding as they are; the act is
acknowledged, takes its steps in order and ends as the readings up to the first completion say, and
nothing else of it changes. -/
theorem handleStream_of_bind {b bound : Binding} {a : Act} (binds : b.bind a = .ok bound)
    (key : Key) (stream : List (Moment × Json)) :
    (handleStream key (bound, a) stream =
      let read := untilCompletion (readings key stream)
      (.act a.id (!read.any (·.2.isCompletion)),
        { a with
          acknowledged := a.acknowledged || read.any (·.2.isAccepted)
          steps := a.steps ++ read.filterMap fun reading => reading.2.step? reading.1
          result := read.findSome? (·.2.ending?)
          endedAt :=
            (read.findSome? fun reading => reading.2.ending?.map fun _ => reading.1).or a.endedAt })) ∧
    ∀ (before : List (Moment × Json)) (now : Moment) (raw : Json),
      (Dropped key now raw ∨ ∃ reading ∈ readings key before, reading.2.isCompletion = true) →
        handleStream key (bound, a) (before ++ [(now, raw)]) =
          handleStream key (bound, a) before := by
  obtain ⟨isOpen, rfl⟩ := bind_eq_ok binds
  constructor
  · have noResult : a.result = none := by simpa [Act.isComplete] using isOpen
    rw [handleStream_of_open isOpen, Act.after, noResult, Option.or_none]
  · intro before now raw reason
    rw [handleStream_append]
    show take key now (handleStream key (.act a.id true, a) before) raw = _
    rcases reason with dropped | ⟨reading, mem, completes⟩
    · exact take_of_dropped dropped _
    · -- a completion came in before, so the act is complete by now
      have completed : (a.after (untilCompletion (readings key before))).isComplete = true := by
        rw [Act.isComplete_after, any_isCompletion_untilCompletion, Bool.or_eq_true]
        exact Or.inl (List.any_eq_true.mpr ⟨reading, mem, completes⟩)
      rw [handleStream_of_open isOpen]
      exact take_of_complete completed key now _ raw

end Binding

/-! ## An instance

A stream in which a message of every fate comes in: the heartbeat, one in plain text, an acceptance,
a step, a step that is none, a success, and after that a cancellation and another step. -/

namespace Sample

/-- The key of zeros. -/
def key : Key := ⟨List.replicate 32 0, List.length_replicate⟩

/-- The nonce of zeros. -/
def nonce : Cipher.Gcm.Nonce := ⟨List.replicate 12 0, List.length_replicate⟩

/-- An act without a limit of time. -/
def act : Act :=
  .new "act" ⟨"find socks", "session", "endpoint", none, 30, default⟩ 0

/-- A report of a step, which is none without a screenshot. -/
def step (screenshot : String) : Json := Message.step screenshot "p" "u" "return;"

/-- What the step is recorded as. -/
def recorded (now : Moment) : Act.Step :=
  ⟨"A", "p", "u", "", "return;", "", step "A", none, now⟩

def stream : List (Moment × Json) :=
  [(1, .string Message.heartbeat), (2, Message.accepted), (3, encrypt key nonce Message.accepted),
    (4, encrypt key nonce (step "A")), (5, encrypt key nonce (step "")),
    (6, encrypt key nonce (Message.success "wool")), (7, encrypt key nonce Message.canceled),
    (8, encrypt key nonce (step "A"))]

/-- A completion with its fields in order. -/
theorem completion_eq (response : Json) :
    Message.completion response =
      .object [("response", response), ("type", .string Message.completionType)] := by
  have order : "response" < "type" := by decide
  simp only [Message.completion, Json.ofFields, List.foldl_cons, List.foldl_nil,
    Json.Fields.insert_nil]
  rw [Json.Fields.insert_cons_of_lt order]

/-- A message of few levels comes back from its text. -/
theorem parse?_message {fields : List (String × Json)}
    (standard : ∀ field ∈ fields, field.2.Standard ∧ field.2.depth ≤ 2) :
    Json.parse? (Json.ofFields fields).compress = some (Json.ofFields fields) := by
  obtain ⟨hstandard, hdepth⟩ := Json.standard_ofFields standard
  exact Json.parse?_compress_of_standard hstandard (Nat.le_trans hdepth (by decide))

/-- The report of a completion is read back from its text. -/
theorem parse?_completion {fields : List (String × Json)}
    (standard : ∀ field ∈ fields, field.2.Standard ∧ field.2.depth ≤ 1) :
    Json.parse? (Message.completion (.ofFields fields)).compress =
      some (Message.completion (.ofFields fields)) := by
  refine parse?_message ?_
  simp only [List.forall_mem_cons]
  exact ⟨Json.standard_string _ 2, Json.standard_ofFields standard, List.forall_mem_nil _⟩

theorem parse?_step (screenshot : String) :
    Json.parse? (step screenshot).compress = some (step screenshot) := by
  have hmetadata : ∀ field ∈ [("activeURL", Json.string "u")],
      field.2.Standard ∧ field.2.depth ≤ 0 :=
    List.forall_mem_singleton.mpr (Json.standard_string _ 0)
  have hinput : ∀ field ∈ [("screenshot", Json.string screenshot), ("prompt", .string "p"),
      ("metadata", .ofFields [("activeURL", .string "u")])],
      field.2.Standard ∧ field.2.depth ≤ 1 := by
    simp only [List.forall_mem_cons]
    exact ⟨Json.standard_string _ 1, Json.standard_string _ 1, Json.standard_ofFields hmetadata,
      List.forall_mem_nil _⟩
  have houtput : ∀ field ∈ [("rawProgramBody", Json.string "return;")],
      field.2.Standard ∧ field.2.depth ≤ 1 :=
    List.forall_mem_singleton.mpr (Json.standard_string _ 1)
  refine parse?_message ?_
  simp only [List.forall_mem_cons]
  exact ⟨Json.standard_string _ 2, Json.standard_ofFields hinput, Json.standard_ofFields houtput,
    List.forall_mem_nil _⟩

theorem receive_accepted :
    receive key (encrypt key nonce Message.accepted) = .ok (some .accepted) := by
  have hread : Json.parse? Message.accepted.compress = some Message.accepted :=
    parse?_message (List.forall_mem_singleton.mpr (Json.standard_string _ 2))
  exact receive_encrypt hread rfl key nonce

theorem receive_success :
    receive key (encrypt key nonce (Message.success "wool")) =
      .ok (some (.completion (.success "wool"))) := by
  have hread : Json.parse? (Message.success "wool").compress = some (Message.success "wool") := by
    refine parse?_completion ?_
    simp only [List.forall_mem_cons]
    exact ⟨Json.standard_string _ 1, Json.standard_string _ 1, List.forall_mem_nil _⟩
  exact receive_encrypt hread rfl key nonce

theorem receive_canceled :
    receive key (encrypt key nonce Message.canceled) = .ok (some (.completion .canceled)) := by
  have hread : Json.parse? Message.canceled.compress = some Message.canceled :=
    parse?_completion (List.forall_mem_singleton.mpr (Json.standard_string _ 1))
  exact receive_encrypt hread rfl key nonce

theorem receive_step :
    receive key (encrypt key nonce (step "A")) = .ok (some (.step (step "A"))) :=
  receive_encrypt (parse?_step "A") rfl key nonce

/-- A report without a screenshot is received; it is the operation that it does not have. -/
theorem receive_noStep :
    receive key (encrypt key nonce (step "")) = .ok (some (.step (step ""))) :=
  receive_encrypt (parse?_step "") rfl key nonce

theorem readings_stream :
    readings key stream =
      [(3, .accepted), (4, .step (step "A")), (6, .completion (.success "wool")),
        (7, .completion .canceled), (8, .step (step "A"))] := by
  have heartbeat : reading? key 1 (.string Message.heartbeat) = none := by rfl
  have plain : reading? key 2 Message.accepted = none := by rfl
  have accepted : reading? key 3 (encrypt key nonce Message.accepted) = some .accepted := by
    rw [reading?, receive_accepted]
    rfl
  have stepped (now : Moment) :
      reading? key now (encrypt key nonce (step "A")) = some (.step (step "A")) := by
    rw [reading?, receive_step]
    rfl
  have refused : reading? key 5 (encrypt key nonce (step "")) = none := by
    rw [reading?, receive_noStep]
    rfl
  have succeeded : reading? key 6 (encrypt key nonce (Message.success "wool")) =
      some (.completion (.success "wool")) := by
    rw [reading?, receive_success]
    rfl
  have canceled : reading? key 7 (encrypt key nonce Message.canceled) =
      some (.completion .canceled) := by
    rw [reading?, receive_canceled]
    rfl
  -- the three that are dropped leave no trace
  rw [stream, readings_cons_of_dropped heartbeat, readings_cons_of_dropped plain,
    readings_cons accepted, readings_cons (stepped 4), readings_cons_of_dropped refused,
    readings_cons succeeded, readings_cons canceled, readings_cons (stepped 8)]
  rfl

/-- The act takes the acceptance, the step and the success, and what comes later is ignored. -/
theorem handleStream_stream :
    Binding.idle.bind act = .ok (.act "act" true) ∧
      Binding.handleStream key (.act "act" true, act) stream =
        (.act "act" false,
          { act with
            acknowledged := true, steps := [recorded 4], result := some (.succeeded "wool")
            endedAt := some 6 }) := by
  have binds : Binding.idle.bind act = .ok (.act "act" true) := rfl
  refine ⟨binds, ?_⟩
  rw [(Binding.handleStream_of_bind binds key stream).1, readings_stream]
  rfl

end Sample

end BrowserAct.Channel
