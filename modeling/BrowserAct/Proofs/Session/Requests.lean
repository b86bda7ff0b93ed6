import BrowserAct.Proofs.Dispatch.Extension.Log
import BrowserAct.Proofs.Dispatch.Planned.Log
import BrowserAct.Session.Client

/-!
# Requests to cancel between attempts

An act that fails at a short-term rate limit is dispatched again after a pause. Each dispatch clears the
flag by which others ask to cancel before it looks at it, and nothing looks at the flag between two
dispatches. So a request that comes while an attempt is ending that way, or in the pause after it, is
lost: another attempt follows.

* **`Loses`** says of the log of an act that an attempt was dispatched after a request.
* **`Lost`** says how that comes about, **`loses_append`** what it is in a log of several attempts.
* **`tells_reached`** is the induction over the attempts, for every dispatcher that is `Orderly`.
* **`act_loses_iff`** is about whole acts, with either dispatcher.
-/

namespace BrowserAct.Session

open Course (Event Extends)
open Course.Event (IsInner)

open Client (isShortTermLimit)

variable {σ : Type}

/-! ## Requests in a log -/

/-- All that happened in a part of a run, latest first. -/
abbrev Log := List (Moment × Event)

/-- A request to cancel, and what was logged after it. It was made once the first attempt in the log
had cleared the flag: an attempt does so right after the key was posted, and at once where it is not. -/
def RequestedBefore (log later : Log) : Prop :=
  ∃ now earlier, log = later ++ (now, .cancelRequested) :: earlier ∧
    (∃ entry ∈ earlier, entry.2.isDispatched = true) ∧
    ∀ entry ∈ later, entry.2.isKeyPosted = false

/-- A request is lost: an attempt is dispatched after it. -/
def Loses (log : Log) : Prop :=
  ∃ later, RequestedBefore log later ∧ ∃ entry ∈ later, entry.2.isDispatched = true

namespace Client

/-! ## How far the attempts come -/

/-- The act of an attempt. -/
def newAct (client : Client) (request : Act.Request) (s : State σ) : Act :=
  .new (client.actIds s.actCount) request s.course.now

/-- The course when an attempt is dispatched. -/
def begun (client : Client) (request : Act.Request) (s : State σ) : Course σ :=
  (client.note ("act(\"" ++ request.prompt ++ "\")") s).course.log
    (.dispatched (client.newAct request s))

/-- How far one attempt and up to so many more come: to the end, or to the dispatch of an attempt that
does not end. -/
def reached (client : Client) (d : Dispatcher σ) (request : Act.Request) : Nat → State σ → Course σ
  | 0, s =>
    match client.attempt d request s with
    | none => client.begun request s
    | some (_, last) => last.course
  | more + 1, s =>
    match client.attempt d request s with
    | none => client.begun request s
    | some (outcome, last) =>
      if isShortTermLimit outcome then reached client d request more (client.pause d last)
      else last.course

/-- Attempts that end are reached to their end. -/
theorem reached_of_attempts {client : Client} {d : Dispatcher σ} {request : Act.Request} {more : Nat}
    {s last : State σ} {outcome : Act.Outcome}
    (ended : client.attempts d request more s = some (outcome, last)) :
    client.reached d request more s = last.course := by
  induction more generalizing s with
  | zero =>
    rw [attempts] at ended
    rw [reached, ended]
  | succ more ih =>
    rw [attempts] at ended
    rw [reached]
    cases hattempt : client.attempt d request s with
    | none =>
      rw [hattempt] at ended
      cases ended
    | some came =>
      rw [hattempt] at ended
      dsimp only at ended ⊢
      -- another attempt, or the one that ended here
      split at ended <;> rename_i hlimit
      · rw [if_pos hlimit]
        exact ih ended
      · rw [if_neg hlimit]
        cases ended
        rfl

/-- How a request is lost: it is made in an attempt that ends at a short-term rate limit, or in the pause
after it, and another attempt is left. -/
inductive Lost (client : Client) (d : Dispatcher σ) (request : Act.Request) :
    Nat → State σ → Prop where
  | here {more : Nat} {s last : State σ} {outcome : Act.Outcome} {log later : Log}
      (attempted : client.attempt d request s = some (outcome, last))
      (limited : isShortTermLimit outcome = true)
      (logged : (client.pause d last).course.events = log ++ s.course.events)
      (requested : RequestedBefore log later) : Lost client d request (more + 1) s
  | later {more : Nat} {s last : State σ} {outcome : Act.Outcome}
      (attempted : client.attempt d request s = some (outcome, last))
      (limited : isShortTermLimit outcome = true)
      (lost : Lost client d request more (client.pause d last)) : Lost client d request (more + 1) s

end Client

/-! ## Logs that begin with a dispatch -/

/-- Lines of the trace, which stand before the dispatch of an attempt. -/
def Opening (log : Log) : Prop :=
  ∀ entry ∈ log, ∃ line, entry.2 = .traced line

variable {tail head later : Log} {now : Moment} {act : Act}

/-- Nothing is requested between a start and its dispatch. -/
theorem Opening.not_requested (opening : Opening head) {before after : Log} {asked : Moment}
    (split : head = before ++ (asked, .cancelRequested) :: after) : False := by
  have hmem : (asked, Event.cancelRequested) ∈ head := by
    rw [split]
    exact List.mem_append_right _ List.mem_cons_self
  obtain ⟨line, htraced⟩ := opening _ hmem
  cases htraced

/-- A request after the first dispatch is one among what was logged after it. -/
theorem requestedBefore_iff (opening : Opening head) :
    RequestedBefore (tail ++ (now, .dispatched act) :: head) later ↔
      ∃ asked between, tail = later ++ (asked, .cancelRequested) :: between ∧
        ∀ entry ∈ later, entry.2.isKeyPosted = false := by
  constructor
  · rintro ⟨asked, earlier, hlog, -, hkey⟩
    rcases List.append_eq_append_iff.mp hlog with ⟨rest, -, hrest⟩ | ⟨rest, htail, hrest⟩
    -- the request would be the dispatch, or stand before it
    · cases rest with
      | nil => cases hrest
      | cons first rest =>
        obtain ⟨-, hhead⟩ := List.cons.inj hrest
        exact (opening.not_requested hhead).elim
    · cases rest with
      | nil => cases hrest
      | cons first between =>
        obtain ⟨rfl, -⟩ := List.cons.inj hrest
        exact ⟨asked, between, htail, hkey⟩
  · rintro ⟨asked, between, rfl, hkey⟩
    refine ⟨asked, between ++ (now, .dispatched act) :: head, by simp, ?_, hkey⟩
    exact ⟨(now, .dispatched act), List.mem_append_right _ List.mem_cons_self, rfl⟩

/-- A loss after the first dispatch, told from the entries behind it. -/
theorem loses_iff (opening : Opening head) :
    Loses (tail ++ (now, .dispatched act) :: head) ↔
      ∃ later asked between, tail = later ++ (asked, .cancelRequested) :: between ∧
        (∀ entry ∈ later, entry.2.isKeyPosted = false) ∧
        ∃ entry ∈ later, entry.2.isDispatched = true := by
  constructor
  · rintro ⟨later, hrequested, hdispatched⟩
    obtain ⟨asked, between, htail, hkey⟩ := (requestedBefore_iff opening).mp hrequested
    exact ⟨later, asked, between, htail, hkey, hdispatched⟩
  · rintro ⟨later, asked, between, htail, hkey, hdispatched⟩
    exact ⟨later, (requestedBefore_iff opening).mpr ⟨asked, between, htail, hkey⟩, hdispatched⟩

/-- With one dispatch nothing is lost. -/
theorem not_loses_of_single (opening : Opening head)
    (single : ∀ entry ∈ tail, entry.2.isDispatched = false) :
    ¬ Loses (tail ++ (now, .dispatched act) :: head) := by
  intro loses
  obtain ⟨later, asked, between, rfl, -, entry, hmem, hdispatched⟩ := (loses_iff opening).mp loses
  rw [single entry (List.mem_append_left _ hmem)] at hdispatched
  cases hdispatched

/-- **What is lost in a log of several attempts**: a request of the first attempt, after which another was
dispatched, or one of the later attempts. -/
theorem loses_append {earlier opened : Log} {began : Moment} {first : Act}
    (opening : Opening head) (opening' : Opening opened)
    (key : ∀ entry ∈ tail, entry.2.isKeyPosted = false) :
    Loses (tail ++ (now, .dispatched act) ::
        (head ++ (earlier ++ (began, .dispatched first) :: opened))) ↔
      (∃ later, RequestedBefore (earlier ++ (began, .dispatched first) :: opened) later) ∨
        Loses (tail ++ (now, .dispatched act) :: head) := by
  have hlog : tail ++ (now, .dispatched act) ::
        (head ++ (earlier ++ (began, .dispatched first) :: opened)) =
      (tail ++ (now, .dispatched act) :: (head ++ earlier)) ++ (began, .dispatched first) :: opened := by
    simp
  rw [hlog, loses_iff opening', loses_iff opening]
  constructor
  · rintro ⟨later, asked, between, hsplit, hkey, hdispatched⟩
    -- the request stands before the second dispatch or after it
    rcases List.append_eq_append_iff.mp hsplit with ⟨rest, rfl, hrest⟩ | ⟨rest, htail, hrest⟩
    · cases rest with
      | nil => cases hrest
      | cons _ rest =>
        obtain ⟨rfl, hbefore⟩ := List.cons.inj hrest
        rcases List.append_eq_append_iff.mp hbefore with ⟨mine, rfl, hmine⟩ | ⟨rest, hhead, hmine⟩
        · refine .inl ⟨mine, (requestedBefore_iff opening').mpr ⟨asked, between, hmine, ?_⟩⟩
          exact fun entry hmem => hkey entry (by simp [hmem])
        · cases rest with
          | nil =>
            refine .inl ⟨[], (requestedBefore_iff opening').mpr ⟨asked, between, hmine.symm, ?_⟩⟩
            exact List.forall_mem_nil _
          | cons _ rest =>
            obtain ⟨rfl, -⟩ := List.cons.inj hmine
            exact (opening.not_requested hhead).elim
    · cases rest with
      | nil => cases hrest
      | cons _ rest =>
        obtain ⟨rfl, -⟩ := List.cons.inj hrest
        exact .inr ⟨later, asked, rest, htail, hkey, hdispatched⟩
  · rintro (⟨later, hrequested⟩ | ⟨later, asked, between, rfl, hkey, hdispatched⟩)
    -- the dispatch that is lost on a request of the first attempt is the second one
    · obtain ⟨asked, between, rfl, hkey⟩ := (requestedBefore_iff opening').mp hrequested
      refine ⟨tail ++ (now, .dispatched act) :: (head ++ later), asked, between, by simp, ?_, ?_⟩
      · intro entry hmem
        simp only [List.mem_append, List.mem_cons] at hmem
        rcases hmem with hmem | rfl | hmem | hmem
        · exact key entry hmem
        · rfl
        · obtain ⟨line, htraced⟩ := opening entry hmem
          rw [htraced]
          rfl
        · exact hkey entry hmem
      · exact ⟨(now, .dispatched act), by simp, rfl⟩
    · exact ⟨later, asked, _, by simp; rfl, hkey, hdispatched⟩

/-! ## Dispatchers -/

/-- What both dispatchers do: a dispatch dispatches no other act, and the key is not posted any more once
a dispatch has come so far as to fail at a rate limit. -/
structure Orderly (d : Dispatcher σ) (ready : σ → Prop) : Prop where
  dispatch : ∀ {act act' : Act} {c c' : Course σ} {outcome : Act.Outcome},
    d.dispatch act c = some (outcome, act', c') →
      Extends (fun event => event.isDispatched = false) c c' ∧
        (ready c.world → Extends IsInner c c') ∧
        (isShortTermLimit outcome = true → ready c'.world)
  pause : ∀ (duration : Duration) (world : σ), ready world → ready (d.pause duration world).world

open Dispatch.Extension (Surface Settings Link) in
/-- The dispatcher for the extension is orderly: after a limit the key is installed. -/
theorem orderly_extension (surface : Surface σ) (settings : Settings) (fuel : Nat)
    (pause : Duration → σ → Reaction σ Unit) :
    Orderly (.extension surface settings fuel pause)
      (fun link : Link σ => link.keyInstalled = true) where
  dispatch {act act' c c' outcome} dispatched := by
    obtain ⟨⟨came, r⟩, hdispatch, heq⟩ := Option.map_eq_some_iff.mp dispatched
    cases heq
    obtain ⟨hlog, hinner, hkey⟩ := Dispatch.Extension.dispatch_inner hdispatch
    refine ⟨hlog, hinner, fun limited => hkey.resolve_right ?_⟩
    rintro ⟨failure, rfl, hkind⟩
    rw [isShortTermLimit, hkind] at limited
    cases limited
  pause _ _ ready := ready

open Dispatch.Planned (Site Settings) in
theorem orderly_planned (site : Site σ) (settings : Settings)
    (pause : Duration → σ → Reaction σ Unit) :
    Orderly (.planned site settings pause) (fun _ => True) where
  dispatch {act act' c c' outcome} dispatched := by
    cases dispatched
    have hinner := Dispatch.Planned.dispatch_inner site settings act c
    exact ⟨hinner.mono fun _ h => h.1, fun _ => hinner, fun _ => trivial⟩
  pause _ _ _ := trivial

/-! ## Attempts -/

namespace Client

variable {client : Client} {d : Dispatcher σ} {ready : σ → Prop} {request : Act.Request}

/-- An attempt begins with a line of the trace and the dispatch. -/
theorem events_begun (client : Client) (request : Act.Request) (s : State σ) :
    ∃ head, (client.begun request s).events =
      (s.course.now, .dispatched (client.newAct request s)) :: (head ++ s.course.events) ∧
        Opening head := by
  refine ⟨[(s.course.now, .traced (client.trace.line ("act(\"" ++ request.prompt ++ "\")")))], rfl, ?_⟩
  intro entry hmem
  rw [List.mem_singleton] at hmem
  subst hmem
  exact ⟨_, rfl⟩

/-- The log of one attempt. -/
theorem attempt_log (orderly : Orderly d ready) {s last : State σ} {outcome : Act.Outcome}
    (attempted : client.attempt d request s = some (outcome, last)) :
    ∃ tail, last.course.events = tail ++ (client.begun request s).events ∧
      (∀ entry ∈ tail, entry.2.isDispatched = false) ∧
      (ready s.course.world → ∀ entry ∈ tail, entry.2.isKeyPosted = false) ∧
      (isShortTermLimit outcome = true → ready last.course.world) := by
  obtain ⟨⟨came, act', course⟩, hdispatch, hlast⟩ := Option.bind_eq_some_iff.mp attempted
  cases hlast
  obtain ⟨⟨tail, htail, hdispatched⟩, hinner, hlimited⟩ := orderly.dispatch hdispatch
  refine ⟨tail, htail, hdispatched, fun hready => ?_, hlimited⟩
  obtain ⟨tail', htail', hkind⟩ := hinner hready
  obtain rfl : tail' = tail := List.append_cancel_right (htail'.symm.trans htail)
  exact fun entry hmem => (hkind entry hmem).2

/-- The log of a pause. -/
theorem pause_log (client : Client) (orderly : Orderly d ready) (s : State σ) :
    Extends IsInner s.course (client.pause d s).course ∧
      (ready s.course.world → ready (client.pause d s).course.world) := by
  have hpaused : Extends IsInner s.course (s.course.log (.paused client.retry.delay)) :=
    Course.extends_log ⟨rfl, rfl⟩ s.course
  refine ⟨hpaused.trans (Course.extends_await ⟨rfl, rfl⟩ _ _), fun hready => ?_⟩
  have hworld : (client.pause d s).course.world =
      (d.pause client.retry.delay s.course.world).world := by
    rw [pause, Course.await, Course.react]
    dsimp only
    split <;> rfl
  rw [hworld]
  exact orderly.pause _ _ hready

/-- What the log tells of attempts that begin in a state: whether one is dispatched after a request. -/
def Tells (ready : σ → Prop) (s : State σ) (c : Course σ) (lost : Prop) : Prop :=
  ∃ tail now act head, c.events = tail ++ (now, .dispatched act) :: (head ++ s.course.events) ∧
    Opening head ∧ (ready s.course.world → ∀ entry ∈ tail, entry.2.isKeyPosted = false) ∧
    (Loses (tail ++ (now, .dispatched act) :: head) ↔ lost)

/-- Attempts that come no further than their first. -/
theorem tells_single {s : State σ} {c : Course σ} {lost : Prop} {tail : Log}
    (logged : c.events = tail ++ (client.begun request s).events)
    (single : ∀ entry ∈ tail, entry.2.isDispatched = false)
    (key : ready s.course.world → ∀ entry ∈ tail, entry.2.isKeyPosted = false) (notLost : ¬ lost) :
    Tells ready s c lost := by
  obtain ⟨head, hbegun, hopening⟩ := events_begun client request s
  refine ⟨tail, _, _, head, by rw [logged, hbegun], hopening, key, fun loses => ?_,
    fun lost => absurd lost notLost⟩
  exact absurd loses (not_loses_of_single hopening single)

/-- An attempt that ends at a short-term rate limit, the pause after it, and the attempts after that. -/
theorem tells_more (orderly : Orderly d ready) {s last : State σ} {outcome : Act.Outcome}
    (attempted : client.attempt d request s = some (outcome, last))
    (limited : isShortTermLimit outcome = true) {c : Course σ} {lost : Prop}
    (tells : Tells ready (client.pause d last) c lost) :
    Tells ready s c ((∃ log later, (client.pause d last).course.events = log ++ s.course.events ∧
      RequestedBefore log later) ∨ lost) := by
  obtain ⟨earlier, hattempt, -, hkey, hready⟩ := attempt_log orderly attempted
  obtain ⟨opened, hbegun, hopened⟩ := events_begun client request s
  obtain ⟨⟨paused, hpause, hinner⟩, hstays⟩ := pause_log client orderly last
  obtain ⟨tail, now, act, head, hlogged, hopening, hlater, hloses⟩ := tells
  -- the key was delivered before the attempt failed at the limit, so no later one posts it
  have hnoKey := hlater (hstays (hready limited))
  have hduring : (client.pause d last).course.events =
      (paused ++ earlier ++ (s.course.now, .dispatched (client.newAct request s)) :: opened) ++
        s.course.events := by
    rw [hpause, hattempt, hbegun]
    simp
  refine ⟨tail ++ (now, .dispatched act) :: (head ++ (paused ++ earlier)), s.course.now,
    client.newAct request s, opened, ?_, hopened, fun hbefore entry hmem => ?_, ?_⟩
  · rw [hlogged, hduring]
    simp
  · simp only [List.mem_append, List.mem_cons] at hmem
    rcases hmem with hmem | rfl | hmem | hmem | hmem
    · exact hnoKey entry hmem
    · rfl
    · obtain ⟨line, htraced⟩ := hopening entry hmem
      rw [htraced]
      rfl
    · exact (hinner entry hmem).2
    · exact hkey hbefore entry hmem
  · have hsame : tail ++ (now, Event.dispatched act) :: (head ++ (paused ++ earlier)) ++
          (s.course.now, .dispatched (client.newAct request s)) :: opened =
        tail ++ (now, .dispatched act) :: (head ++ (paused ++ earlier ++
          (s.course.now, .dispatched (client.newAct request s)) :: opened)) := by
      simp
    rw [hsame, loses_append hopening hopened hnoKey, hloses]
    refine or_congr ⟨?_, ?_⟩ Iff.rfl
    · rintro ⟨later, hrequested⟩
      exact ⟨_, later, hduring, hrequested⟩
    · rintro ⟨log, later, hlog, hrequested⟩
      obtain rfl := List.append_cancel_right (hlog.symm.trans hduring)
      exact ⟨later, hrequested⟩

/-- Another attempt is left only after one that ended at a short-term rate limit. -/
theorem lost_succ_iff {more : Nat} {s last : State σ} {outcome : Act.Outcome}
    (attempted : client.attempt d request s = some (outcome, last))
    (limited : isShortTermLimit outcome = true) :
    Lost client d request (more + 1) s ↔
      (∃ log later, (client.pause d last).course.events = log ++ s.course.events ∧
        RequestedBefore log later) ∨ Lost client d request more (client.pause d last) := by
  constructor
  · rintro (⟨attempted', -, logged, requested⟩ | ⟨attempted', -, lost⟩) <;>
      cases attempted.symm.trans attempted'
    · exact .inl ⟨_, _, logged, requested⟩
    · exact .inr lost
  · rintro (⟨log, later, logged, requested⟩ | lost)
    · exact .here attempted limited logged requested
    · exact .later attempted limited lost

/-- **All attempts.** The induction is on the number of attempts that are left. -/
theorem tells_reached (client : Client) (request : Act.Request) (orderly : Orderly d ready)
    (more : Nat) (s : State σ) :
    Tells ready s (client.reached d request more s) (Lost client d request more s) := by
  have hnothing : ∀ entry ∈ ([] : Log), entry.2.isDispatched = false := List.forall_mem_nil _
  induction more generalizing s with
  | zero =>
    -- a single attempt has no later dispatch on which a request could be lost
    have hnotLost : ¬ Lost client d request 0 s := fun lost => by cases lost
    rw [reached]
    cases hattempt : client.attempt d request s with
    | none =>
      have hlogged : (client.begun request s).events = [] ++ (client.begun request s).events := rfl
      exact tells_single hlogged hnothing (fun _ => List.forall_mem_nil _) hnotLost
    | some ended =>
      obtain ⟨tail, hlogged, hsingle, hkey, -⟩ := attempt_log orderly hattempt
      exact tells_single hlogged hsingle hkey hnotLost
  | succ more ih =>
    rw [reached]
    cases hattempt : client.attempt d request s with
    | none =>
      have hnotLost : ¬ Lost client d request (more + 1) s := by
        rintro (⟨hattempt', _⟩ | ⟨hattempt', _⟩) <;> cases hattempt.symm.trans hattempt'
      have hlogged : (client.begun request s).events = [] ++ (client.begun request s).events := rfl
      exact tells_single hlogged hnothing (fun _ => List.forall_mem_nil _) hnotLost
    | some ended =>
      obtain ⟨outcome, last⟩ := ended
      cases hlimited : isShortTermLimit outcome with
      -- at a short-term limit the attempt before the pause and those after it are put together
      | true =>
        dsimp only
        rw [if_pos hlimited, lost_succ_iff hattempt hlimited]
        exact tells_more orderly hattempt hlimited (ih (client.pause d last))
      -- any other outcome ends the attempts
      | false =>
        have hnotLost : ¬ Lost client d request (more + 1) s := by
          rintro (⟨hattempt', hlimited', _⟩ | ⟨hattempt', hlimited', _⟩) <;>
            cases hattempt.symm.trans hattempt' <;> rw [hlimited] at hlimited' <;> cases hlimited'
        obtain ⟨tail, hlogged, hsingle, hkey, -⟩ := attempt_log orderly hattempt
        dsimp only
        rw [hlimited]
        exact tells_single hlogged hsingle hkey hnotLost

/-! ## Acts -/

/-- How far an act comes. One that is not started or not asked for properly has no attempt. -/
def actReached (client : Client) (d : Dispatcher σ) (prompt : String) (options : Options)
    (s : State σ) : Course σ :=
  if !s.started then s.course
  else
    match client.prepare prompt options with
    | .error _ => s.course
    | .ok order => client.reached d order.request (client.retry.tries - 1) s

/-- What is so of every act: its log loses a request exactly if one is made in an attempt, or in the
pause after it, that is not the last and ended at a short-term rate limit. -/
def LosesExactly (client : Client) (d : Dispatcher σ) (prompt : String) (options : Options)
    (s : State σ) : Prop :=
  (∃ log, (client.actReached d prompt options s).events = log ++ s.course.events ∧
    (Loses log ↔ s.started = true ∧ ∃ order, client.prepare prompt options = .ok order ∧
      Lost client d order.request (client.retry.tries - 1) s)) ∧
  ∀ result last, client.act d prompt options s = some (result, last) →
    last.course = client.actReached d prompt options s

/-- With an orderly dispatcher, requests are lost exactly as described. -/
theorem losesExactly (orderly : Orderly d ready) (prompt : String) (options : Options)
    (s : State σ) : LosesExactly client d prompt options s := by
  -- an act that is not dispatched has lost nothing
  have hnothing : ¬ Loses [] := by
    rintro ⟨later, ⟨asked, earlier, hlog, -⟩, -⟩
    cases later <;> cases hlog
  rw [LosesExactly, actReached]
  cases hstarted : s.started with
  | false =>
    refine ⟨⟨[], rfl, fun loses => absurd loses hnothing, fun ⟨hnot, _⟩ => by cases hnot⟩, ?_⟩
    intro result last ended
    rw [act, hstarted] at ended
    cases ended
    rfl
  | true =>
    cases hprepare : client.prepare prompt options with
    | error cause =>
      refine ⟨⟨[], rfl, fun loses => absurd loses hnothing, fun ⟨_, _, hnot, _⟩ => by cases hnot⟩, ?_⟩
      intro result last ended
      rw [act, hstarted, hprepare] at ended
      cases ended
      rfl
    -- the attempts tell what was lost, from the first dispatch on
    | ok order =>
      obtain ⟨tail, now, first, head, hlogged, -, -, hloses⟩ :=
        tells_reached client order.request orderly (client.retry.tries - 1) s
      refine ⟨⟨tail ++ (now, .dispatched first) :: head, ?_, ?_⟩, ?_⟩
      · rw [List.append_assoc]
        exact hlogged
      · rw [hloses]
        constructor
        · exact fun lost => ⟨rfl, order, rfl, lost⟩
        · rintro ⟨-, _, hsame, lost⟩
          cases hsame
          exact lost
      · intro result last ended
        rw [act, hstarted, hprepare] at ended
        obtain ⟨⟨outcome, last⟩, hattempts, heq⟩ := Option.map_eq_some_iff.mp ended
        cases heq
        exact (reached_of_attempts hattempts).symm

/-- **When a request to cancel is lost between attempts.** With either dispatcher, and however far an act
comes: an attempt is dispatched after a request exactly if a request is made in an attempt that ends
at a short-term rate limit while another is left, or in the pause after such an attempt. -/
theorem act_loses_iff (client : Client) (prompt : String) (options : Options) :
    (∀ (surface : Dispatch.Extension.Surface σ) (settings : Dispatch.Extension.Settings) (fuel : Nat)
      (pause : Duration → σ → Reaction σ Unit) (s : State (Dispatch.Extension.Link σ)),
      LosesExactly client (.extension surface settings fuel pause) prompt options s) ∧
    (∀ (site : Dispatch.Planned.Site σ) (settings : Dispatch.Planned.Settings)
      (pause : Duration → σ → Reaction σ Unit) (s : State σ),
      LosesExactly client (.planned site settings pause) prompt options s) :=
  ⟨fun surface settings fuel pause =>
      losesExactly (orderly_extension surface settings fuel pause) prompt options,
    fun site settings pause => losesExactly (orderly_planned site settings pause) prompt options⟩

namespace Sample

open Dispatch.Planned (Site)

/-- A planner that is over its limit at the first request, which is when the user asks to cancel. -/
def site : Site Nat where
  settle _ n := ⟨⟨(), n, false⟩, 0, ⟨.ok .null, n, false⟩⟩
  observe n := ⟨⟨(), n, false⟩, 0, ⟨.ok ⟨"", [], [], "AAAA", "", 0, ""⟩, n, false⟩⟩
  toBrowser := .of fun _ n => .atOnce ⟨.ok .null, n, false⟩
  plan _ _ n :=
    ⟨⟨(), n, false⟩, 0, ⟨.ok (.failed (.ofFields [("type", .string Act.Payload.serviceType),
      ("code", .string "TOO_MANY_REQUESTS")])), n + 1, n == 0⟩⟩

/-- A session with two attempts for each act. -/
def session : Client where
  trace := ⟨"session", true⟩
  actIds n := toString n

def options : Options :=
  ⟨none, none, none, none, ⟨none, none, none⟩⟩

/-- The log of one act in this session. -/
def log : Log :=
  (session.actReached (.planned site Dispatch.Planned.Sample.settings) "find wool" options
    ⟨true, 0, .start 0⟩).events

/-- The request comes with the answer that ends the first attempt, and the second is dispatched. -/
theorem request_lost :
    (∃ result last, session.act (.planned site Dispatch.Planned.Sample.settings) "find wool" options
        ⟨true, 0, .start 0⟩ = some (result, last) ∧ last.course.events = log) ∧ Loses log := by
  refine ⟨⟨_, _, rfl, rfl⟩, log.take 11, ⟨0, log.drop 12, rfl, ?_, ?_⟩, ?_⟩
  · exact List.any_eq_true.mp (rfl : (log.drop 12).any (·.2.isDispatched) = true)
  · have hkey : (log.take 11).all (!·.2.isKeyPosted) = true := rfl
    intro entry hmem
    simpa using List.all_eq_true.mp hkey entry hmem
  · exact List.any_eq_true.mp (rfl : (log.take 11).any (·.2.isDispatched) = true)

end Sample

end Client

end BrowserAct.Session
