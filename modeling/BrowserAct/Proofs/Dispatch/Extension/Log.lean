import BrowserAct.Proofs.Course.Extends
import BrowserAct.Proofs.Dispatch.Extension.Moves

/-!
# What a dispatch through the extension adds to the log

The key is posted before anything else and only if it was not delivered before. What follows is the work
on one act, and no other act is dispatched in it.

* **`inner_of_moves`** is the work on an act.
* **`dispatch_inner`** is a whole dispatch.
-/

namespace BrowserAct.Dispatch.Extension

open Course (Extends)
open Course.Event (IsInner)

variable {σ α : Type} {surface : Surface σ} {settings : Settings}

/-! ## Moves -/

theorem inner_await (c : Course (Link σ)) (move : σ → Pending σ α) :
    Extends IsInner c (await c move).2 :=
  Course.extends_await ⟨rfl, rfl⟩ c _

theorem keyInstalled_await (c : Course (Link σ)) (move : σ → Pending σ α) :
    (await c move).2.world.keyInstalled = c.world.keyInstalled := by
  rw [world_await]

/-- Posting is inner. -/
theorem inner_post (message : Json) (c : Course (Link σ)) :
    Extends IsInner c (post surface settings message c) ∧
      (post surface settings message c).world.keyInstalled = c.world.keyInstalled := by
  let counted := { c with world := { c.world with envelopeCount := c.world.envelopeCount + 1 } }
  let envelope := Channel.encrypt settings.key (settings.nonces c.world.envelopeCount) message
  have hbegun : Extends IsInner c (counted.log (.posting message)) :=
    Course.extends_log (c := counted) ⟨rfl, rfl⟩
  have hinner := inner_await (counted.log (.posting message)) (surface.post c.now envelope)
  have hkey := keyInstalled_await (counted.log (.posting message)) (surface.post c.now envelope)
  rw [post]
  exact ⟨(hbegun.trans hinner).trans (Course.extends_log ⟨rfl, rfl⟩ _), hkey⟩

theorem inner_poll (r : Run σ) :
    Extends IsInner r.course (poll surface settings r).course ∧
      (poll surface settings r).course.world.keyInstalled = r.course.world.keyInstalled := by
  have hfetch := fetch_eq surface settings r.course
  have hinner := inner_await (r.course.advance settings.timings.pollInterval)
    (surface.drain (r.course.now + settings.timings.pollInterval))
  have hkey := keyInstalled_await (r.course.advance settings.timings.pollInterval)
    (surface.drain (r.course.now + settings.timings.pollInterval))
  rw [poll, hfetch]
  exact ⟨Extends.trans hinner (Course.extends_log ⟨rfl, rfl⟩ _), hkey⟩

/-- No move dispatches an act or posts the key. -/
theorem inner_of_move {r r' : Run σ} (move : Move surface settings r r') :
    Extends IsInner r.course r'.course ∧
      r'.course.world.keyInstalled = r.course.world.keyInstalled := by
  cases move with
  | poll => exact inner_poll r
  | post message => exact inner_post message r.course
  | expire => exact inner_post _ r.course
  | pause | hear | fail => exact ⟨.of_events_eq rfl, rfl⟩
  | trace lines =>
    refine ⟨Course.extends_trace (fun _ => ⟨rfl, rfl⟩) r.course lines, ?_⟩
    dsimp only
    rw [Course.world_trace]

theorem inner_of_moves {r r' : Run σ} (moves : Moves surface settings r r') :
    Extends IsInner r.course r'.course ∧
      r'.course.world.keyInstalled = r.course.world.keyInstalled := by
  refine moves.preserves (P := fun s => Extends IsInner r.course s.course ∧
    s.course.world.keyInstalled = r.course.world.keyInstalled) ?_ ⟨.refl _, rfl⟩
  rintro s s' move ⟨hinner, hkey⟩
  obtain ⟨hinner', hkey'⟩ := inner_of_move move
  exact ⟨hinner.trans hinner', hkey'.trans hkey⟩

/-! ## Whole dispatches -/

/-- Posting the key is no dispatch, and is done only where it was not delivered before. -/
theorem installKey_log (surface : Surface σ) (settings : Settings) (c : Course (Link σ)) :
    Extends (fun event => event.isDispatched = false) c (installKey surface settings c).2 ∧
      (c.world.keyInstalled = true → (installKey surface settings c).2 = c) ∧
      ((installKey surface settings c).1 = .ok () →
        (installKey surface settings c).2.world.keyInstalled = true) := by
  rw [installKey]
  split
  · rename_i hinstalled
    exact ⟨.refl c, fun _ => rfl, fun _ => hinstalled⟩
  -- the key is posted: that is logged, but it is no dispatch
  · rename_i hmissing
    have hposting := (inner_await c (surface.post c.now settings.key.setKeyMessage)).mono
      fun _ hinner => hinner.1
    refine ⟨hposting.trans ?_, fun hinstalled => absurd hinstalled hmissing, fun hok => ?_⟩
    · exact Course.extends_log (P := fun event => event.isDispatched = false) rfl _
    · dsimp only at hok ⊢
      rw [hok]
      rfl

/-- A run dispatches no other act, posts the key only where that is missing, and leaves it delivered
unless it fails for that. -/
theorem run_inner (surface : Surface σ) (settings : Settings) (fuel : Nat) (act : Act)
    (c : Course (Link σ)) :
    Extends (fun event => event.isDispatched = false) c (run surface settings fuel act c).2.course ∧
      (c.world.keyInstalled = true →
        Extends IsInner c (run surface settings fuel act c).2.course) ∧
      ((run surface settings fuel act c).2.course.world.keyInstalled = true ∨
        ∃ cause, (run surface settings fuel act c).1 = some (some (.channel cause))) := by
  obtain ⟨hlog, hsame, hinstalled⟩ := installKey_log surface settings c
  rw [run]
  generalize installKey surface settings c = installed at hlog hsame hinstalled ⊢
  obtain ⟨answer, c'⟩ := installed
  dsimp only at hlog hsame hinstalled
  cases answer with
  | error cause =>
    exact ⟨hlog, fun hready => .of_events_eq (congrArg Course.events (hsame hready)),
      .inr ⟨cause, rfl⟩⟩
  | ok _ =>
    dsimp only
    cases c'.world.binding.bind act with
    | error cause =>
      exact ⟨hlog, fun hready => .of_events_eq (congrArg Course.events (hsame hready)),
        .inr ⟨cause, rfl⟩⟩
    | ok binding =>
      dsimp only
      obtain ⟨hinner, hkey⟩ := inner_of_moves (moves_runBound surface settings fuel
        ⟨act, (rebind c' binding).resetCancel⟩)
      -- binding the act and clearing the flag are not logged
      have hbound : Extends IsInner c' (rebind c' binding).resetCancel := .of_events_eq rfl
      refine ⟨hlog.trans ((hbound.trans hinner).mono fun _ h => h.1), fun hready => ?_,
        .inl (hkey.trans (hinstalled rfl))⟩
      rw [hsame hready] at hinner hbound ⊢
      exact hbound.trans hinner

/-- **A whole dispatch.** -/
theorem dispatch_inner {fuel : Nat} {act : Act} {c : Course (Link σ)} {outcome : Act.Outcome}
    {r : Run σ} (answered : dispatch surface settings fuel act c = some (outcome, r)) :
    Extends (fun event => event.isDispatched = false) c r.course ∧
      (c.world.keyInstalled = true → Extends IsInner c r.course) ∧
      (r.course.world.keyInstalled = true ∨
        ∃ failure, outcome = .error failure ∧ failure.kind = .client) := by
  obtain ⟨hlog, hinner, hkey⟩ := run_inner surface settings fuel act c
  rw [dispatch, dispatchWithin] at answered
  rcases hrun : run surface settings fuel act c with ⟨trouble?, last⟩
  rw [hrun] at answered hlog hinner hkey
  cases trouble? with
  | none => cases answered
  | some trouble =>
    cases answered
    -- only the window is released, which is not logged
    refine ⟨hlog, hinner, hkey.imp_right ?_⟩
    rintro ⟨cause, heq⟩
    cases heq
    exact ⟨_, rfl, by simp [actFailure, Trouble.kind]⟩

end BrowserAct.Dispatch.Extension
