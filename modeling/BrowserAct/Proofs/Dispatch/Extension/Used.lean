import BrowserAct.Dispatch.Extension.Page
import BrowserAct.Proofs.Dispatch.Extension.Ending

/-!
# The states of a dispatcher between its calls

A dispatcher is used for one call after the other: acts, pages that are to settle, addresses. Each call
binds what it is about to the window and leaves the window empty, however it ends. So no later call
finds anything bound, and what it returns is about its own act only.

* **`Used`** are the states between the calls, **`Used.idle`** says that nothing is bound there.
* **`Ends`** are the ways in which a dispatch can end, and **`dispatched_of_idle`** says that there are
  no others.
-/

namespace BrowserAct.Dispatch.Extension

variable {σ : Type} {surface : Surface σ} {settings : Settings}

/-! ## The states between calls -/

/-- A state of a dispatcher between calls. Acts of any kind can have been dispatched before; between the
calls only the surroundings of the link change, with the clock, the log and the requests to cancel. -/
inductive Used (surface : Surface σ) (settings : Settings) : Course (Link σ) → Prop where
  | new {c : Course (Link σ)} (fresh : c.world = .new c.world.surface) : Used surface settings c
  | dispatched {c : Course (Link σ)} {fuel : Nat} {act : Act} {outcome : Act.Outcome} {r : Run σ}
      (used : Used surface settings c)
      (answered : dispatch surface settings fuel act c = some (outcome, r)) :
      Used surface settings r.course
  | settled {c c' : Course (Link σ)} {fuel : Nat} {sessionId : String} {timeout : Option Duration}
      {result : Except Act.Failure Unit} (used : Used surface settings c)
      (answered : settlePage surface settings fuel sessionId timeout c = some (result, c')) :
      Used surface settings c'
  | navigated {c c' : Course (Link σ)} {fuel : Nat} {url sessionId : String}
      {timeout : Option Duration} {result : Except Act.Failure Unit}
      (used : Used surface settings c)
      (answered : goToUrl surface settings fuel url sessionId timeout c = some (result, c')) :
      Used surface settings c'
  | outside {c c' : Course (Link σ)} (used : Used surface settings c)
      (link : c'.world = { c.world with surface := c'.world.surface }) : Used surface settings c'

/-- Nothing is bound, and so every open act and every page that is to settle can be bound. -/
structure Free (c : Course (Link σ)) : Prop where
  idle : c.world.binding = .idle
  bind : ∀ act : Act, act.isComplete = false → c.world.binding.bind act = .ok (.act act.id true)
  bindPage : ∀ sessionId, c.world.binding.bindPage sessionId false = .ok (.page sessionId false)

theorem free_of_idle {c : Course (Link σ)} (idle : c.world.binding = .idle) : Free c :=
  ⟨idle, fun _ isOpen => idle ▸ bind_idle isOpen, fun _ => idle ▸ rfl⟩

/-! ## What a call leaves behind -/

/-- After a dispatch nothing is bound. -/
theorem idle_of_dispatch {c : Course (Link σ)} {fuel : Nat} {act : Act} {outcome : Act.Outcome}
    {r : Run σ} (answered : dispatch surface settings fuel act c = some (outcome, r)) :
    r.course.world.binding = .idle := by
  rw [dispatch, dispatchWithin] at answered
  rcases hrun : run surface settings fuel act c with ⟨trouble?, last⟩
  rw [hrun] at answered
  cases trouble? with
  | none => cases answered
  | some trouble =>
    cases answered
    rfl

theorem idle_of_settlePage {c c' : Course (Link σ)} {fuel : Nat} {sessionId : String}
    {timeout : Option Duration} {result : Except Act.Failure Unit}
    (idle : c.world.binding = .idle)
    (answered : settlePage surface settings fuel sessionId timeout c = some (result, c')) :
    c'.world.binding = .idle := by
  rw [settlePage] at answered
  rcases installKey_cases surface settings c with
    ⟨cause, last, hkey, hnoKey⟩ | ⟨last, hkey, hbinding, -⟩
  · rw [hkey] at answered
    cases answered
    rw [hnoKey.link]
    exact idle
  · rw [hkey] at answered
    dsimp only at answered
    rw [(free_of_idle (hbinding.trans idle)).bindPage sessionId] at answered
    dsimp only at answered
    -- the page is bound until the wait for it is over
    split at answered
    · cases answered
    · cases answered
      rfl

theorem idle_of_goToUrl {c c' : Course (Link σ)} {fuel : Nat} {url sessionId : String}
    {timeout : Option Duration} {result : Except Act.Failure Unit}
    (idle : c.world.binding = .idle)
    (answered : goToUrl surface settings fuel url sessionId timeout c = some (result, c')) :
    c'.world.binding = .idle := by
  have hworld := world_await (c.log (.navigated url)) (surface.navigate c.now url)
  rw [goToUrl] at answered
  rw [Course.log_now] at answered
  generalize await (c.log (.navigated url)) (surface.navigate c.now url) = sent at *
  obtain ⟨answer, after⟩ := sent
  have hafter : after.world.binding = .idle := by
    rw [hworld]
    exact idle
  cases answer with
  | error cause =>
    cases answered
    exact hafter
  | ok _ => exact idle_of_settlePage hafter answered

/-- **Nothing is bound between calls.** -/
theorem Used.idle {c : Course (Link σ)} (used : Used surface settings c) :
    c.world.binding = .idle := by
  induction used with
  | new fresh =>
    rw [fresh]
    rfl
  | dispatched _ answered _ => exact idle_of_dispatch answered
  | settled _ answered ih => exact idle_of_settlePage ih answered
  | navigated _ answered ih => exact idle_of_goToUrl ih answered
  | outside _ link ih =>
    rw [link]
    exact ih

/-! ## What a call does -/

/-- How the dispatch of an act that was open can end: with what the act, which is complete, has come to,
because a confirmation is missing, or, before anything else, because the key could not be posted. -/
inductive Ends (surface : Surface σ) (settings : Settings) (c : Course (Link σ)) (act : Act) :
    Act.Outcome → Run σ → Prop where
  | resolved {r : Run σ} (complete : r.act.isComplete = true) :
      Ends surface settings c act (r.act.outcome settings.service) r
  | notAccepted (r : Run σ) :
      Ends surface settings c act
        (.error (actFailure .dispatch r.act Trouble.notAccepted.message)) r
  | notCanceled (r : Run σ) :
      Ends surface settings c act
        (.error (actFailure .dispatch r.act Trouble.notCanceled.message)) r
  | noKey {cause : Channel.Error} {c' : Course (Link σ)}
      (noKey : NoKey surface settings c c' cause) :
      Ends surface settings c act (.error (actFailure .client act cause.message)) ⟨act, c'⟩

end BrowserAct.Dispatch.Extension
