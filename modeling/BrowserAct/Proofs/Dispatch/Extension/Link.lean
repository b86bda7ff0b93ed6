import BrowserAct.Dispatch.Extension.Link
import BrowserAct.Proofs.Course.Observer

/-!
# What the moves of a link add to a run

The clock never goes back. Posting is logged when it begins and when it ends; fetching takes a poll
interval, and what the other side needs for it, and is not logged.

* **`now_await`** says how long a move of the other side takes, and **`world_await`** what it changes.
* **`Surface.Within`** says that none of its moves takes longer than some time.
-/

namespace BrowserAct.Dispatch.Extension

open Course (Observer)

variable {σ α β : Type} (o : Observer β)

/-! ## Moves of the other side -/

/-- A move takes as long as the other side takes for it. -/
theorem now_await (c : Course (Link σ)) (move : σ → Pending σ α) :
    (await c move).2.now = c.now + (move c.world.surface).delay := by
  rw [await, Course.now_await]
  rfl

/-- An observer of posts and polls sees nothing of a move of the surface. -/
theorem seen_await (c : Course (Link σ)) (move : σ → Pending σ α) :
    (await c move).2.seen o = c.seen o :=
  Course.seen_await o c _

/-- A move of the other side changes nothing else of the link. -/
theorem world_await (c : Course (Link σ)) (move : σ → Pending σ α) :
    (await c move).2.world =
      { c.world with surface := (move c.world.surface).ended.world } := by
  rw [await, Course.world_await]
  rfl

/-- The other side takes no longer than this for a move. -/
structure Surface.Within (surface : Surface σ) (lag : Duration) : Prop where
  post : ∀ now message world, (surface.post now message world).delay ≤ lag
  drain : ∀ now world, (surface.drain now world).delay ≤ lag
  navigate : ∀ now url world, (surface.navigate now url world).delay ≤ lag

/-! ## Posting -/

/-- Nobody who does not look for the key sees it posted, and that is one move at most. -/
theorem installKey_quiet (blind : ∀ delivered, o.observe (.keyPosted delivered) = none)
    (surface : Surface σ) (settings : Settings) (c : Course (Link σ)) :
    (installKey surface settings c).2.seen o = c.seen o ∧
      ∀ lag, surface.Within lag → (installKey surface settings c).2.now ≤ c.now + lag := by
  rw [installKey]
  split
  · exact ⟨rfl, fun lag _ => Nat.le_add_right _ _⟩
  · have hnow := now_await c (surface.post c.now settings.key.setKeyMessage)
    have hseen := seen_await o c (surface.post c.now settings.key.setKeyMessage)
    refine ⟨(Course.seen_log_of_none o (blind _) _).trans hseen, fun lag within => ?_⟩
    exact Nat.le_trans (Nat.le_of_eq hnow) (Nat.add_le_add_left (within.post _ _ _) _)

/-- Posting the key does not turn back time. -/
theorem le_now_installKey (surface : Surface σ) (settings : Settings) (c : Course (Link σ)) :
    c.now ≤ (installKey surface settings c).2.now := by
  rw [installKey]
  split
  · exact Nat.le_refl _
  · have hnow := now_await c (surface.post c.now settings.key.setKeyMessage)
    exact Nat.le_trans (Nat.le_add_right _ _) (Nat.le_of_eq hnow.symm)

theorem le_now_post (surface : Surface σ) (settings : Settings) (message : Json)
    (c : Course (Link σ)) : c.now ≤ (post surface settings message c).now := by
  rw [post, Course.log_now, now_await]
  exact Nat.le_add_right _ _

theorem now_post_le {surface : Surface σ} {lag : Duration} (within : surface.Within lag)
    (settings : Settings) (message : Json) (c : Course (Link σ)) :
    (post surface settings message c).now ≤ c.now + lag := by
  rw [post, Course.log_now, now_await]
  exact Nat.add_le_add_left (within.post _ _ _) _

/-- A message is seen at the moment at which posting it begins by whoever looks for that. -/
theorem seen_post_of_begun {message : Json} {b : β} (sees : o.observe (.posting message) = some b)
    (blind : ∀ delivered, o.observe (.posted message delivered) = none) (surface : Surface σ)
    (settings : Settings) (c : Course (Link σ)) :
    (post surface settings message c).seen o = (c.now, b) :: c.seen o := by
  rw [post, Course.seen_log_of_none o (blind _), seen_await, Course.seen_log_of_some o sees]
  rfl

/-- It is seen at the moment at which it was posted, delivered or not, by whoever looks for that. -/
theorem seen_post_of_ended {message : Json} {b : β} (blind : o.observe (.posting message) = none)
    (sees : ∀ delivered, o.observe (.posted message delivered) = some b) (surface : Surface σ)
    (settings : Settings) (c : Course (Link σ)) :
    (post surface settings message c).seen o =
      ((post surface settings message c).now, b) :: c.seen o := by
  rw [post, Course.seen_log_of_some o (sees _), seen_await, Course.seen_log_of_none o blind]
  rfl

/-- An observer that is blind for a message sees nothing of its post. -/
theorem seen_post_of_none {message : Json} (begun : o.observe (.posting message) = none)
    (ended : ∀ delivered, o.observe (.posted message delivered) = none) (surface : Surface σ)
    (settings : Settings) (c : Course (Link σ)) :
    (post surface settings message c).seen o = c.seen o := by
  rw [post, Course.seen_log_of_none o (ended _), seen_await, Course.seen_log_of_none o begun]
  rfl

/-! ## Fetching -/

/-- The messages that a drain answers with. -/
def drained : Except Channel.Error (List Json) → List Json
  | .ok messages => messages
  | .error _ => []

/-- A fetch is one drain after the poll interval. -/
theorem fetch_eq (surface : Surface σ) (settings : Settings) (c : Course (Link σ)) :
    fetch surface settings c =
      (drained (surface.drain (c.now + settings.timings.pollInterval) c.world.surface).ended.answer,
        (await (c.advance settings.timings.pollInterval)
          (surface.drain (c.now + settings.timings.pollInterval))).2) := by
  have hanswer : (await (c.advance settings.timings.pollInterval)
      (surface.drain (c.now + settings.timings.pollInterval))).1 =
        (surface.drain (c.now + settings.timings.pollInterval) c.world.surface).ended.answer := rfl
  rw [fetch, ← hanswer]
  rw [show (c.advance settings.timings.pollInterval).now =
    c.now + settings.timings.pollInterval from rfl]
  -- a failed drain brings nothing, and the course is that of the move in either case
  split <;> rename_i fetched <;> rw [fetched] <;> rfl

/-- A poll takes its interval and what the surface needs, and by itself it is not seen. -/
theorem fetch_quiet (surface : Surface σ) (settings : Settings) (c : Course (Link σ)) :
    (fetch surface settings c).2.seen o = c.seen o ∧
      c.now + settings.timings.pollInterval ≤ (fetch surface settings c).2.now ∧
      ∀ lag, surface.Within lag →
        (fetch surface settings c).2.now ≤ c.now + settings.timings.pollInterval + lag := by
  rw [fetch_eq]
  have hnow := now_await (c.advance settings.timings.pollInterval)
    (surface.drain (c.now + settings.timings.pollInterval))
  refine ⟨seen_await o _ _, ?_, fun lag within => ?_⟩
  · exact Nat.le_trans (Nat.le_add_right _ _) (Nat.le_of_eq hnow.symm)
  · exact Nat.le_trans (Nat.le_of_eq hnow) (Nat.add_le_add_left (within.drain _ _) _)

end BrowserAct.Dispatch.Extension
