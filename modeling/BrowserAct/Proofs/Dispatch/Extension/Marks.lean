import BrowserAct.Dispatch.Extension.Prompt
import BrowserAct.Proofs.Act.Terms
import BrowserAct.Proofs.Channel.Stream
import BrowserAct.Proofs.Dispatch.Extension.Link

/-!
# Prompts and polls in the log of a run

A prompt is posted again, or given up, where no acceptance was heard. The log of a run holds when each
prompt was posted, and what each poll made of the act.

* **`marks`** looks for the prompts and the polls.
* **`Heard`** says of a run that nothing was prompted or given up after an acceptance.
* **`Missed`** says that the first acceptance came in with a poll that ended too late.
-/

namespace BrowserAct

namespace Channel.Binding

/-- Messages change neither the request of an act nor when it started. -/
theorem terms_handleAll (key : Key) (now : Moment) (state : Binding × Act)
    (messages : List Json) : (handleAll key now state messages).2.terms = state.2.terms := by
  refine handleAll_preserves (P := fun a => a.terms = state.2.terms) (fun taken same => ?_) key
    messages rfl
  cases taken with
  | kept => exact same
  | acknowledged | step | completed => exact (Act.terms_perform _ _ _).trans same

end Channel.Binding

namespace Dispatch.Extension

open Course (Observer)

variable {σ : Type}

/-! ## Prompts and polls -/

/-- What there is to see of the prompts of an act. -/
inductive Mark where
  /-- The prompt is posted. -/
  | prompt
  /-- The extension was polled, with this act as the result. -/
  | polled (after : Act)

/-- Looks for prompts and polls. -/
def marks : Observer Mark where
  observe
    | .posted message _ =>
      if Channel.typeOf message = Channel.Message.pendingPromptType then some .prompt else none
    | .polled after => some (.polled after)
    | _ => none
  observe_cancelRequested := rfl
  observe_traced _ := rfl

/-- Prompts and polls with their times, latest first. -/
abbrev Log := List (Moment × Mark)

namespace Mark

/-- Whether the act is accepted by then. -/
def accepts : Mark → Bool
  | .prompt => false
  | .polled after => after.isAccepted

end Mark

/-- No acceptance has come in. -/
def Unheard (log : Log) : Prop :=
  ∀ entry ∈ log, entry.2.accepts = false

theorem unheard_nil : Unheard [] :=
  List.forall_mem_nil _

/-- Nothing was heard in two parts where nothing was heard in either. -/
theorem unheard_append {later earlier : Log} :
    Unheard (later ++ earlier) ↔ Unheard later ∧ Unheard earlier :=
  List.forall_mem_append

theorem unheard_cons {entry : Moment × Mark} {earlier : Log} :
    Unheard (entry :: earlier) ↔ entry.2.accepts = false ∧ Unheard earlier :=
  List.forall_mem_cons

/-- The time of the last prompt. -/
def lastPrompt? : Log → Option Moment
  | [] => none
  | (now, .prompt) :: _ => some now
  | (_, .polled _) :: earlier => lastPrompt? earlier

/-- The last prompt is looked for from the end. -/
theorem lastPrompt?_append {later : Log} {posted : Moment}
    (prompted : lastPrompt? later = some posted) (earlier : Log) :
    lastPrompt? (later ++ earlier) = some posted := by
  induction later with
  | nil => cases prompted
  | cons entry rest ih =>
    obtain ⟨now, mark⟩ := entry
    cases mark with
    | prompt => exact prompted
    | polled after => exact ih prompted

/-- The first acceptance came in with a poll that ended when the wait for it was over, while the act
still had time. -/
def Missed (settings : Settings) (log : Log) : Prop :=
  ∃ now after earlier posted, (now, .polled after) :: earlier <:+ log ∧
    after.isAccepted = true ∧ Unheard earlier ∧ lastPrompt? earlier = some posted ∧
    posted + acceptanceTime settings after posted ≤ now ∧ after.isPastDeadline now = false

/-- No prompt is posted once an acceptance has come in. -/
def PromptsStop (log : Log) : Prop :=
  log.Pairwise fun later earlier => earlier.2.accepts = true → later.2 ≠ .prompt

/-- The failure of an act that is given up as not accepted. -/
def givenUp (act : Act) : Act.Outcome :=
  .error (actFailure .dispatch act Trouble.notAccepted.message)

/-- A run hears an acceptance: there is no prompt after it, and the act is not given up as not
accepted. -/
def Heard (log : Log) (outcome : Option Act.Outcome) (act : Act) : Prop :=
  PromptsStop log ∧ (outcome = some (givenUp act) → Unheard log)

/-! ## Laws of the log -/

/-- What was not heard at all was not missed. -/
theorem not_missed_of_unheard {settings : Settings} {log : Log} (unheard : Unheard log) :
    ¬ Missed settings log := by
  rintro ⟨now, after, earlier, _, hsuffix, haccepted, _⟩
  have hmem : (now, Mark.polled after) ∈ log := hsuffix.subset List.mem_cons_self
  have hrefused : after.isAccepted = false := unheard _ hmem
  rw [haccepted] at hrefused
  cases hrefused

/-- What was missed stays missed. -/
theorem Missed.append_left {settings : Settings} {log : Log} (missed : Missed settings log)
    (later : Log) : Missed settings (later ++ log) := by
  obtain ⟨now, after, earlier, posted, hsuffix, hrest⟩ := missed
  exact ⟨now, after, earlier, posted, hsuffix.trans (List.suffix_append later log), hrest⟩

/-- What came before the first acceptance does not count. -/
theorem Missed.append_right {settings : Settings} {log earlier : Log}
    (missed : Missed settings log) (unheard : Unheard earlier) :
    Missed settings (log ++ earlier) := by
  obtain ⟨now, after, between, posted, ⟨later, rfl⟩, haccepted, hbetween, hprompted, hrest⟩ := missed
  refine ⟨now, after, between ++ earlier, posted, ⟨later, ?_⟩, haccepted,
    unheard_append.mpr ⟨hbetween, unheard⟩, lastPrompt?_append hprompted earlier, hrest⟩
  rw [List.append_assoc, List.cons_append]

/-- An acceptance is missed in an earlier part of a log, or with one of the later entries, where there
was none earlier. -/
theorem missed_of_append {settings : Settings} {later earlier : Log}
    (missed : Missed settings (later ++ earlier)) :
    Missed settings earlier ∨
      Unheard earlier ∧
        ∃ now after, (now, .polled after) ∈ later ∧ after.isPastDeadline now = false := by
  induction later with
  | nil => exact Or.inl missed
  | cons entry rest ih =>
    obtain ⟨now, after, between, posted, hsuffix, haccepted, hunheard, hprompted, hlate, hleft⟩ :=
      missed
    rw [List.cons_append] at hsuffix
    -- the poll that brought the acceptance is the latest entry, or lies further back
    rcases List.suffix_cons_iff.mp hsuffix with hhead | hsuffix
    · rw [List.cons.injEq] at hhead
      obtain ⟨rfl, rfl⟩ := hhead
      exact Or.inr ⟨(unheard_append.mp hunheard).2, now, after, List.mem_cons_self, hleft⟩
    · rcases ih ⟨now, after, between, posted, hsuffix, haccepted, hunheard, hprompted, hlate,
        hleft⟩ with hearlier | ⟨hfresh, now', after', hmem, hleft'⟩
      · exact Or.inl hearlier
      · exact Or.inr ⟨hfresh, now', after', List.mem_cons_of_mem _ hmem, hleft'⟩

/-- The first acceptance came in while the wait for it lasted, or once the act was out of time. -/
theorem not_missed_of_inTime {settings : Settings} {now posted : Moment} {after : Act}
    {older : Log} (unheard : Unheard older) (prompted : lastPrompt? older = some posted)
    (inTime : now < posted + acceptanceTime settings after posted ∨
      after.isPastDeadline now = true) :
    ¬ Missed settings ((now, .polled after) :: older) := by
  rintro ⟨now', after', earlier, posted', hsuffix, haccepted, hearlier, hprompted, hlate, hleft⟩
  -- the latest poll was in time, and before it there was nothing to miss
  rcases List.suffix_cons_iff.mp hsuffix with hhead | hsuffix
  · cases hhead
    rw [prompted, Option.some.injEq] at hprompted
    subst hprompted
    rcases inTime with hearly | hpast
    · exact absurd hlate (Nat.not_le_of_lt hearly)
    · rw [hpast] at hleft
      cases hleft
  · exact not_missed_of_unheard unheard
      ⟨now', after', earlier, posted', hsuffix, haccepted, hearlier, hprompted, hlate, hleft⟩

theorem promptsStop_of_unheard {log : Log} (unheard : Unheard log) : PromptsStop log := by
  refine List.pairwise_of_forall_sublist ?_
  intro later earlier hsublist haccepts
  have hmem : earlier ∈ log := hsublist.subset (List.mem_cons_of_mem _ List.mem_cons_self)
  rw [unheard earlier hmem] at haccepts
  cases haccepts

/-- A log goes on without prompts. -/
theorem PromptsStop.append {later earlier : Log} (stops : PromptsStop earlier)
    (noPrompt : ∀ entry ∈ later, entry.2 ≠ .prompt) : PromptsStop (later ++ earlier) := by
  refine List.pairwise_append.mpr ⟨?_, stops, fun entry hmem _ _ _ => noPrompt entry hmem⟩
  refine List.pairwise_of_forall_sublist ?_
  intro entry _ hsublist _
  exact noPrompt entry (hsublist.subset List.mem_cons_self)

/-- A prompt after an acceptance that was missed. -/
theorem not_promptsStop_of_missed {settings : Settings} {log : Log}
    (missed : Missed settings log) (later : Log) (now : Moment) :
    ¬ PromptsStop (later ++ (now, .prompt) :: log) := by
  intro hstops
  obtain ⟨heard, after, earlier, _, hsuffix, haccepted, _⟩ := missed
  have hmem : (heard, Mark.polled after) ∈ log := hsuffix.subset List.mem_cons_self
  have hcons := (List.pairwise_append.mp hstops).2.1
  exact (List.pairwise_cons.mp hcons).1 _ hmem haccepted rfl

/-! ## One poll, one prompt -/

/-- A poll takes an interval at least, is seen when it ends, and keeps the terms of the act. -/
theorem poll_marks (surface : Surface σ) (settings : Settings) (r : Run σ) :
    r.course.now + settings.timings.pollInterval ≤ (poll surface settings r).course.now ∧
      (poll surface settings r).course.seen marks =
        ((poll surface settings r).course.now, .polled (poll surface settings r).act) ::
          r.course.seen marks ∧
      (poll surface settings r).act.terms = r.act.terms := by
  obtain ⟨hseen, hnow, -⟩ := fetch_quiet marks surface settings r.course
  rw [poll]
  rcases hfetch : fetch surface settings r.course with ⟨messages, c⟩
  rw [hfetch] at hnow hseen
  have hterms := Channel.Binding.terms_handleAll settings.key c.now (c.world.binding, r.act) messages
  refine ⟨hnow, ?_, hterms⟩
  rw [← hseen]
  exact Course.seen_log_of_some marks rfl _

/-- It takes no longer than that and one move of the other side. -/
theorem now_poll_le {surface : Surface σ} {lag : Duration} (within : surface.Within lag)
    (settings : Settings) (r : Run σ) :
    (poll surface settings r).course.now ≤ r.course.now + settings.timings.pollInterval + lag :=
  (fetch_quiet marks surface settings r.course).2.2 lag within

/-- A prompt is told by its type. -/
theorem typeOf_pendingPrompt (act : Act) (apiKey hostname : String)
    (credentials : Option Channel.AwsCredentials) :
    Channel.typeOf (Channel.Message.pendingPrompt act apiKey hostname credentials) =
      Channel.Message.pendingPromptType := by
  rw [Channel.typeOf, Json.field, Channel.Message.pendingPrompt,
    Json.get?_ofPresent_cons _ (by simp)]
  rfl

/-- A prompt is seen once it was posted. -/
theorem postPrompt_marks (surface : Surface σ) (settings : Settings) (r : Run σ) :
    r.course.now ≤ (postPrompt surface settings r).course.now ∧
      (postPrompt surface settings r).course.seen marks =
        ((postPrompt surface settings r).course.now, .prompt) :: r.course.seen marks := by
  refine ⟨le_now_post surface settings _ _, seen_post_of_ended marks rfl ?_ surface settings _⟩
  intro delivered
  show (if _ = Channel.Message.pendingPromptType then some Mark.prompt else none) = _
  rw [typeOf_pendingPrompt, if_pos rfl]

end Dispatch.Extension

end BrowserAct
