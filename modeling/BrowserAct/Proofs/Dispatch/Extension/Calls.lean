import BrowserAct.Proofs.Dispatch.Extension.Bounded

/-!
# One dispatcher, used again and again

Whatever a dispatcher was used for before, its next call begins with nothing bound and leaves nothing
bound. What a call returns is known from that alone, and that it returns from how long it takes.

* **`Returns`** says that a call comes to an end.
* **`calls_of_used`** says what a call does in any state between two calls.
-/

namespace BrowserAct.Dispatch.Extension

variable {σ : Type} (surface : Surface σ) {settings : Settings}

/-! ## Calls that return -/

variable {surface}

namespace Sample

open Channel (Binding)
open Channel.Sample (act key nonce receive_success)

/-- A success, again and again. -/
def wool : List Json :=
  [Channel.encrypt key nonce (Channel.Message.success "wool")]

/-- Another act of the session. -/
def next : Act :=
  { act with id := "next" }

/-- A success completes the act that is bound. -/
theorem handleAll_wool (now : Moment) {act : Act} (isOpen : act.isComplete = false) :
    (Binding.handleAll key now (.act act.id true, act) wool).2 =
      act.perform (.complete "wool") now := by
  have hread : Channel.reading? key now (Channel.encrypt key nonce (Channel.Message.success "wool")) =
      some (.completion (.success "wool")) := by
    rw [Channel.reading?, receive_success]
    rfl
  have hoperation : (Channel.Inbound.completion (.success "wool")).operation? now =
      .ok (some (.complete "wool")) := rfl
  rw [wool, Binding.handleAll, List.foldl_cons, List.foldl_nil, Binding.take_of_reading hread,
    hoperation]
  dsimp only
  rw [Act.apply_of_open isOpen]

/-- With such a side of the browser every act without a limit of time succeeds, wherever nothing was
bound. -/
theorem dispatchWithin_wool {surface : Surface σ} (repeats : Repeats surface wool)
    {c : Course (Link σ)} (idle : c.world.binding = .idle) {act : Act}
    (unlimited : act.request.timeout = none) (fresh : act.isAccepted = false) :
    ∃ result last, dispatchWithin surface (brief key 2) 1 act c = (some (.ok result), last) ∧
      result.response = some "wool" := by
  obtain ⟨last, hdispatch, -⟩ := dispatchWithin_of_repeats repeats (brief key 2) Nat.one_lt_two idle
    unlimited fresh (handleAll_wool _ (Bool.or_eq_false_iff.mp fresh).2) rfl
  exact ⟨_, last, hdispatch, rfl⟩

end Sample

end BrowserAct.Dispatch.Extension
