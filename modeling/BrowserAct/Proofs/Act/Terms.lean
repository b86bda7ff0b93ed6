import BrowserAct.Act.Basic

/-!
# What the operations on an act keep

The time of an act depends on its request and on when it started, and no operation changes these. What
was done about an act is never undone.
-/

namespace BrowserAct.Act

/-! ## Time -/

/-- What the time of an act depends on. -/
def terms (a : Act) : Request × Moment :=
  (a.request, a.startedAt)

/-- No operation changes the terms of an act. -/
theorem terms_perform (a : Act) (operation : Operation) (now : Moment) :
    (a.perform operation now).terms = a.terms := by
  cases operation <;> rfl

theorem terms_of_apply {a b : Act} {operation : Operation} {now : Moment}
    (applied : a.apply operation now = .ok b) : b.terms = a.terms := by
  rw [apply] at applied
  split at applied
  · cases applied
  · cases applied
    exact terms_perform a operation now

/-- The time that is left depends on the terms alone. -/
theorem remaining_congr {a b : Act} (same : b.terms = a.terms) (now : Moment) :
    b.remaining now = a.remaining now := by
  rw [terms, terms, Prod.mk.injEq] at same
  rw [remaining, remaining, same.1, same.2]

theorem isPastDeadline_congr {a b : Act} (same : b.terms = a.terms) (now : Moment) :
    b.isPastDeadline now = a.isPastDeadline now := by
  rw [isPastDeadline, isPastDeadline, remaining_congr same]

/-- Time that is used up stays used up. -/
theorem isPastDeadline_mono {a : Act} {earlier later : Moment} (le : earlier ≤ later)
    (past : a.isPastDeadline earlier = true) : a.isPastDeadline later = true := by
  rw [isPastDeadline, remaining, beq_iff_eq] at past ⊢
  cases htimeout : a.request.timeout with
  | none => rw [htimeout] at past; cases past
  | some timeout =>
    rw [htimeout, Option.map_some, Option.some.injEq] at past
    rw [Option.map_some, Option.some.injEq]
    have hused := Nat.sub_eq_zero_iff_le.mp past
    exact Nat.sub_eq_zero_of_le (Nat.le_trans hused (Nat.sub_le_sub_right le _))

/-! ## Progress -/

/-- An act that is under way or over. -/
def isAccepted (a : Act) : Bool :=
  a.acknowledged || a.isComplete

/-- Whether the extension has done anything about an act. -/
def isTouched (a : Act) : Bool :=
  a.acknowledged || !a.steps.isEmpty || a.isComplete

/-- An act that was touched stays so. -/
theorem isTouched_perform {a : Act} (touched : a.isTouched = true) (operation : Operation)
    (now : Moment) : (a.perform operation now).isTouched = true := by
  cases operation <;> simp_all [isTouched, perform, finish, isComplete]

end BrowserAct.Act
