import BrowserAct.Program.Action
import BrowserAct.Proofs.Json.Standard
import BrowserAct.Proofs.Program.Written

/-!
# Programs that return a value

A program returns a value by its text, on its own or after a thought. No character of that text ends the
statement, so the program returns the value as it was.

* **`Returning`** are these programs, with separators and blanks around their statements.
* **`pieces_append_filling`** says that a statement ends at the separators after it, however it was
  written.
* **`parse_returning`** says what the programs are read as.
-/

namespace BrowserAct.Program

open Pieces

/-- The statement that returns a value. -/
def returned (v : Json) : Statement :=
  .returns (some v.compress)

/-- The texts of programs that return a value, each with its thought, if it has one. A thought may be
written in any way in which the statement is over before the separators behind it. -/
inductive Returning (v : Json) : Option String → List Char → Prop where
  | alone {separates : Bool} {after : List Char} (trailing : Filling separates after) :
      Returning v none ((returned v).write ++ after)
  | thinking {separates : Bool} {text gap after : List Char} {thought : String} {more : List String}
      (closed : scan .code 0 text = some (.code, 0))
      (thinks : Statement.ofText (Text.trim text) = .ok (.call "think" (thought :: more)))
      (between : Filling true gap) (trailing : Filling separates after) :
      Returning v (some thought) (text ++ (gap ++ ((returned v).write ++ after)))
  | filled {separates : Bool} {before text : List Char} {thought : Option String}
      (leading : Filling separates before) (returning : Returning v thought text) :
      Returning v thought (before ++ text)

/-- A thought as it is usually written. -/
theorem returning_written (v : Json) (thought : String) (more : List String) {separates : Bool}
    {gap after : List Char} (between : Filling true gap) (trailing : Filling separates after) :
    Returning v (some thought)
      ((Statement.call "think" (thought :: more)).write ++ (gap ++ ((returned v).write ++ after))) := by
  have hletters : ∀ c ∈ "think".toList, Statement.isNameChar c = true := List.all_eq_true.mp rfl
  have hpiece := Statement.isPiece_call hletters (thought :: more)
  have hreads := (Statement.ofText_call hletters (thought :: more)).mpr (by decide)
  have hthinks := (congrArg Statement.ofText hpiece.visible.trim).trans hreads
  exact .thinking (hpiece.balanced.stays 0) hthinks between trailing

namespace Pieces

/-- What fills a text between two statements starts with no letter. -/
theorem apart_filling {gap : List Char} (filling : Filling true gap) (text rest : List Char) :
    Apart text (gap ++ rest) := by
  intro _ hletter
  cases filling with
  | @blank _ c _ blank _ =>
    cases hletter
    cases blank
  | separator isMark _ => cases isMark <;> cases hletter

/-- **A statement ends at what fills the text behind it.** -/
theorem pieces_append_filling {text gap : List Char} (closed : scan .code 0 text = some (.code, 0))
    (visible : Text.trim text ≠ []) (filling : Filling true gap) (rest : List Char) :
    pieces (text ++ (gap ++ rest)) = (pieces rest).map (Text.trim text :: ·) := by
  rw [pieces, collect_append closed (apart_filling filling text rest), List.append_nil,
    collect_gap filling, flush_reverse visible]
  rfl

end Pieces

/-- The text of a returned value is one statement, whatever follows. -/
theorem pieces_returned (v : Json) {separates : Bool} {after : List Char}
    (trailing : Filling separates after) :
    pieces ((returned v).write ++ after) = .ok [(returned v).write] := by
  have hpiece : IsPiece (returned v).write := Statement.isPiece_write ⟨v, rfl⟩
  rw [pieces, hpiece.collect, collect_trailing trailing, hpiece.flush]

/-- The statements of such a program. -/
theorem tokenize_returning {v : Json} {thought : Option String} {text : List Char}
    (returning : Returning v thought text) :
    (thought = none ∧ tokenize (String.ofList text) = .ok [returned v]) ∨
      ∃ thinks more, thought = some thinks ∧
        tokenize (String.ofList text) = .ok [.call "think" (thinks :: more), returned v] := by
  have hreads : Statement.ofText (returned v).write = .ok (returned v) := Statement.ofText_returns v
  induction returning with
  | @alone _ after trailing =>
    refine .inl ⟨rfl, ?_⟩
    rw [tokenize, String.toList_ofList, pieces_returned v trailing]
    show [(returned v).write].mapM Statement.ofText = _
    rw [List.mapM_cons, hreads]
    rfl
  | @thinking _ text gap after thought more closed thinks between trailing =>
    -- blanks are no thought
    have hvisible : Text.trim text ≠ [] := by
      intro hnone
      rw [hnone] at thinks
      cases thinks
    refine .inr ⟨thought, more, rfl, ?_⟩
    rw [tokenize, String.toList_ofList, pieces_append_filling closed hvisible between,
      pieces_returned v trailing]
    show [Text.trim text, (returned v).write].mapM Statement.ofText = _
    rw [List.mapM_cons, List.mapM_cons, thinks, hreads]
    rfl
  | @filled _ before text thought leading _ ih =>
    have htokens : tokenize (String.ofList (before ++ text)) = tokenize (String.ofList text) := by
      rw [tokenize, tokenize, String.toList_ofList, String.toList_ofList, pieces_filling leading]
    rw [htokens]
    exact ih

/-- **A program that returns a value** is read as its thought and the return of that value. -/
theorem parse_returning {v : Json} (standard : v.Standard) (within : v.depth ≤ Json.nestingLimit)
    {thought : Option String} {text : List Char} (returning : Returning v thought text) :
    parse (String.ofList text) = .ok ⟨thought, .returns (some v)⟩ := by
  -- the value is read back from its text as it is
  have hvalue : Action.returnedValue v.compress = v := by
    rw [Action.returnedValue, Json.parse?_compress_of_standard standard within, Option.getD_some]
  have haction : Action.ofStatement (returned v) = .ok (.returns (some v)) := by
    rw [returned, Action.ofStatement, Option.map_some, hvalue]
  rcases tokenize_returning returning with ⟨rfl, htokens⟩ | ⟨thinks, more, rfl, htokens⟩
  · rw [parse, htokens]
    show ofStatements [returned v] = _
    rw [ofStatements, haction]
    rfl
  · rw [parse, htokens]
    show ofStatements [.call "think" (thinks :: more), returned v] = _
    rw [ofStatements, haction]
    rfl

end BrowserAct.Program
