import BrowserAct.Proofs.Program.Calls

/-!
# Calls that are not separated

A program holds one action, and a second statement is refused. But statements are told apart only by
separators outside of brackets, and within a statement only the brackets at its ends are looked at. So
two calls without a separator between them, or with a bracket of the first still open, read as one call:
the name and the arguments of the second become arguments of the first, and whether that is refused
depends on how many the first takes.

* **`tokenize_join_blanks`** is about two calls with blanks between them, **`tokenize_join_opened`** about
  a call without its closing bracket before a separator and another call.
* **`parse_isError_iff`** says when the one call is refused.
* **`parse_calls_joined`** puts them together.
-/

namespace BrowserAct.Program

open Pieces (scan Apart)
open Statement (CallParts)

/-! ## Calls as texts of their own -/

/-- A text that reads as a call and in which no separator ends a statement. -/
structure CallText (text name : String) (args : List String) : Prop where
  stays : (scan .code 0 text.toList).isSome
  reads : tokenize text = .ok [.call name args]

/-- A bracket is still open at the end of a text in which no statement ends. -/
def LeavesOpen (text : String) : Prop :=
  ∃ opened, scan .code 0 text.toList = some (.code, opened + 1)

/-- A call that is a statement, with the blanks around it. -/
structure Stands (before : List Char) (call : CallParts) (after : List Char) (name : String)
    (args : List String) : Prop where
  blankBefore : ∀ c ∈ before, Text.isBlank c = true
  blankAfter : ∀ c ∈ after, Text.isBlank c = true
  reads : Statement.ofText call.text = .ok (.call name args)
  name_eq : name = String.ofList call.name
  literals : Literal.all call.inner = .ok args
  stays : ∃ opened, scan .code 0 (before ++ (call.text ++ after)) = some (.code, opened)

/-- A text of one statement has what the statement is. -/
theorem tokenize_of_one {text : String} {statement : List Char}
    (one : pieces text.toList = .ok [statement]) :
    tokenize text = (Statement.ofText statement).map ([·]) := by
  rw [tokenize, one]
  show [statement].mapM Statement.ofText = _
  rw [List.mapM_cons, List.mapM_nil]
  cases Statement.ofText statement <;> rfl

/-- A text that is read as one call is one statement, read to its end outside of quoted texts. -/
theorem CallText.exists_scan {text name : String} {args : List String}
    (isCall : CallText text name args) :
    pieces text.toList = .ok [Text.trim text.toList] ∧
      Statement.ofText (Text.trim text.toList) = .ok (.call name args) ∧
      ∃ opened, scan .code 0 text.toList = some (.code, opened) := by
  obtain ⟨⟨place, opened⟩, hscan⟩ := Option.isSome_iff_exists.mp isCall.stays
  have hpieces := Pieces.pieces_of_scan hscan
  have hreads := isCall.reads
  -- a text that ends quoted is no statement
  cases place with
  | escaped | quoted =>
    rw [tokenize, hpieces] at hreads
    cases hreads
  | code =>
    -- nor is one of blanks
    by_cases hvisible : Text.trim text.toList = []
    · rw [tokenize, hpieces, Pieces.collect, Pieces.flush, List.reverse_reverse, hvisible] at hreads
      cases hreads
    · have hone := Pieces.pieces_eq_trim hscan hvisible
      rw [tokenize_of_one hone] at hreads
      refine ⟨hone, ?_, opened, hscan⟩
      cases hstatement : Statement.ofText (Text.trim text.toList) with
      | error cause =>
        rw [hstatement] at hreads
        cases hreads
      | ok statement =>
        rw [hstatement] at hreads
        cases hreads
        rfl

/-- Such a text is made of the parts of a call, with blanks around them. -/
theorem CallText.exists_parts {text name : String} {args : List String}
    (isCall : CallText text name args) :
    ∃ before call after, text.toList = before ++ (call.text ++ after) ∧
      Stands before call after name args := by
  obtain ⟨-, hreads, opened, hscan⟩ := isCall.exists_scan
  obtain ⟨before, after, htext, hbefore, hafter⟩ := Text.exists_around_trim text.toList
  obtain ⟨call, hcall, hname, hliterals⟩ :=
    CallParts.exists_of_ofText (Text.trim_trim text.toList) hreads
  rw [← hcall] at htext hreads
  exact ⟨before, call, after, htext, hbefore, hafter, hreads, hname, hliterals,
    opened, htext ▸ hscan⟩

/-- The same with the closing bracket of the call at hand. -/
theorem CallText.exists_opened {opened name : String} {args : List String}
    (isCall : CallText (opened ++ ")") name args) :
    ∃ before call, opened.toList = before ++ call.opened ∧ Stands before call [] name args := by
  obtain ⟨before, call, after, htext, hstands⟩ := isCall.exists_parts
  have hafter : after = [] := by
    rcases List.eq_nil_or_concat after with hnil | ⟨rest, c, rfl⟩
    · exact hnil
    -- the last character would be both a blank and the closing bracket
    · have hlast := congrArg List.getLast? htext
      have hc : c = ')' := by simpa using hlast.symm
      have hblank := hstands.blankAfter c (by simp)
      rw [hc, CallParts.isBlank_closing] at hblank
      cases hblank
  subst hafter
  refine ⟨before, call, ?_, hstands⟩
  rw [String.toList_append, List.append_nil, CallParts.text, ← List.append_assoc] at htext
  exact List.append_cancel_right htext

namespace Stands

variable {before after before' after' : List Char} {call call' : CallParts} {name name' : String}
  {args args' : List String}

/-- Blanks hold no part of a separator. -/
theorem apart_before (stands : Stands before call after name args) (rest : List Char) :
    Apart before rest :=
  Pieces.apart_of_blank stands.blankBefore rest

/-- The blanks before a call end no statement, and the call does not either. -/
theorem scan_before (stands : Stands before call after name args) :
    scan .code 0 before = some (.code, 0) ∧
      ∃ opened, scan .code 0 (call.text ++ after) = some (.code, opened) := by
  obtain ⟨opened, hstays⟩ := stands.stays
  have happart := stands.apart_before (call.text ++ after)
  obtain ⟨state, hbefore⟩ := Pieces.scan_of_append happart hstays
  obtain rfl := Pieces.scan_blanks (by decide) stands.blankBefore hbefore
  rw [Pieces.scan_append hbefore happart] at hstays
  exact ⟨hbefore, opened, hstays⟩

/-- Before its closing bracket a call is outside of quoted texts. -/
theorem scan_opened (stands : Stands before call after name args) :
    ∃ opened, scan .code 0 call.opened = some (.code, opened) ∧
      scan .code opened (')' :: after) = some (.code, opened - 1) := by
  obtain ⟨-, closed, hstays⟩ := stands.scan_before
  have happart : Apart call.opened (')' :: after) := fun _ => by simp
  have htext : call.text ++ after = call.opened ++ ')' :: after := by
    simp [CallParts.text]
  rw [htext] at hstays
  obtain ⟨⟨place, opened⟩, hopened⟩ := Pieces.scan_of_append happart hstays
  rw [Pieces.scan_append hopened happart] at hstays
  obtain ⟨hgoesOn, hafter⟩ := Pieces.afterEnd?_of_scan hstays
  -- the bracket is closed, so the arguments end outside of quoted texts
  cases place with
  | code =>
    refine ⟨opened, hopened, ?_⟩
    rw [Pieces.scan_cons_of_none hgoesOn, hafter]
    exact congrArg some (Pieces.scan_blanks (by decide) stands.blankAfter hafter)
  | quoted | escaped => cases Pieces.scan_blanks (by rintro ⟨⟩) stands.blankAfter hafter

/-! ## Calls one after the other -/

/-- Two calls are one statement if none ends in what stands between them: the closing bracket of the
first or a separator in its place, and blanks. -/
theorem tokenize_join (stands : Stands before call after name args)
    (stands' : Stands before' call' after' name' args') {mark : Char} {blanks : List Char}
    (isMark : mark = ')' ∨ mark = ';' ∨ mark = '\n') (blank : ∀ c ∈ blanks, Text.isBlank c = true)
    {opened closed : Nat} (leaves : scan .code 0 call.opened = some (.code, opened))
    (stays : scan .code opened (mark :: blanks) = some (.code, closed)) :
    tokenize (String.ofList (before ++ (call.opened ++ (mark :: blanks ++ (call'.text ++ after'))))) =
      .ok [.call name (args ++ args')] := by
  have hapart : Apart call.opened (mark :: blanks ++ (call'.text ++ after')) := by
    intro _
    rcases isMark with rfl | rfl | rfl <;> simp
  have hapart' : Apart (mark :: blanks) (call'.text ++ after') := by
    apply Pieces.apart_of_not_mem
    have hblanks : '\\' ∉ blanks := fun hmem => by cases blank _ hmem
    rcases isMark with rfl | rfl | rfl <;> simpa using hblanks
  have hnoQuote : '"' ∉ mark :: blanks := by
    have hblanks := Text.quote_not_mem_blanks blank
    rcases isMark with rfl | rfl | rfl <;> simpa using hblanks
  -- the second call ends no statement alone, so it ends none after what is still open before it
  obtain ⟨-, _, hsecond⟩ := stands'.scan_before
  obtain ⟨last, -, hdeeper⟩ := Pieces.scan_of_le hsecond (Nat.zero_le closed)
  have hscan : scan .code 0 (before ++ (call.opened ++ (mark :: blanks ++ (call'.text ++ after')))) =
      some (.code, last) := by
    rw [Pieces.scan_append stands.scan_before.1 (stands.apart_before _),
      Pieces.scan_append leaves hapart, Pieces.scan_append stays hapart', hdeeper]
  -- without the blanks around it, the whole is the first call with more between its brackets
  have htrim : Text.trim (before ++ (call.opened ++ (mark :: blanks ++ (call'.text ++ after')))) =
      call.opened ++ (mark :: blanks ++ call'.text) := by
    have haround :=
      CallParts.trim_around (call.withInner (call.inner ++ (mark :: blanks ++ call'.opened)))
        stands.blankBefore stands'.blankAfter
    rw [CallParts.text_join, List.append_assoc, List.append_assoc] at haround
    exact haround
  have hone := Pieces.pieces_eq_trim hscan (by rw [htrim]; simp [CallParts.text])
  rw [tokenize_of_one (by rw [String.toList_ofList]; exact hone), htrim,
    CallParts.ofText_join stands.reads stands.literals stands'.literals hnoQuote, ← stands.name_eq]
  rfl

end Stands

/-- Two calls with nothing but blanks between them. -/
theorem tokenize_join_blanks {first second name name' : String} {args args' : List String}
    (isCall : CallText first name args) (isCall' : CallText second name' args') {blanks : String}
    (blank : ∀ c ∈ blanks.toList, c = ' ' ∨ c = '\t') :
    tokenize (first ++ blanks ++ second) = .ok [.call name (args ++ args')] := by
  obtain ⟨before, call, after, htext, hstands⟩ := isCall.exists_parts
  obtain ⟨before', call', after', htext', hstands'⟩ := isCall'.exists_parts
  obtain ⟨opened, hopened, hclosing⟩ := hstands.scan_opened
  have hblanks : ∀ c ∈ blanks.toList, Text.isBlank c = true := by
    intro c hmem
    rcases blank c hmem with rfl | rfl <;> rfl
  have hbetween : ∀ c ∈ after ++ (blanks.toList ++ before'), Text.isBlank c = true := by
    simp only [List.mem_append]
    rintro c (hmem | hmem | hmem)
    · exact hstands.blankAfter c hmem
    · exact hblanks c hmem
    · exact hstands'.blankBefore c hmem
  -- the blanks before the second call end no statement outside of brackets, so they end none here
  obtain ⟨closed, -, hbefore⟩ := Pieces.scan_of_le hstands'.scan_before.1 (Nat.zero_le (opened - 1))
  have hstays : scan .code opened (')' :: (after ++ (blanks.toList ++ before'))) =
      some (.code, closed) := by
    have happart : Apart (')' :: after) (blanks.toList ++ before') := by
      apply Pieces.apart_of_not_mem
      have hafter : '\\' ∉ after := fun hmem => by cases hstands.blankAfter _ hmem
      simpa using hafter
    rw [← List.cons_append, Pieces.scan_append hclosing happart,
      Pieces.scan_append (Pieces.scan_inline blank _) (Pieces.apart_of_blank hblanks before'), hbefore]
  have hjoin := hstands.tokenize_join hstands' (.inl rfl) hbetween hopened hstays
  have hsource : first ++ blanks ++ second =
      String.ofList (before ++ (call.opened ++
        (')' :: (after ++ (blanks.toList ++ before')) ++ (call'.text ++ after')))) := by
    rw [← String.toList_inj]
    simp [htext, htext', CallParts.text]
  rw [hsource, hjoin]

/-- A call whose bracket is still open, a separator and another call. -/
theorem tokenize_join_opened {opened second name name' : String} {args args' : List String}
    (isCall : CallText (opened ++ ")") name args) (isCall' : CallText second name' args')
    (leaves : LeavesOpen opened) {separator : Char} (separates : separator = ';' ∨ separator = '\n') :
    tokenize (opened ++ separator.toString ++ second) = .ok [.call name (args ++ args')] := by
  obtain ⟨before, call, hopened, hstands⟩ := isCall.exists_opened
  obtain ⟨before', call', after', htext', hstands'⟩ := isCall'.exists_parts
  obtain ⟨depth, hleaves⟩ := leaves
  rw [hopened, Pieces.scan_append hstands.scan_before.1 (hstands.apart_before _)] at hleaves
  obtain ⟨closed, -, hbefore⟩ := Pieces.scan_of_le hstands'.scan_before.1 (Nat.zero_le (depth + 1))
  -- inside brackets a separator is a character like others
  have hstays : scan .code (depth + 1) (separator :: before') = some (.code, closed) := by
    rcases separates with rfl | rfl <;> exact hbefore
  have hjoin := hstands.tokenize_join hstands' (.inr separates) hstands'.blankBefore hleaves hstays
  have hsource : opened ++ separator.toString ++ second =
      String.ofList (before ++ (call.opened ++ (separator :: before' ++ (call'.text ++ after')))) := by
    rw [← String.toList_inj]
    simp [hopened, htext']
  rw [hsource, hjoin]

/-- Where no bracket is open, the separator ends a statement. -/
theorem pieces_opened {opened second name name' : String} {args args' : List String}
    (isCall : CallText (opened ++ ")") name args) (isCall' : CallText second name' args')
    (closed : ¬ LeavesOpen opened) {separator : Char}
    (separates : separator = ';' ∨ separator = '\n') :
    pieces (opened ++ separator.toString ++ second).toList =
      .ok [Text.trim opened.toList, Text.trim second.toList] := by
  obtain ⟨before, call, hopened, hstands⟩ := isCall.exists_opened
  obtain ⟨depth, hscan, -⟩ := hstands.scan_opened
  rw [← Pieces.scan_append hstands.scan_before.1 (hstands.apart_before _), ← hopened] at hscan
  have hdepth : depth = 0 := by
    cases depth with
    | zero => rfl
    | succ depth => exact absurd ⟨depth, hscan⟩ closed
  subst hdepth
  have hend : Pieces.afterEnd? .code 0 (separator :: second.toList) = some second.toList := by
    rcases separates with rfl | rfl <;> rfl
  have happart : Apart opened.toList (separator :: second.toList) := by
    intro _
    rcases separates with rfl | rfl <;> simp
  have hvisible : Text.trim opened.toList ≠ [] := by
    rw [hopened, Text.trim_blanks_append hstands.blankBefore]
    exact call.trim_opened_ne_nil
  have hsource : (opened ++ separator.toString ++ second).toList =
      opened.toList ++ separator :: second.toList := by
    simp
  rw [hsource, Pieces.pieces_append_of_end hscan happart hvisible hend, isCall'.exists_scan.1]
  rfl

/-! ## What an action takes -/

/-- Whether an action takes so many arguments. -/
def Takes (name : String) (count : Nat) : Prop :=
  (name = "agentClick" ∨ name = "think") ∧ 1 ≤ count ∨ name = "agentType" ∧ (count = 2 ∨ count = 3) ∨
    name = "agentScroll" ∧ count = 2 ∨ name = "goToUrl" ∧ count = 1

theorem ofCall_isOk_iff {name : String} {args : List String} :
    (∃ action, Action.ofCall name args = .ok action) ↔ Takes name args.length := by
  unfold Action.ofCall
  dsimp only
  split
  · rename_i hname
    cases args <;> simp [Takes, hname]
  split
  · rename_i hname
    rcases args with _ | ⟨_, _ | ⟨_, _ | ⟨_, _ | _⟩⟩⟩ <;> simp [Takes, hname]
  split
  · rename_i hname
    rcases args with _ | ⟨_, _ | ⟨_, _ | _⟩⟩ <;> simp [Takes, hname]
  split
  · rename_i hname
    rcases args with _ | ⟨_, _ | _⟩ <;> simp [Takes, hname]
  split
  · rename_i hname
    cases args <;> simp [Takes, hname]
  · simp_all [Takes]

/-! ## What is refused -/

/-- A program of one call is refused if its action does not take the arguments. -/
theorem parse_isError_iff {source name : String} {args : List String}
    (reads : tokenize source = .ok [.call name args]) :
    (∃ cause, parse source = .error cause) ↔ ¬ Takes name args.length := by
  have hparse : parse source = (Action.ofCall name args).map fun action => ⟨none, action⟩ := by
    rw [parse, reads]
    rfl
  rw [hparse, ← ofCall_isOk_iff]
  cases Action.ofCall name args with
  | error cause => exact ⟨fun _ => by rintro ⟨action, ⟨⟩⟩, fun _ => ⟨cause, rfl⟩⟩
  | ok action =>
    refine ⟨?_, fun none => absurd ⟨action, rfl⟩ none⟩
    rintro ⟨cause, ⟨⟩⟩

/-- A text reads as one call, and it is a program unless the action does not take the arguments. -/
def ReadsAsOne (source name : String) (args : List String) : Prop :=
  tokenize source = .ok [.call name args] ∧
    ((∃ cause, parse source = .error cause) ↔ ¬ Takes name args.length)

/-- **Two calls in a text without a separator outside of brackets between them are one call.** With blanks
between them they always are; with a separator in the place of the first one's closing bracket they
are if a bracket is still open there, and else they are the two statements that were written. -/
theorem parse_calls_joined {first second name name' : String} {args args' : List String}
    (isCall : CallText first name args) (isCall' : CallText second name' args') :
    (∀ blanks : String, (∀ c ∈ blanks.toList, c = ' ' ∨ c = '\t') →
      ReadsAsOne (first ++ blanks ++ second) name (args ++ args')) ∧
    (∀ (opened : String) (separator : Char), first = opened ++ ")" →
      separator = ';' ∨ separator = '\n' →
      (LeavesOpen opened →
        ReadsAsOne (opened ++ separator.toString ++ second) name (args ++ args')) ∧
      (¬ LeavesOpen opened →
        pieces (opened ++ separator.toString ++ second).toList =
          .ok [Text.trim opened.toList, Text.trim second.toList])) := by
  constructor
  · intro blanks blank
    have hreads := tokenize_join_blanks isCall isCall' blank
    exact ⟨hreads, parse_isError_iff hreads⟩
  · rintro opened separator rfl separates
    constructor
    · intro leaves
      have hreads := tokenize_join_opened isCall isCall' leaves separates
      exact ⟨hreads, parse_isError_iff hreads⟩
    · intro closed
      exact pieces_opened isCall isCall' closed separates

namespace Sample

/-- A click on a box. -/
def click (box : String) : CallParts :=
  ⟨"agentClick".toList, [], Literal.quote box, by decide, List.all_eq_true.mp rfl,
    List.forall_mem_nil _⟩

def source (box : String) : String :=
  String.ofList (click box).text

theorem callText_source {box : String} (stays : (scan .code 0 (click box).text).isSome)
    (one : pieces (click box).text = .ok [(click box).text]) :
    CallText (source box) "agentClick" [box] := by
  have htext : (source box).toList = (click box).text := String.toList_ofList
  have hone : pieces (source box).toList = .ok [(click box).text] := by rw [htext, one]
  rw [← htext] at stays
  refine ⟨stays, ?_⟩
  rw [tokenize_of_one hone]
  show (Statement.callOfText (click box).text).map _ = _
  rw [CallParts.callOfText_text]
  show ((Literal.all (Literal.quote box)).map _).map _ = _
  rw [Literal.all_quote]
  rfl

theorem callText_first : CallText (source "<box>0,0,1,1</box>") "agentClick" ["<box>0,0,1,1</box>"] :=
  callText_source (by decide) (by rfl)

theorem callText_second : CallText (source "<box>2,2,3,3</box>") "agentClick" ["<box>2,2,3,3</box>"] :=
  callText_source (by decide) (by rfl)

/-- Two clicks with a blank between them. -/
theorem clicks_joined :
    ReadsAsOne (source "<box>0,0,1,1</box>" ++ " " ++ source "<box>2,2,3,3</box>") "agentClick"
      ["<box>0,0,1,1</box>", "<box>2,2,3,3</box>"] :=
  (parse_calls_joined callText_first callText_second).1 " " (by simp)

/-- Each of the two clicks is a program, and so is the text of both, which only does the first. -/
theorem second_click_dropped :
    source "<box>0,0,1,1</box>" = "agentClick(\"<box>0,0,1,1</box>\")" ∧
      source "<box>2,2,3,3</box>" = "agentClick(\"<box>2,2,3,3</box>\")" ∧
      parse (source "<box>0,0,1,1</box>") = .ok ⟨none, .click "<box>0,0,1,1</box>"⟩ ∧
      parse (source "<box>2,2,3,3</box>") = .ok ⟨none, .click "<box>2,2,3,3</box>"⟩ ∧
      parse (source "<box>0,0,1,1</box>" ++ " " ++ source "<box>2,2,3,3</box>") =
        .ok ⟨none, .click "<box>0,0,1,1</box>"⟩ := by
  have hblank : ∀ c ∈ " ".toList, c = ' ' ∨ c = '\t' := by simp
  have hjoin := tokenize_join_blanks callText_first callText_second hblank
  refine ⟨by decide, by decide, ?_, ?_, ?_⟩
  · rw [parse, callText_first.reads]
    rfl
  · rw [parse, callText_second.reads]
    rfl
  · rw [parse, hjoin]
    rfl

end Sample

end BrowserAct.Program
