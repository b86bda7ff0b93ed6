import BrowserAct.Proofs.Program.Balanced
import BrowserAct.Proofs.Program.Calls

/-!
# Programs that were written

A program is written statement by statement, with separators between the statements and blanks and
further separators wherever one statement ends and the next has not begun. Reading gives the statements
back.

* **`Statement.Writable`** are the statements that can be written, and **`Written`** are the texts of
  programs of them.
* **`pieces_written`** says that such a text is cut into the texts of its statements.
* **`ofText_write_iff`** says which of these are read back, and **`tokenize_written_iff`** says it of
  whole programs.
-/

namespace BrowserAct

namespace Text

/-- A text that starts and ends with other characters than blanks. -/
structure VisibleEnds (text : List Char) : Prop where
  first : ∃ c ∈ text.head?, isBlank c = false
  last : ∃ c ∈ text.getLast?, isBlank c = false

namespace VisibleEnds

/-- The ends of two texts in a row are the start of the first and the end of the second. -/
theorem of_append {first second : List Char} (visible : ∃ c ∈ first.head?, isBlank c = false)
    (visible' : ∃ c ∈ second.getLast?, isBlank c = false) : VisibleEnds (first ++ second) := by
  obtain ⟨c, hfirst, hc⟩ := visible
  obtain ⟨d, hlast, hd⟩ := visible'
  refine ⟨⟨c, ?_, hc⟩, d, ?_, hd⟩
  · rw [List.head?_append, Option.mem_def.mp hfirst]
    rfl
  · rw [List.getLast?_append, Option.mem_def.mp hlast]
    rfl

/-- A text between two visible characters. -/
theorem between {c d : Char} (visible : isBlank c = false) (visible' : isBlank d = false)
    (inner : List Char) : VisibleEnds (c :: inner ++ [d]) :=
  of_append ⟨c, rfl, visible⟩ ⟨d, rfl, visible'⟩

/-- A text of visible characters. -/
theorem of_forall {text : List Char} (visible : ∀ c ∈ text, isBlank c = false)
    (nonempty : text ≠ []) : VisibleEnds text :=
  ⟨⟨_, List.head?_eq_some_head nonempty, visible _ (List.head_mem nonempty)⟩,
    ⟨_, List.getLast?_eq_some_getLast nonempty, visible _ (List.getLast_mem nonempty)⟩⟩

variable {text : List Char} (visible : VisibleEnds text)

include visible

theorem ne_nil : text ≠ [] := by
  rintro rfl
  obtain ⟨c, hmem, -⟩ := visible.first
  cases hmem

theorem trim : Text.trim text = text := by
  obtain ⟨⟨c, hfirst, hc⟩, d, hlast, hd⟩ := visible
  refine trim_eq_self ?_ ?_
  · rw [Option.mem_def.mp hfirst, Option.all_some, hc]
    rfl
  · rw [Option.mem_def.mp hlast, Option.all_some, hd]
    rfl

end VisibleEnds

end Text

namespace Program

open Pieces

/-! ## Between statements -/

/-- A separator as it is written. -/
inductive IsSeparator : List Char → Prop
  | semicolon : IsSeparator [';']
  | lineBreak : IsSeparator ['\n']
  | written : IsSeparator ['\\', 'n']

/-- Blanks and separators in any order; `separates` if a separator among them was asked for. -/
inductive Filling : (separates : Bool) → List Char → Prop
  | nil : Filling false []
  | blank {separates : Bool} {c : Char} {rest : List Char} (blank : Text.isBlank c = true)
      (filling : Filling separates rest) : Filling separates (c :: rest)
  | separator {separates : Bool} {mark rest : List Char} (isMark : IsSeparator mark)
      (filling : Filling separates rest) : Filling true (mark ++ rest)

namespace Pieces

/-- A separator ends the statement before it, and the rest is read on its own. -/
theorem collect_separator {mark : List Char} (isMark : IsSeparator mark) (reversed rest : List Char) :
    collect .code 0 reversed (mark ++ rest) = (pieces rest).map (flush reversed ++ ·) := by
  rw [pieces]
  refine collect_cons_of_end ?_ reversed
  cases isMark <;> rfl

/-- A blank ends a statement or belongs to it. -/
theorem collect_blank {c : Char} (blank : Text.isBlank c = true) (reversed rest : List Char) :
    collect .code 0 reversed (c :: rest) =
      if c = '\n' then (pieces rest).map (flush reversed ++ ·)
      else collect .code 0 (c :: reversed) rest := by
  split
  · rename_i hbreak
    rw [hbreak]
    exact collect_separator .lineBreak reversed rest
  · rename_i noBreak
    -- a blank is no other separator and changes nothing in the place
    have hne {d : Char} (visible : Text.isBlank d = false) : c ≠ d := by
      rintro rfl
      rw [visible] at blank
      cases blank
    have hgoesOn : afterEnd? .code 0 (c :: rest) = none :=
      afterEnd?_cons_eq_none_iff.mpr fun _ _ =>
        ⟨hne (by decide), noBreak, fun written => hne (by decide) written.1⟩
    rw [collect_cons hgoesOn, next_blank (by decide) blank]

/-- A blank at the end does not count. -/
theorem trim_append_blank (text : List Char) {c : Char} (blank : Text.isBlank c = true) :
    Text.trim (text ++ [c]) = Text.trim text := by
  rw [Text.trim, Text.trim, Text.trimStart, Text.trimStart, List.dropWhile_append]
  cases hvisible : text.dropWhile Text.isBlank with
  | nil => simp [blank]
  | cons d rest => exact Text.trimEnd_append_blanks (d :: rest) (by simpa using blank)

theorem flush_cons_blank {c : Char} (blank : Text.isBlank c = true) (reversed : List Char) :
    flush (c :: reversed) = flush reversed := by
  rw [flush, flush, List.reverse_cons, trim_append_blank _ blank]

theorem trim_reverse_append_blank {c : Char} (blank : Text.isBlank c = true) (reversed : List Char) :
    Text.trim (reversed ++ [c]).reverse = Text.trim reversed.reverse := by
  rw [List.reverse_append]
  exact Text.trim_blanks_append (by simpa using blank) _

/-- A blank at the start of a statement is left out in the end. -/
theorem collect_append_blank {c : Char} (blank : Text.isBlank c = true) (place : Place) (depth : Nat)
    (reversed text : List Char) :
    collect place depth (reversed ++ [c]) text = collect place depth reversed text := by
  have htrim := trim_reverse_append_blank blank
  induction text generalizing place depth reversed with
  | nil => cases place <;> simp only [collect, flush, htrim]
  | cons d rest ih =>
    cases hend : afterEnd? place depth (d :: rest) with
    | some after =>
      rw [collect_cons_of_end hend, collect_cons_of_end hend, flush, flush, htrim]
    | none =>
      rw [collect_cons hend, collect_cons hend]
      exact ih _ _ (d :: reversed)

/-- What fills a text before its first statement is left out. -/
theorem pieces_filling {separates : Bool} {gap : List Char} (filling : Filling separates gap)
    (rest : List Char) : pieces (gap ++ rest) = pieces rest := by
  have hflush (result : Except ParseError (List (List Char))) :
      result.map (flush [] ++ ·) = result := by
    cases result <;> rfl
  induction filling with
  | nil => rfl
  | @blank _ c more blank _ ih =>
    rw [List.cons_append, pieces, collect_blank blank]
    split
    · rw [hflush, ih]
    · exact (collect_append_blank blank .code 0 [] (more ++ rest)).trans ih
  | separator isMark _ ih =>
    rw [List.append_assoc, pieces, collect_separator isMark, hflush, ih]

/-- What fills a text between two statements ends the first. -/
theorem collect_gap {gap : List Char} (filling : Filling true gap) (reversed rest : List Char) :
    collect .code 0 reversed (gap ++ rest) = (pieces rest).map (flush reversed ++ ·) := by
  generalize hseparates : true = separates at filling
  induction filling generalizing reversed with
  | nil => cases hseparates
  | blank blank filling ih =>
    rw [List.cons_append, collect_blank blank]
    split
    · rw [pieces_filling filling]
    · rw [ih _ hseparates, flush_cons_blank blank]
  | separator isMark filling =>
    rw [List.append_assoc, collect_separator isMark, pieces_filling filling]

/-- And after the last statement it ends that one. -/
theorem collect_trailing {separates : Bool} {gap : List Char} (filling : Filling separates gap)
    (reversed : List Char) : collect .code 0 reversed gap = .ok (flush reversed) := by
  -- filling alone has no statements in it
  have hpieces {separates : Bool} {gap : List Char} (filling : Filling separates gap) :
      pieces gap = .ok [] := by
    have hgap := pieces_filling filling []
    rwa [List.append_nil] at hgap
  induction filling generalizing reversed with
  | nil => rfl
  | blank blank filling ih =>
    rw [collect_blank blank]
    split
    · rw [hpieces filling]
      simp [Except.map]
    · rw [ih, flush_cons_blank blank]
  | separator isMark filling =>
    rw [collect_separator isMark, hpieces filling]
    simp [Except.map]

/-! ## One statement after the other -/

/-- A text that is one statement, as it stands. -/
structure IsPiece (text : List Char) : Prop where
  balanced : Balanced text
  visible : Text.VisibleEnds text

theorem IsPiece.collect {text : List Char} (isPiece : IsPiece text) (rest : List Char) :
    collect .code 0 [] (text ++ rest) = Pieces.collect .code 0 text.reverse rest := by
  rw [collect_append (isPiece.balanced.stays 0) (isPiece.balanced.apart rest), List.append_nil]

theorem IsPiece.flush {text : List Char} (isPiece : IsPiece text) :
    flush text.reverse = [text] := by
  have htrim := isPiece.visible.trim
  rw [flush_reverse (by rw [htrim]; exact isPiece.visible.ne_nil), htrim]

end Pieces

/-- The texts of statements one after the other: each statement as it is written, and after it what
fills the text up to the next one, with at least one separator, or up to the end. -/
inductive Written : List Statement → List Char → Prop
  | nil : Written [] []
  | last {separates : Bool} {gap : List Char} (statement : Statement)
      (filling : Filling separates gap) : Written [statement] (statement.write ++ gap)
  | next {gap rest : List Char} {following : Statement} {later : List Statement}
      (statement : Statement) (filling : Filling true gap)
      (written : Written (following :: later) rest) :
      Written (statement :: following :: later) (statement.write ++ (gap ++ rest))

/-- **What was written is cut into the texts of its statements.** -/
theorem pieces_written {statements : List Statement} {text : List Char}
    (written : Written statements text)
    (isPiece : ∀ statement ∈ statements, IsPiece statement.write) :
    pieces text = .ok (statements.map Statement.write) := by
  induction written with
  | nil => rfl
  | last statement filling =>
    have hpiece := isPiece statement List.mem_cons_self
    rw [pieces, hpiece.collect, collect_trailing filling, hpiece.flush]
    rfl
  | next statement filling _ ih =>
    have hpiece := isPiece statement List.mem_cons_self
    have hlater := ih fun following hmem => isPiece following (List.mem_cons_of_mem _ hmem)
    rw [pieces, hpiece.collect, collect_gap filling, hlater, hpiece.flush]
    rfl

namespace Statement

/-! ## One statement -/

/-- The statements that can be written: names of letters, and values that are JSON. A throw and the
arguments of a call may be any texts. -/
def Writable : Statement → Prop
  | .call name _ => ∀ c ∈ name.toList, isNameChar c = true
  | .returns none => True
  | .returns (some value) => ∃ j : Json, value = j.compress
  | .throws _ => True

/-- Arguments are balanced: literals, with commas between them. -/
theorem balanced_writeArgs : ∀ args : List String, Balanced (writeArgs args)
  | [] => balanced_nil
  | [last] => balanced_literal last
  | arg :: next :: rest =>
    ((balanced_literal arg).append (balanced_plain (List.all_eq_true.mp rfl))).append
      (balanced_writeArgs (next :: rest))

/-- No letter of a name is a blank. -/
theorem isBlank_nameChar {c : Char} (letter : isNameChar c = true) : Text.isBlank c = false := by
  refine Bool.eq_false_iff.mpr fun blank => ?_
  rw [isNameChar_of_isBlank blank] at letter
  cases letter

/-- The text of a JSON value starts and ends visibly. -/
theorem visible_render (j : Json) : Text.VisibleEnds j.render := by
  -- a number has neither blanks in it nor is it empty
  have hnumeral (n : Json.Numeral) : Text.VisibleEnds n.text := by
    refine .of_forall (fun c hmem => ?_) n.text_ne_nil
    revert c
    exact n.forall_mem_text (fun _ digit => isBlank_nameChar (isNameChar_of_isDigit digit))
      ⟨rfl, rfl⟩ rfl rfl
  have hquote : Text.isBlank '"' = false := rfl
  cases j with
  | null => exact ⟨⟨'n', rfl, rfl⟩, 'l', rfl, rfl⟩
  | bool b =>
    cases b
    · exact ⟨⟨'f', rfl, rfl⟩, 'e', rfl, rfl⟩
    · exact ⟨⟨'t', rfl, rfl⟩, 'e', rfl, rfl⟩
  | integer n =>
    obtain ⟨numeral, htext⟩ := Json.exists_numeral_integer n
    rw [Json.render, htext]
    exact hnumeral numeral
  | float x =>
    obtain ⟨numeral, htext⟩ := Json.exists_numeral_float x
    rw [Json.render, htext]
    exact hnumeral numeral
  | string s => exact .between hquote hquote _
  | array items =>
    obtain ⟨inner, htext, -⟩ := balanced_items items
    rw [Json.render, htext, ← List.cons_append]
    exact .between rfl rfl inner
  | object fields =>
    obtain ⟨inner, htext, -⟩ := balanced_fields fields
    rw [Json.render, htext, ← List.cons_append]
    exact .between rfl rfl inner

/-- A call does not start with a blank, even without a name. -/
theorem head?_call {name : String} (letters : ∀ c ∈ name.toList, isNameChar c = true)
    (rest : List Char) : ∃ c ∈ (name.toList ++ '(' :: rest).head?, Text.isBlank c = false := by
  cases hname : name.toList with
  | nil => exact ⟨'(', rfl, rfl⟩
  | cons c letters' => exact ⟨c, rfl, isBlank_nameChar (letters c (hname ▸ List.mem_cons_self))⟩

theorem write_call (name : String) (args : List String) :
    write (.call name args) = name.toList ++ '(' :: (writeArgs args ++ [')']) := by
  show name.toList ++ '(' :: writeArgs args ++ [')'] = _
  rw [List.append_assoc]
  rfl

theorem write_returns (value : String) :
    write (.returns (some value)) = "return ".toList ++ value.toList :=
  rfl

theorem write_throws (message : String) :
    write (.throws message) = "throw ".toList ++ Literal.quote message :=
  rfl

/-- A written call is a piece. -/
theorem isPiece_call {name : String} (letters : ∀ c ∈ name.toList, isNameChar c = true)
    (args : List String) : IsPiece (write (.call name args)) := by
  rw [write_call]
  refine ⟨?_, ?_⟩
  · have hname : Balanced name.toList :=
      balanced_plain fun c hmem => isPlain_nameChar (letters c hmem)
    exact hname.append ((balanced_writeArgs args).brackets rfl rfl)
  · rw [← List.cons_append, ← List.append_assoc]
    exact .of_append (head?_call letters _) ⟨')', rfl, rfl⟩

/-- A keyword and, after a blank, what it is used with. -/
theorem isPiece_keyword {keyword text : List Char} (plain : ∀ c ∈ keyword, isPlain c = true)
    (visible : ∃ c ∈ keyword.head?, Text.isBlank c = false) (balanced : Balanced text)
    (visible' : ∃ c ∈ text.getLast?, Text.isBlank c = false) : IsPiece (keyword ++ text) :=
  ⟨(balanced_plain plain).append balanced, .of_append visible visible'⟩

/-- **Each statement is one piece of a program.** -/
theorem isPiece_write {statement : Statement} (writable : statement.Writable) :
    IsPiece statement.write := by
  match statement, writable with
  | .call name args, letters => exact isPiece_call letters args
  | .returns none, _ =>
    exact ⟨balanced_plain (List.all_eq_true.mp rfl), ⟨'r', rfl, rfl⟩, 'n', rfl, rfl⟩
  | .returns (some value), ⟨j, hvalue⟩ =>
    have htext : value.toList = j.render := by rw [hvalue, Json.compress, String.toList_ofList]
    rw [write_returns, htext]
    exact isPiece_keyword (List.all_eq_true.mp rfl) ⟨'r', rfl, rfl⟩ (balanced_render j)
      (visible_render j).last
  | .throws message, _ =>
    rw [write_throws]
    exact isPiece_keyword (List.all_eq_true.mp rfl) ⟨'t', rfl, rfl⟩ (balanced_literal message)
      ⟨'"', List.getLast?_concat, rfl⟩

/-! ## Reading one statement -/

/-- A keyword does not reach into a call. -/
theorem afterKeyword?_call {keyword : List Char} (noBracket : '(' ∉ keyword) {name : List Char}
    (letters : ∀ c ∈ name, isNameChar c = true) (rest : List Char) :
    afterKeyword? keyword (name ++ '(' :: rest) = none := by
  rw [afterKeyword?, CallParts.dropStart?_opening noBracket]
  cases hdropped : Text.dropStart? keyword name with
  | none => rfl
  | some after =>
    cases after with
    | nil => rfl
    | cons c after =>
      -- what goes on after the keyword is still the name
      have hmem : c ∈ name := by
        rw [Text.dropStart?_eq_some_iff.mp hdropped]
        simp
      simp [isBlank_nameChar (letters c hmem)]

/-- The literals of written arguments are the arguments. -/
theorem all_writeArgs : ∀ args : List String, Literal.all (writeArgs args) = .ok args
  | [] => Literal.all_of_no_quote (by simp [writeArgs])
  | [last] => Literal.all_quote last
  | arg :: next :: rest => by
    have hcomma : Literal.all ", ".toList = .ok [] := Literal.all_of_no_quote (by decide)
    exact Literal.all_append (Literal.all_append (Literal.all_quote arg) hcomma)
      (all_writeArgs (next :: rest))

/-- Brackets without a name before them are no call. -/
theorem callOfText_no_name (inner : List Char) :
    callOfText ('(' :: (inner ++ [')'])) =
      .error (.invalidStatement (String.ofList ('(' :: (inner ++ [')'])))) := by
  have hvisible : Text.VisibleEnds ('(' :: (inner ++ [')'])) := .between rfl rfl inner
  have hname : ('(' :: (inner ++ [')'])).takeWhile isNameChar = [] := rfl
  have hrest : ('(' :: (inner ++ [')'])).dropWhile isNameChar = '(' :: (inner ++ [')']) := rfl
  rw [callOfText, hname, hrest, hvisible.trim, betweenBrackets?_eq_some_iff.mpr rfl]
  rfl

/-- A written call is read back unless its name is empty. -/
theorem ofText_call {name : String} (letters : ∀ c ∈ name.toList, isNameChar c = true)
    (args : List String) :
    ofText (write (.call name args)) = .ok (.call name args) ↔ name ≠ "" := by
  have hreturn : afterKeyword? "return".toList (write (.call name args)) = none :=
    write_call name args ▸ afterKeyword?_call (by decide) letters _
  have hthrow : afterKeyword? "throw".toList (write (.call name args)) = none :=
    write_call name args ▸ afterKeyword?_call (by decide) letters _
  rw [ofText, hreturn, hthrow]
  dsimp only
  rw [write_call]
  -- without a name it is no statement
  by_cases hname : name = ""
  · rw [hname, String.toList_empty, List.nil_append, callOfText_no_name]
    simp
  · have hcall := CallParts.callOfText_text ⟨name.toList, [], writeArgs args,
      by simpa using hname, letters, by simp⟩
    rw [all_writeArgs, CallParts.text_eq, List.nil_append] at hcall
    rw [hcall]
    simp [Except.map, hname]

/-- What stands after a keyword and a blank. -/
theorem afterKeyword?_append (keyword : List Char) {text : List Char}
    (visible : Text.VisibleEnds text) : afterKeyword? keyword (keyword ++ ' ' :: text) = some text := by
  have htrim : Text.trim ([' '] ++ text) = text :=
    (Text.trim_blanks_append (List.all_eq_true.mp rfl) text).trans visible.trim
  rw [afterKeyword?, Text.dropStart?_append]
  exact congrArg some htrim

/-- A written return is read back. -/
theorem ofText_returns (j : Json) :
    ofText (write (.returns (some j.compress))) = .ok (.returns (some j.compress)) := by
  have hvisible := visible_render j
  have htext : write (.returns (some j.compress)) = "return".toList ++ ' ' :: j.render := by
    have hvalue : j.compress.toList = j.render := by rw [Json.compress, String.toList_ofList]
    rw [write_returns, hvalue]
    rfl
  rw [ofText, htext, afterKeyword?_append "return".toList hvisible]
  simp [hvisible.ne_nil, Json.compress]

theorem ofText_throws (message : String) :
    ofText (write (.throws message)) = .ok (.throws message) := by
  have hquoted : isQuoted (Literal.quote message) = true := by
    rw [isQuoted, Literal.quote, List.getLast?_concat]
    rfl
  have hvisible : Text.VisibleEnds (Literal.quote message) := .between rfl rfl _
  have htext : write (.throws message) = "throw".toList ++ ' ' :: Literal.quote message := rfl
  have hreturn : afterKeyword? "return".toList (write (.throws message)) = none := rfl
  rw [ofText, hreturn]
  dsimp only
  rw [htext, afterKeyword?_append "throw".toList hvisible]
  simp [thrown, Literal.all_quote, hquoted, Except.map]

/-- **A statement reads back, unless it is a call without a name.** -/
theorem ofText_write_iff {statement : Statement} (writable : statement.Writable) :
    ofText statement.write = .ok statement ↔ ∀ args, statement ≠ .call "" args := by
  match statement, writable with
  | .call name args, letters =>
    rw [ofText_call letters]
    simp
  | .returns none, _ =>
    have hreads : ofText (write (.returns none)) = .ok (.returns none) := rfl
    simp [hreads]
  | .returns (some value), ⟨j, hvalue⟩ => simp [hvalue, ofText_returns]
  | .throws message, _ => simp [ofText_throws]

/-- Statements read back together if each of them does. -/
theorem mapM_ofText_write_iff (statements : List Statement) :
    (statements.map write).mapM ofText = .ok statements ↔
      ∀ statement ∈ statements, ofText statement.write = .ok statement := by
  induction statements with
  | nil => simp [pure, Except.pure]
  | cons statement later ih =>
    rw [List.map_cons, List.mapM_cons, List.forall_mem_cons, ← ih]
    constructor
    · intro reads
      -- all are read only where the first is and the later ones are
      cases hfirst : ofText statement.write with
      | error cause =>
        rw [hfirst] at reads
        cases reads
      | ok first =>
        cases hlater : (later.map write).mapM ofText with
        | error cause =>
          rw [hfirst, hlater] at reads
          cases reads
        | ok more =>
          rw [hfirst, hlater] at reads
          cases reads
          exact ⟨rfl, rfl⟩
    · rintro ⟨hfirst, hlater⟩
      rw [hfirst, hlater]
      rfl

end Statement

/-! ## Whole programs -/

/-- **Reading undoes writing.** A program of any statements, with any separators and blanks between,
before and after them, reads as exactly these statements, as long as no call is without a name. -/
theorem tokenize_written_iff {separates : Bool} {before body : List Char} {statements : List Statement}
    (leading : Filling separates before) (written : Written statements body)
    (writable : ∀ statement ∈ statements, statement.Writable) :
    tokenize (String.ofList (before ++ body)) = .ok statements ↔
      ∀ args, Statement.call "" args ∉ statements := by
  have hpieces : pieces (before ++ body) = .ok (statements.map Statement.write) :=
    (pieces_filling leading body).trans
      (pieces_written written fun statement hmem => Statement.isPiece_write (writable statement hmem))
  rw [tokenize, String.toList_ofList, hpieces]
  show (statements.map Statement.write).mapM Statement.ofText = .ok statements ↔ _
  rw [Statement.mapM_ofText_write_iff]
  -- the pieces are the written statements, so each is read back on its own or not
  constructor
  · intro reads args hmem
    exact (Statement.ofText_write_iff (writable _ hmem)).mp (reads _ hmem) args rfl
  · intro named statement hmem
    refine (Statement.ofText_write_iff (writable statement hmem)).mpr ?_
    rintro args rfl
    exact named args hmem

/-- A thought with a separator, a bracket and a quote in it, and a value with a line break in it. -/
theorem thought_and_value_read_back :
    tokenize "; think(\"a;(\\\"b\") \n\\n return [\"c\\n\"]\t" =
      .ok [.call "think" ["a;(\"b"], .returns (some "[\"c\\n\"]")] := by
  have leading : Filling true "; ".toList := .separator .semicolon (.blank rfl .nil)
  have between : Filling true " \n\\n ".toList :=
    .blank rfl (.blank rfl (.separator .written (.blank rfl .nil)))
  have written : Written [.call "think" ["a;(\"b"], .returns (some "[\"c\\n\"]")]
      "think(\"a;(\\\"b\") \n\\n return [\"c\\n\"]\t".toList :=
    .next (.call "think" ["a;(\"b"]) between (.last (.returns (some "[\"c\\n\"]")) (.blank rfl .nil))
  refine (tokenize_written_iff leading written ?_).mpr (by simp)
  intro statement hmem
  simp only [List.mem_cons, List.not_mem_nil, or_false] at hmem
  rcases hmem with rfl | rfl
  · exact List.all_eq_true.mp rfl
  · exact ⟨.array [.string "c\n"], rfl⟩

/-- A call without a name is refused, although its text is that of a call. -/
theorem call_without_name_refused :
    Written [.call "" ["a"]] "(\"a\")".toList ∧ (Statement.call "" ["a"]).Writable ∧
      tokenize "(\"a\")" = .error (.invalidStatement "(\"a\")") :=
  ⟨.last (.call "" ["a"]) .nil, by simp [Statement.Writable], rfl⟩

end Program

end BrowserAct
