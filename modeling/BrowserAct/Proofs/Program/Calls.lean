import BrowserAct.Program.Action
import BrowserAct.Proofs.Program.Literals
import BrowserAct.Proofs.Program.Pieces

/-!
# Texts that are calls

A call is a name, maybe blanks, and literals between brackets. Only the first bracket after the name and
the one at the very end are looked at.

* **`CallParts`** are the parts of a call, and **`exists_of_ofText`** finds them in a text that reads
  as one.
* **`ofText_text_withInner`** says that anything else that has literals can stand between the brackets.
* **`ofText_join`** says that two calls, one after the other, read as the first with the arguments of
  both.
-/

namespace BrowserAct

namespace Text

/-- A text starts with another one exactly where something is left behind it. -/
theorem dropStart?_eq_some_iff {start text rest : List Char} :
    dropStart? start text = some rest ↔ text = start ++ rest := by
  constructor
  · intro dropped
    induction start generalizing text with
    | nil => exact Option.some.inj dropped
    | cons p start ih =>
      cases text with
      | nil => cases dropped
      | cons c text =>
        rw [dropStart?] at dropped
        -- character by character
        split at dropped
        · rename_i same
          rw [same, List.cons_append, ← ih dropped]
        · cases dropped
  · rintro rfl
    exact dropStart?_append start rest

/-- And ends with it exactly where something is left before it. -/
theorem dropEnd?_eq_some_iff {ending text rest : List Char} :
    dropEnd? ending text = some rest ↔ text = rest ++ ending := by
  rw [dropEnd?, Option.map_eq_some_iff]
  constructor
  · rintro ⟨reversed, dropped, rfl⟩
    have htext := congrArg List.reverse (dropStart?_eq_some_iff.mp dropped)
    simpa using htext
  · rintro rfl
    exact ⟨rest.reverse, dropStart?_eq_some_iff.mpr (by simp), by simp⟩

/-- What is left after blanks starts visibly. -/
theorem all_head?_dropWhile (text : List Char) :
    (text.dropWhile isBlank).head?.all (!isBlank ·) = true := by
  have hfirst := List.head?_dropWhile_not isBlank text
  cases hhead : (text.dropWhile isBlank).head? with
  | none => rfl
  | some c =>
    rw [hhead] at hfirst
    rw [Option.all_some, hfirst]
    rfl

/-- A trimmed text ends visibly. -/
theorem getLast?_of_trim {text : List Char} (trimmed : trim text = text) :
    text.getLast?.all (!isBlank ·) = true := by
  rw [← trimmed, trim, trimEnd, List.getLast?_reverse]
  exact all_head?_dropWhile _

/-- A text without a blank at its end is left alone. -/
theorem trimEnd_eq_self {text : List Char} (last : text.getLast?.all (!isBlank ·) = true) :
    trimEnd text = text := by
  have hreverse : text.reverse.dropWhile isBlank = text.reverse := by
    cases hreversed : text.reverse with
    | nil => rfl
    | cons c rest =>
      rw [← List.head?_reverse, hreversed] at last
      have visible : isBlank c = false := by simpa using last
      rw [List.dropWhile_cons, visible]
      rfl
  rw [trimEnd, hreverse, List.reverse_reverse]

/-- A quote is no blank. -/
theorem quote_not_mem_blanks {blanks : List Char} (blank : ∀ c ∈ blanks, isBlank c = true) :
    '"' ∉ blanks := by
  intro hmem
  cases blank _ hmem

/-- What is left of a text starts behind its first blanks, and only blanks follow. -/
theorem exists_after_trim (text : List Char) :
    ∃ after, text = text.takeWhile isBlank ++ (trim text ++ after) ∧
      ∀ c ∈ after, isBlank c = true := by
  refine ⟨((trimStart text).reverse.takeWhile isBlank).reverse, ?_, ?_⟩
  · rw [trim, trimEnd, ← List.reverse_append, List.takeWhile_append_dropWhile, List.reverse_reverse,
      trimStart, List.takeWhile_append_dropWhile]
  · intro c hmem
    exact List.all_eq_true.mp List.all_takeWhile c (List.mem_reverse.mp hmem)

/-- A text has blanks around what is left of it. -/
theorem exists_around_trim (text : List Char) :
    ∃ before after, text = before ++ (trim text ++ after) ∧
      (∀ c ∈ before, isBlank c = true) ∧ (∀ c ∈ after, isBlank c = true) := by
  obtain ⟨after, htext, hafter⟩ := exists_after_trim text
  exact ⟨text.takeWhile isBlank, after, htext, List.all_eq_true.mp List.all_takeWhile, hafter⟩

/-- The end of a text without blanks around it has no blanks behind it. -/
theorem trim_eq_trimStart {before text : List Char} (trimmed : trim (before ++ text) = before ++ text) :
    trim text = trimStart text := by
  by_cases empty : trimStart text = []
  · rw [trim, empty]
    rfl
  · have hlast := getLast?_of_trim trimmed
    have hparts : before ++ text = before ++ (text.takeWhile isBlank ++ trimStart text) := by
      rw [trimStart, List.takeWhile_append_dropWhile]
    rw [hparts, List.getLast?_append, List.getLast?_append] at hlast
    refine trimEnd_eq_self ?_
    rw [List.getLast?_eq_some_getLast empty] at hlast ⊢
    exact hlast

/-- Trimming twice is trimming once. -/
theorem trim_trim (text : List Char) : trim (trim text) = trim text := by
  have hlast : (trim text).getLast?.all (!isBlank ·) = true := by
    rw [trim, trimEnd, List.getLast?_reverse]
    exact all_head?_dropWhile _
  refine trim_eq_self ?_ hlast
  cases htrim : trim text with
  | nil => rfl
  | cons c rest =>
    have hprefix : trim text <+: trimStart text := by
      rw [trim, trimEnd, ← List.reverse_suffix, List.reverse_reverse]
      exact List.dropWhile_suffix isBlank
    obtain ⟨more, hmore⟩ := hprefix
    have hfirst := all_head?_dropWhile text
    rw [← trimStart, ← hmore, htrim] at hfirst
    exact hfirst

/-- Blanks at the start do not count. -/
theorem trim_blanks_append {before : List Char} (blank : ∀ c ∈ before, isBlank c = true)
    (text : List Char) : trim (before ++ text) = trim text := by
  rw [trim, trimStart, List.dropWhile_append_of_pos blank]
  rfl

theorem trimEnd_append_blanks (text : List Char) {after : List Char}
    (blank : ∀ c ∈ after, isBlank c = true) : trimEnd (text ++ after) = trimEnd text := by
  have hreverse : ∀ c ∈ after.reverse, isBlank c = true :=
    fun c hmem => blank c (List.mem_reverse.mp hmem)
  rw [trimEnd, List.reverse_append, List.dropWhile_append_of_pos hreverse]
  rfl

end Text

namespace Program.Statement

/-- No blank can stand in a name. -/
theorem isNameChar_of_isBlank {c : Char} (blank : Text.isBlank c = true) :
    isNameChar c = false := by
  have hcode : c.val.toNat = c.toNat := rfl
  have hends : '0'.val.toNat = 48 ∧ '9'.val.toNat = 57 ∧ 'A'.val.toNat = 65 ∧ 'Z'.val.toNat = 90 ∧
      'a'.val.toNat = 97 ∧ 'z'.val.toNat = 122 := by decide
  simp only [Text.isBlank, Text.blankRanges, List.any_cons, List.any_nil, Bool.or_eq_true,
    Bool.and_eq_true, decide_eq_true_eq, Bool.or_false] at blank
  have hmark : c ≠ '_' := by
    rintro rfl
    revert blank
    decide
  -- what is left are ranges of codes that have nothing in common
  delta isNameChar Char.isAlphanum Char.isAlpha Char.isUpper Char.isLower Char.isDigit
  simp only [Bool.or_eq_false_iff, Bool.and_eq_false_iff, decide_eq_false_iff_not, ge_iff_le,
    UInt32.le_iff_toNat_le, beq_eq_false_iff_ne]
  refine ⟨⟨⟨?_, ?_⟩, ?_⟩, hmark⟩ <;> omega

/-- A text in brackets is the bracket, what stands between, and the other bracket. -/
theorem betweenBrackets?_eq_some_iff {text inner : List Char} :
    betweenBrackets? text = some inner ↔ text = '(' :: (inner ++ [')']) := by
  rw [betweenBrackets?, Option.bind_eq_some_iff]
  constructor
  · rintro ⟨rest, hstart, hend⟩
    rw [Text.dropStart?_eq_some_iff.mp hstart, Text.dropEnd?_eq_some_iff.mp hend]
    rfl
  · rintro rfl
    exact ⟨inner ++ [')'], rfl, Text.dropEnd?_eq_some_iff.mpr rfl⟩

/-- The parts of a call: its name, and what stands between the brackets after it. -/
structure CallParts where
  name : List Char
  blanks : List Char
  inner : List Char
  name_ne_nil : name ≠ []
  letters : ∀ c ∈ name, isNameChar c = true
  blank : ∀ c ∈ blanks, Text.isBlank c = true

namespace CallParts

/-- A call up to its closing bracket. -/
def opened (call : CallParts) : List Char :=
  call.name ++ (call.blanks ++ '(' :: call.inner)

def text (call : CallParts) : List Char :=
  call.opened ++ [')']

/-- The same call with something else between the brackets. -/
def withInner (call : CallParts) (inner : List Char) : CallParts :=
  { call with inner }

theorem text_eq (call : CallParts) :
    call.text = call.name ++ (call.blanks ++ '(' :: (call.inner ++ [')'])) := by
  simp [text, opened]

theorem isBlank_closing : Text.isBlank ')' = false := by decide

theorem isBlank_opening : Text.isBlank '(' = false := by decide

/-- A call starts visibly. -/
theorem exists_visible (call : CallParts) :
    ∃ c rest, call.opened = c :: rest ∧ Text.isBlank c = false := by
  obtain ⟨c, rest, hname⟩ := List.exists_cons_of_ne_nil call.name_ne_nil
  refine ⟨c, rest ++ (call.blanks ++ '(' :: call.inner), by rw [opened, hname]; rfl, ?_⟩
  cases hblank : Text.isBlank c with
  | false => rfl
  | true =>
    have hletter := call.letters c (hname ▸ List.mem_cons_self)
    rw [isNameChar_of_isBlank hblank] at hletter
    cases hletter

/-- A call does not start with a blank. -/
theorem trimStart_opened (call : CallParts) (rest : List Char) :
    Text.trimStart (call.opened ++ rest) = call.opened ++ rest := by
  obtain ⟨c, opened, hopened, hvisible⟩ := call.exists_visible
  rw [hopened, List.cons_append, Text.trimStart, List.dropWhile_cons, hvisible]
  rfl

/-- Blanks around a call are left out. -/
theorem trim_around (call : CallParts) {before after : List Char}
    (blank : ∀ c ∈ before, Text.isBlank c = true) (blank' : ∀ c ∈ after, Text.isBlank c = true) :
    Text.trim (before ++ (call.text ++ after)) = call.text := by
  have hstart : Text.trimStart (call.text ++ after) = call.text ++ after := by
    rw [text, List.append_assoc, trimStart_opened]
  rw [Text.trim_blanks_append blank, Text.trim, hstart, Text.trimEnd_append_blanks _ blank']
  exact Text.trimEnd_eq_self (by simp [text, isBlank_closing])

/-- What stands before the arguments is more than blanks. -/
theorem trim_opened_ne_nil (call : CallParts) : Text.trim call.opened ≠ [] := by
  obtain ⟨c, rest, hopened, hvisible⟩ := call.exists_visible
  intro hempty
  have hstart := call.trimStart_opened []
  rw [List.append_nil] at hstart
  rw [Text.trim, hstart, Text.trimEnd, List.reverse_eq_nil_iff] at hempty
  -- then all of it is blank, and its first character is not
  have hall := List.takeWhile_append_dropWhile (p := Text.isBlank) (l := call.opened.reverse)
  rw [hempty, List.append_nil] at hall
  have hmem : c ∈ call.opened.reverse.takeWhile Text.isBlank := by
    rw [hall, hopened]
    simp
  have hblank := List.all_eq_true.mp List.all_takeWhile c hmem
  rw [hvisible] at hblank
  cases hblank

/-- After its name a call goes on with a character that is not of the name. -/
theorem head_after_name (call : CallParts) (rest : List Char) :
    ∃ c after, call.blanks ++ '(' :: rest = c :: after ∧ isNameChar c = false := by
  cases hblanks : call.blanks with
  | nil => exact ⟨'(', rest, rfl, by decide⟩
  | cons c blanks =>
    exact ⟨c, blanks ++ '(' :: rest, rfl,
      isNameChar_of_isBlank (call.blank c (hblanks ▸ List.mem_cons_self))⟩

/-- Between the name and its bracket blanks do not count. -/
theorem trim_after_name (call : CallParts) :
    Text.trim (call.blanks ++ '(' :: (call.inner ++ [')'])) = '(' :: (call.inner ++ [')']) := by
  have hstart : Text.trimStart (call.blanks ++ '(' :: (call.inner ++ [')'])) =
      '(' :: (call.inner ++ [')']) := by
    rw [Text.trimStart, List.dropWhile_append_of_pos call.blank, List.dropWhile_cons,
      isBlank_opening]
    rfl
  rw [Text.trim, hstart, Text.trimEnd_eq_self]
  rw [← List.cons_append, List.getLast?_append]
  simp [isBlank_closing]

/-- The arguments of a call are the literals between its brackets. -/
theorem callOfText_text (call : CallParts) :
    callOfText call.text =
      (Literal.all call.inner).map (.call (String.ofList call.name)) := by
  obtain ⟨c, after, hafter, hend⟩ := call.head_after_name (call.inner ++ [')'])
  have htake : call.text.takeWhile isNameChar = call.name := by
    rw [text_eq, hafter, List.takeWhile_append_of_pos call.letters, List.takeWhile_cons, hend]
    simp
  have hdrop : call.text.dropWhile isNameChar = call.blanks ++ '(' :: (call.inner ++ [')']) := by
    rw [text_eq, List.dropWhile_append_of_pos call.letters, hafter, List.dropWhile_cons, hend]
    simp
  rw [callOfText, htake, hdrop, call.trim_after_name, betweenBrackets?_eq_some_iff.mpr rfl]
  simp [call.name_ne_nil]

/-- A text without blanks at its end has the parts of a call, if it has a name and brackets. -/
theorem exists_of_betweenBrackets? {text inner : List Char} (trimmed : Text.trim text = text)
    (named : text.takeWhile isNameChar ≠ [])
    (found : betweenBrackets? (Text.trim (text.dropWhile isNameChar)) = some inner) :
    ∃ call : CallParts, call.text = text ∧ call.name = text.takeWhile isNameChar ∧
      call.inner = inner := by
  -- the end of the text is visible, so only blanks before the bracket were trimmed
  have hparts := List.takeWhile_append_dropWhile (p := isNameChar) (l := text)
  have hrest : Text.trim (text.dropWhile isNameChar) = Text.trimStart (text.dropWhile isNameChar) :=
    Text.trim_eq_trimStart (hparts.symm ▸ trimmed)
  have hinner := betweenBrackets?_eq_some_iff.mp found
  rw [hrest, Text.trimStart] at hinner
  refine ⟨⟨text.takeWhile isNameChar, (text.dropWhile isNameChar).takeWhile Text.isBlank, inner, named,
    List.all_eq_true.mp List.all_takeWhile, List.all_eq_true.mp List.all_takeWhile⟩, ?_, rfl, rfl⟩
  rw [text_eq, ← hinner, List.takeWhile_append_dropWhile, hparts]

/-- A text without blanks at its end that reads as a call has the parts of one. -/
theorem exists_of_callOfText {text : List Char} {name : String} {args : List String}
    (trimmed : Text.trim text = text) (called : callOfText text = .ok (.call name args)) :
    ∃ call : CallParts, call.text = text ∧ name = String.ofList call.name ∧
      Literal.all call.inner = .ok args := by
  rw [callOfText] at called
  split at called
  · rename_i inner hbrackets
    split at called
    · cases called
    rename_i hname
    cases hliterals : Literal.all inner with
    | error cause =>
      rw [hliterals] at called
      cases called
    | ok literals =>
      rw [hliterals] at called
      cases called
      -- the parts are those that were cut apart: name, blanks, and what is in the brackets
      obtain ⟨call, htext, hcall, rfl⟩ :=
        exists_of_betweenBrackets? trimmed (by simpa using hname) hbrackets
      exact ⟨call, htext, by rw [hcall], hliterals⟩
  · cases called

/-! ## Keywords -/

/-- A keyword does not reach beyond the bracket of a call. -/
theorem dropStart?_opening {keyword : List Char} (noBracket : '(' ∉ keyword)
    (before rest : List Char) :
    Text.dropStart? keyword (before ++ '(' :: rest) =
      (Text.dropStart? keyword before).map (· ++ '(' :: rest) := by
  induction keyword generalizing before with
  | nil => rfl
  | cons p keyword ih =>
    have hp : p ≠ '(' := (List.ne_of_not_mem_cons noBracket).symm
    have hkeyword := List.not_mem_of_not_mem_cons noBracket
    cases before with
    | nil => simp [Text.dropStart?, hp]
    -- a keyword has no bracket, so it ends before the bracket or not at all
    | cons c before =>
      rw [List.cons_append, Text.dropStart?, Text.dropStart?]
      split
      · exact ih hkeyword before
      · rfl

/-- Whether a call starts with a keyword does not depend on what stands between its brackets. -/
theorem afterKeyword?_text_withInner {keyword : List Char} (noBracket : '(' ∉ keyword)
    {call : CallParts} (noKeyword : afterKeyword? keyword call.text = none) (inner : List Char) :
    afterKeyword? keyword (call.withInner inner).text = none := by
  have htext (call : CallParts) :
      call.text = (call.name ++ call.blanks) ++ '(' :: (call.inner ++ [')']) := by
    simp [text_eq]
  have hname : (call.withInner inner).name ++ (call.withInner inner).blanks =
      call.name ++ call.blanks := rfl
  rw [afterKeyword?, htext, dropStart?_opening noBracket] at noKeyword ⊢
  rw [hname]
  cases hdropped : Text.dropStart? keyword (call.name ++ call.blanks) with
  | none => rfl
  | some rest =>
    rw [hdropped] at noKeyword
    cases rest with
    | nil =>
      simp [isBlank_opening]
    | cons c rest =>
      -- only the first character after the keyword counts, and that is not between the brackets
      simpa using noKeyword

/-- A text that is a call is one with other literals between its brackets too. -/
theorem ofText_text_withInner {call : CallParts} {name : String} {args : List String}
    (reads : ofText call.text = .ok (.call name args)) {inner : List Char} {args' : List String}
    (literals : Literal.all inner = .ok args') :
    ofText (call.withInner inner).text = .ok (.call (String.ofList call.name) args') := by
  rw [ofText] at reads ⊢
  -- what makes it a call stands before its brackets, and is not touched
  cases hreturn : afterKeyword? "return".toList call.text with
  | some value =>
    rw [hreturn] at reads
    cases reads
  | none =>
    rw [hreturn] at reads
    rw [afterKeyword?_text_withInner (by decide) hreturn]
    cases hthrow : afterKeyword? "throw".toList call.text with
    | some message =>
      rw [hthrow] at reads
      dsimp only at reads
      cases hthrown : thrown message <;> rw [hthrown] at reads <;> cases reads
    | none =>
      rw [afterKeyword?_text_withInner (by decide) hthrow]
      dsimp only
      rw [callOfText_text]
      show (Literal.all inner).map _ = _
      rw [literals]
      rfl

/-- A text without blanks at its end that reads as a call has the parts of one. -/
theorem exists_of_ofText {text : List Char} {name : String} {args : List String}
    (trimmed : Text.trim text = text) (reads : ofText text = .ok (.call name args)) :
    ∃ call : CallParts, call.text = text ∧ name = String.ofList call.name ∧
      Literal.all call.inner = .ok args := by
  rw [ofText] at reads
  split at reads
  · cases reads
  split at reads
  · rename_i message _
    cases hthrown : thrown message <;> rw [hthrown] at reads <;> cases reads
  · exact exists_of_callOfText trimmed reads

/-! ## Calls one after the other -/

/-- Up to the bracket after its name a call has no quote. -/
theorem quote_not_mem_head (call : CallParts) : '"' ∉ call.name ++ (call.blanks ++ ['(']) := by
  have hname : '"' ∉ call.name := by
    intro hmem
    have hletter := call.letters _ hmem
    revert hletter
    decide
  have hblanks := Text.quote_not_mem_blanks call.blank
  simp [hname, hblanks]

/-- Neither the name of a call nor the blanks after it have literals. -/
theorem all_opened {call : CallParts} {args : List String}
    (literals : Literal.all call.inner = .ok args) : Literal.all call.opened = .ok args := by
  have hopened : call.opened = call.name ++ (call.blanks ++ ['(']) ++ call.inner := by
    simp [opened]
  rw [hopened]
  exact Literal.all_append (Literal.all_of_no_quote call.quote_not_mem_head) literals

/-- What comes after the first bracket stands between the brackets of one call. -/
theorem text_join (first second : CallParts) (between : List Char) :
    (first.withInner (first.inner ++ (between ++ second.opened))).text =
      first.opened ++ (between ++ second.text) := by
  simp [text, opened, withInner]

/-- **Two calls, one after the other, read as one.** It has the name of the first and the arguments of
both; what stands between them does not count, the brackets and the second name included. -/
theorem ofText_join {first second : CallParts} {name : String} {args args' : List String}
    (reads : ofText first.text = .ok (.call name args))
    (literals : Literal.all first.inner = .ok args)
    (literals' : Literal.all second.inner = .ok args') {between : List Char}
    (noQuote : '"' ∉ between) :
    ofText (first.opened ++ (between ++ second.text)) =
      .ok (.call (String.ofList first.name) (args ++ args')) := by
  have hinner : Literal.all (first.inner ++ (between ++ second.opened)) = .ok (args ++ args') := by
    have hbetween := Literal.all_append (Literal.all_of_no_quote noQuote) (all_opened literals')
    exact Literal.all_append literals hbetween
  rw [← text_join]
  exact ofText_text_withInner reads hinner

end CallParts

end Program.Statement

end BrowserAct
