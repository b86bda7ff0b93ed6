import BrowserAct.Proofs.Program.Calls
import BrowserAct.Proofs.Program.Spelling

/-!
# The quotes of statements

The quotes of a program are looked at twice. The reader of statements only wants to know what is quoted:
behind a backslash it skips one character. The reader of literals takes an escape as a whole, of a text
from which a keyword, a name, brackets and blanks were cut off. They agree on where each literal begins
and ends, because a whole escape is never ended by a quote in the first reading.

* **`Turn`** is where the first reader enters or leaves a quoted text, **`locate`** are the statements
  with their turns, and **`erase_locate`** says that it reads statements as `pieces` does.
* **`Literal.Span`** is where the second reader starts and ends a literal, and **`erase_spans`** says that
  these are the literals of `Literal.all`.
* **`exists_spans`** is the agreement on a text after which the first reader is outside of quoted texts.
* **`spans_of_statements`** is the agreement on programs.
-/

namespace BrowserAct.Program

/-! ## Turns -/

/-- Where in a program a quoted text is entered or left. -/
inductive Turn where
  | enters (position : Nat)
  | leaves (position : Nat)
deriving DecidableEq

namespace Place

/-- Where a character leads that is no separator. Brackets do not count. -/
def next (place : Place) (c : Char) : Place :=
  (Pieces.next place 0 c).1

/-- The turn that is taken at a character. -/
def turn (place : Place) (position : Nat) (c : Char) : List Turn :=
  match place, place.next c with
  | .code, .quoted => [.enters position]
  | .quoted, .code => [.leaves position]
  | _, _ => []

def after (place : Place) (text : List Char) : Place :=
  text.foldl next place

/-- The turns that are taken in a text which stands at a position. -/
def turns (place : Place) (position : Nat) : List Char → List Turn
  | [] => []
  | c :: rest => place.turn position c ++ (place.next c).turns (position + 1) rest

/-- How deep in brackets a character stands does not change what is quoted after it. -/
theorem next_eq (place : Place) (depth : Nat) (c : Char) :
    (Pieces.next place depth c).1 = place.next c :=
  (Pieces.next_of_le (Nat.zero_le depth) place c).1

theorem after_append (place : Place) (text more : List Char) :
    place.after (text ++ more) = (place.after text).after more :=
  List.foldl_append

/-- The turns of the second text are those it has at its own place. -/
theorem turns_append (place : Place) (position : Nat) (text more : List Char) :
    place.turns position (text ++ more) =
      place.turns position text ++ (place.after text).turns (position + text.length) more := by
  induction text generalizing place position with
  | nil => rfl
  | cons c text ih =>
    show place.turn position c ++ (place.next c).turns (position + 1) (text ++ more) = _
    rw [ih, ← List.append_assoc, Nat.add_right_comm]
    rfl

/-- Outside of quoted texts, only a quote enters one. -/
theorem next_code {c : Char} (noQuote : c ≠ '"') : next .code c = .code := by
  rw [next, Pieces.next, if_neg noQuote]
  split
  · rfl
  split <;> rfl

/-- Inside of a quoted text, only a quote leaves it and only a backslash keeps the next
character. -/
theorem next_quoted {c : Char} (noQuote : c ≠ '"') (noBackslash : c ≠ '\\') :
    next .quoted c = .quoted := by
  rw [next, Pieces.next, if_neg noBackslash, if_neg noQuote]

/-- Without a quote no quoted text is entered. -/
theorem code_of_no_quote {text : List Char} (noQuote : '"' ∉ text) (position : Nat) :
    after .code text = .code ∧ turns .code position text = [] := by
  induction text generalizing position with
  | nil => exact ⟨rfl, rfl⟩
  | cons c text ih =>
    have hnext := next_code (List.ne_of_not_mem_cons noQuote).symm
    obtain ⟨hafter, hturns⟩ := ih (List.not_mem_of_not_mem_cons noQuote) (position + 1)
    -- each character leaves the place as it is, so that none of them is a turn
    refine ⟨?_, ?_⟩
    · show (next .code c).after text = .code
      rw [hnext, hafter]
    · show turn .code position c ++ (next .code c).turns (position + 1) text = []
      unfold turn
      rw [hnext, hturns]
      rfl

/-- And none is left. -/
theorem eq_code_of_after {place : Place} {text : List Char} (noQuote : '"' ∉ text)
    (closed : place.after text = .code) : place = .code := by
  induction text generalizing place with
  | nil => exact closed
  | cons c text ih =>
    have hc : c ≠ '"' := (List.ne_of_not_mem_cons noQuote).symm
    have hnext : place.next c = .code := ih (List.not_mem_of_not_mem_cons noQuote) closed
    cases place with
    | code => rfl
    -- a quoted text is not left by any other character
    | escaped => cases hnext
    | quoted =>
      rw [next, Pieces.next, if_neg hc] at hnext
      split at hnext <;> cases hnext

/-- What stands around the quotes of a text does not count. -/
theorem turns_around {before text behind : List Char} (noQuote : '"' ∉ before)
    (noQuote' : '"' ∉ behind) (closed : after .code (before ++ (text ++ behind)) = .code)
    (position : Nat) :
    after .code text = .code ∧
      turns .code position (before ++ (text ++ behind)) =
        turns .code (position + before.length) text := by
  -- the text before ends outside of quoted texts, and so does the text, as none is left behind it
  obtain ⟨hbefore, hnone⟩ := code_of_no_quote noQuote position
  rw [after_append, hbefore, after_append] at closed
  have htext := eq_code_of_after noQuote' closed
  obtain ⟨-, hnone'⟩ := code_of_no_quote noQuote' (position + before.length + text.length)
  refine ⟨htext, ?_⟩
  rw [turns_append, hbefore, hnone, turns_append, htext, hnone', List.nil_append, List.append_nil]

/-! ## Inside a quoted text -/

/-- A part of a quoted text in which it is not left. -/
structure Inside (text : List Char) : Prop where
  stays : after .quoted text = .quoted
  noTurn : ∀ position, turns .quoted position text = []

theorem Inside.append {text more : List Char} (inside : Inside text) (inside' : Inside more) :
    Inside (text ++ more) := by
  refine ⟨?_, fun position => ?_⟩
  · rw [after_append, inside.stays, inside'.stays]
  · rw [turns_append, inside.noTurn, inside.stays, inside'.noTurn]
    rfl

theorem inside_nil : Inside [] :=
  ⟨rfl, fun _ => rfl⟩

theorem inside_plain {c : Char} (noQuote : c ≠ '"') (noBackslash : c ≠ '\\') : Inside [c] := by
  have hnext := next_quoted noQuote noBackslash
  refine ⟨hnext, fun position => ?_⟩
  show turn .quoted position c ++ [] = []
  unfold turn
  rw [hnext]
  rfl

/-- A backslash takes the character after it along, even a quote. -/
theorem inside_escape (c : Char) : Inside ['\\', c] :=
  ⟨rfl, fun _ => rfl⟩

/-- Digits are neither quotes nor backslashes. -/
theorem inside_digits (digits : List Literal.Digit) : Inside (digits.map Literal.Digit.char) := by
  induction digits with
  | nil => exact inside_nil
  | cons d digits ih =>
    have hvalue := d.digitValue?_char
    have noQuote : d.char ≠ '"' := fun same => by rw [same] at hvalue; cases hvalue
    have noBackslash : d.char ≠ '\\' := fun same => by rw [same] at hvalue; cases hvalue
    exact (inside_plain noQuote noBackslash).append ih

/-- An escape with digits. -/
theorem inside_code {count : Nat} (c : Char) (digits : Literal.Digits count) :
    Inside ('\\' :: c :: digits.text) :=
  (inside_escape c).append (inside_digits digits.digits)

theorem inside_spelling (spelling : Literal.Spelling) : Inside spelling.text := by
  cases spelling with
  | plain c noQuote noBackslash => exact inside_plain noQuote noBackslash
  | letter l c known => exact inside_escape l
  | byte digits => exact inside_code 'x' digits
  | code digits whole => exact inside_code 'u' digits
  | pair high low isHigh isLow => exact (inside_code 'u' high).append (inside_code 'u' low)

/-- **A unit of a literal ends inside of it**, however it looks and whatever follows. -/
theorem exists_inside_of_takes {source chars rest : List Char}
    (takes : Literal.Takes source chars rest) : ∃ unit, source = unit ++ rest ∧ Inside unit := by
  cases takes with
  | spelling spelling => exact ⟨spelling.text, rfl, inside_spelling spelling⟩
  | high code => exact ⟨'\\' :: 'u' :: code.text, rfl, inside_code 'u' code⟩
  | low code => exact ⟨'\\' :: 'u' :: code.text, rfl, inside_code 'u' code⟩
  | kept c => exact ⟨['\\', c], rfl, inside_escape c⟩

/-- A literal that was read is left at its last quote and not before. -/
theorem exists_inside_of_reads {source chars rest : List Char}
    (reads : Literal.Reads source chars rest) :
    ∃ inner, source = inner ++ '"' :: rest ∧ Inside inner := by
  induction reads with
  | closed rest => exact ⟨[], rfl, inside_nil⟩
  | unit takes _ ih =>
    obtain ⟨unit, rfl, hunit⟩ := exists_inside_of_takes takes
    obtain ⟨inner, rfl, hinner⟩ := ih
    exact ⟨unit ++ inner, (List.append_assoc ..).symm, hunit.append hinner⟩

/-- **A literal that is left is read**, so its reader never comes to the end of the text. -/
theorem exists_reads {source : List Char} (closed : after .quoted source = .code) :
    ∃ chars rest, Literal.Reads source chars rest := by
  -- after each unit the quoted text still has to be left, so the end cannot come first
  fun_induction Literal.read? source with
  | case1 source rest hstep =>
    rw [Literal.eq_quote_of_step_closed hstep]
    exact ⟨[], rest, .closed rest⟩
  | case2 source chars after hstep _ ih =>
    have takes := Literal.step_eq_unit_iff.mp hstep
    -- the unit stays inside, so what follows still has to leave the quoted text
    obtain ⟨unit, rfl, inside⟩ := exists_inside_of_takes takes
    rw [after_append, inside.stays] at closed
    obtain ⟨more, rest, reads⟩ := ih closed
    exact ⟨chars ++ more, rest, .unit takes reads⟩
  | case3 source hstep =>
    rcases Literal.eq_of_step_ended hstep with rfl | rfl <;> cases closed

end Place

/-! ## Literals with the positions of their quotes -/

namespace Literal

/-- A literal and the positions of its quotes. -/
structure Span where
  opens : Nat
  closes : Nat
  content : String

def Span.turns (span : Span) : List Turn :=
  [.enters span.opens, .leaves span.closes]

/-- The literals of a text which stands at a position. -/
def spans (whole : List Char) (position : Nat) (text : List Char) : Except ParseError (List Span) :=
  match text with
  | [] => .ok []
  | '"' :: rest =>
    match h : read? rest with
    | none => .error (.unterminatedString (String.ofList whole))
    | some (chars, after) =>
      have := read?_length h
      -- the closing quote is the last character that was taken
      let closes := position + (rest.length - after.length)
      (spans whole (closes + 1) after).map (⟨position, closes, String.ofList chars⟩ :: ·)
  | _ :: rest => spans whole (position + 1) rest
termination_by text.length

/-- Without the positions, these are the literals that are read. -/
theorem erase_spans (whole : List Char) (position : Nat) (text : List Char) :
    (spans whole position text).map (·.map Span.content) = all.go whole text := by
  fun_induction spans whole position text with
  | case1 => rw [all.go]; rfl
  | case2 position rest unread =>
    rw [all.go]
    split <;> rename_i hread <;> rw [unread] at hread <;> cases hread
    rfl
  | case3 position rest chars after read _ closes ih =>
    -- the next literal starts behind the closing quote in both readers
    rw [go_of_read? read, ← ih]
    cases spans whole (closes + 1) after <;> rfl
  | case4 position c rest noQuote ih =>
    rw [all.go]
    · exact ih
    · exact noQuote

open Place (after turns) in
/-- **Both readers turn at the same quotes**, and the reader of literals comes to an end. -/
theorem exists_spans (whole : List Char) (position : Nat) {text : List Char}
    (closed : after .code text = .code) :
    ∃ found, spans whole position text = .ok found ∧
      found.flatMap Span.turns = turns .code position text := by
  fun_induction spans whole position text with
  | case1 => exact ⟨[], rfl, rfl⟩
  | case2 position rest unread =>
    obtain ⟨chars, behind, reads⟩ := Place.exists_reads closed
    -- the quoted text is left, so the literal would have been read
    rw [read?_eq_some_iff.mpr reads] at unread
    cases unread
  | case3 position rest chars behind read _ closes ih =>
    obtain ⟨inner, rfl, inside⟩ := Place.exists_inside_of_reads (read?_eq_some_iff.mp read)
    have hcloses : closes = position + 1 + inner.length := by
      show position + ((inner ++ '"' :: behind).length - behind.length) = _
      rw [List.length_append, List.length_cons]
      omega
    have hbehind : after .code behind = .code := by
      have hstays : after .quoted (inner ++ '"' :: behind) = after .code behind := by
        rw [Place.after_append, inside.stays]
        rfl
      exact hstays.symm.trans closed
    obtain ⟨found, hfound, hturns⟩ := ih hbehind
    -- between its two quotes a literal has no turns
    refine ⟨⟨position, closes, String.ofList chars⟩ :: found, by rw [hfound]; rfl, ?_⟩
    calc (⟨position, closes, String.ofList chars⟩ :: found).flatMap Span.turns
        = .enters position :: .leaves closes :: turns .code (closes + 1) behind := by
          rw [List.flatMap_cons, hturns]
          rfl
      _ = .enters position :: turns .quoted (position + 1) (inner ++ '"' :: behind) := by
          rw [Place.turns_append, inside.noTurn, inside.stays, hcloses]
          rfl
  | case4 position c rest noQuote ih =>
    have hnext := Place.next_code noQuote
    -- no quote, so both readers go on outside of quoted texts
    have hrest : after .code rest = .code := by
      have hstays : after (Place.next .code c) rest = .code := closed
      rwa [hnext] at hstays
    obtain ⟨found, hfound, hturns⟩ := ih hrest
    refine ⟨found, hfound, hturns.trans ?_⟩
    show _ = Place.turn .code position c ++ turns (Place.next .code c) (position + 1) rest
    unfold Place.turn
    rw [hnext]
    rfl

end Literal

/-! ## What is read of a statement -/

namespace Statement

/-- The part of a statement of which the literals are read, and where it starts. There is none in a
return and in a text that is no statement. -/
def scanned? (text : List Char) : Option (Nat × List Char) :=
  match afterKeyword? "return".toList text with
  | some _ => none
  | none =>
    match afterKeyword? "throw".toList text with
    -- a statement has no blanks at its end, so the message is what it ends with
    | some message => some (text.length - message.length, message)
    | none =>
      match betweenBrackets? (Text.trim (text.dropWhile isNameChar)) with
      | some inner =>
        if (text.takeWhile isNameChar).isEmpty then none
        -- only the closing bracket stands behind it
        else some (text.length - (inner.length + 1), inner)
      | none => none

/-- **A statement is made of the literals of that part**, and without it no literal is read. -/
theorem scanned?_cases (text : List Char) :
    (scanned? text = none ∧ ∀ shown, ofText text ≠ .error (.unterminatedString shown)) ∨
      ∃ start inner, scanned? text = some (start, inner) ∧
        ∃ make : List String → Statement, ofText text = (Literal.all inner).map make := by
  -- keywords come before calls, as in the reader of statements
  cases hreturn : afterKeyword? "return".toList text with
  | some value =>
    refine .inl ⟨by simp only [scanned?, hreturn], fun shown => ?_⟩
    simp only [ofText, hreturn]
    intro failed
    cases failed
  | none =>
    cases hthrow : afterKeyword? "throw".toList text with
    | some message =>
      obtain ⟨make, hmake⟩ : ∃ make, thrown message = (Literal.all message).map make := ⟨_, rfl⟩
      refine .inr ⟨text.length - message.length, message, by simp only [scanned?, hreturn, hthrow],
        fun literals => .throws (make literals), ?_⟩
      simp only [ofText, hreturn, hthrow, hmake]
      cases Literal.all message <;> rfl
    | none =>
      have hcall : ofText text = callOfText text := by simp only [ofText, hreturn, hthrow]
      rw [hcall, callOfText]
      cases hbrackets : betweenBrackets? (Text.trim (text.dropWhile isNameChar)) with
      | none =>
        exact .inl ⟨by simp only [scanned?, hreturn, hthrow, hbrackets], fun shown => by simp⟩
      | some inner =>
        -- a bracket without a name before it makes no call
        by_cases unnamed : (text.takeWhile isNameChar).isEmpty
        · refine .inl ⟨?_, fun shown => by simp [unnamed]⟩
          simp only [scanned?, hreturn, hthrow, hbrackets, if_pos unnamed]
        · refine .inr ⟨text.length - (inner.length + 1), inner, ?_,
            .call (String.ofList (text.takeWhile isNameChar)), ?_⟩
          · simp only [scanned?, hreturn, hthrow, hbrackets, if_neg unnamed]
          · simp only [if_neg unnamed]

/-- Whatever kind of statement it is, its literals are those of the part that is looked at. -/
theorem ofText_of_scanned? {text inner : List Char} {start : Nat}
    (found : scanned? text = some (start, inner)) :
    ∃ make : List String → Statement, ofText text = (Literal.all inner).map make := by
  rcases scanned?_cases text with ⟨none, -⟩ | ⟨start', inner', some, made⟩
  · rw [none] at found
    cases found
  · rw [some] at found
    cases found
    exact made

/-- What stands behind a keyword. -/
theorem exists_of_afterKeyword? {keyword text message : List Char}
    (found : afterKeyword? keyword text = some message) :
    ∃ rest, text = keyword ++ rest ∧ message = Text.trim rest := by
  unfold afterKeyword? at found
  split at found
  · cases found
  · rename_i hdropped
    cases found
    exact ⟨[], Text.dropStart?_eq_some_iff.mp hdropped, rfl⟩
  · rename_i c rest hdropped
    split at found
    · cases found
      exact ⟨c :: rest, Text.dropStart?_eq_some_iff.mp hdropped, rfl⟩
    · cases found

/-- No quote stands around that part. -/
theorem exists_around_scanned {text inner : List Char} {start : Nat}
    (trimmed : Text.trim text = text) (found : scanned? text = some (start, inner)) :
    ∃ before behind, text = before ++ (inner ++ behind) ∧ before.length = start ∧
      '"' ∉ before ∧ '"' ∉ behind := by
  unfold scanned? at found
  split at found
  · cases found
  -- of a thrown text, only the keyword and blanks stand before the part
  split at found
  · rename_i hthrow
    cases found
    obtain ⟨rest, rfl, hmessage⟩ := exists_of_afterKeyword? hthrow
    have hrest : rest = rest.takeWhile Text.isBlank ++ inner := by
      rw [hmessage, Text.trim_eq_trimStart trimmed, Text.trimStart, List.takeWhile_append_dropWhile]
    have noQuote : '"' ∉ rest.takeWhile Text.isBlank :=
      Text.quote_not_mem_blanks (List.all_eq_true.mp List.all_takeWhile)
    refine ⟨"throw".toList ++ rest.takeWhile Text.isBlank, [], ?_, ?_, ?_, List.not_mem_nil⟩
    · rw [List.append_nil, List.append_assoc, ← hrest]
    · have hlength := congrArg List.length hrest
      rw [List.length_append] at hlength
      rw [List.length_append, List.length_append]
      omega
    · intro hmem
      rcases List.mem_append.mp hmem with hmem | hmem
      · revert hmem
        decide
      · exact noQuote hmem
  -- of a call, the name, blanks and the two brackets stand around it
  split at found
  · rename_i inner' hbrackets
    split at found
    · cases found
    · rename_i named
      cases found
      obtain ⟨call, rfl, -, rfl⟩ :=
        CallParts.exists_of_betweenBrackets? trimmed (by simpa using named) hbrackets
      refine ⟨call.name ++ (call.blanks ++ ['(']), [')'], ?_, ?_, call.quote_not_mem_head, by simp⟩
      · simp [CallParts.text_eq]
      · simp [CallParts.text_eq]
        omega
  · cases found

end Statement

/-! ## Statements with their turns -/

/-- A statement, where it starts, and the turns that were taken in it. -/
structure Located where
  start : Nat
  text : List Char
  turns : List Turn

namespace Pieces

/-- A finished statement behind its first blanks. -/
def flushAt (start : Nat) (reversed : List Char) (turns : List Turn) : List Located :=
  (flush reversed).map fun text =>
    ⟨start + (reversed.reverse.takeWhile Text.isBlank).length, text, turns⟩

/-- A separator has no quotes. -/
theorem exists_of_afterEnd? {place : Place} {depth : Nat} {text rest : List Char}
    (ends : afterEnd? place depth text = some rest) :
    place = .code ∧ ∃ separator, text = separator ++ rest ∧ separator ≠ [] ∧ '"' ∉ separator := by
  unfold afterEnd? at ends
  split at ends
  · rename_i outside
    refine ⟨outside.1, ?_⟩
    unfold afterSeparator? at ends
    -- one case for each separator
    split at ends <;> cases ends
    · exact ⟨[';'], rfl, by decide, by decide⟩
    · exact ⟨['\n'], rfl, by decide, by decide⟩
    · exact ⟨['\\', 'n'], rfl, by decide, by decide⟩
  · cases ends

/-- A separator takes at least one character. -/
theorem afterEnd?_length {place : Place} {depth : Nat} {text rest : List Char}
    (ends : afterEnd? place depth text = some rest) : rest.length < text.length := by
  obtain ⟨-, separator, rfl, hsome, -⟩ := exists_of_afterEnd? ends
  have hlength := List.length_pos_iff.mpr hsome
  rw [List.length_append]
  omega

/-- The statements of the rest of a text, as `collect` reads them. The current statement starts at
`start`, blanks included, and `turns` were taken in it so far. -/
def locate (place : Place) (depth start : Nat) (reversed : List Char) (turns : List Turn)
    (text : List Char) : Except ParseError (List Located) :=
  match text with
  | [] =>
    if place = .code then .ok (flushAt start reversed turns)
    else .error (.unterminatedString (String.ofList (Text.trim reversed.reverse)))
  | c :: rest =>
    let position := start + reversed.length
    match h : afterEnd? place depth (c :: rest) with
    | some after =>
      have : after.length < rest.length + 1 := afterEnd?_length h
      -- a separator takes one character or two
      (locate .code 0 (position + ((c :: rest).length - after.length)) [] [] after).map
        (flushAt start reversed turns ++ ·)
    | none =>
      locate (next place depth c).1 (next place depth c).2 start (c :: reversed)
        (turns ++ place.turn position c) rest
termination_by text.length

/-- Without its place and turns, this is the finished statement. -/
theorem erase_flushAt (start : Nat) (reversed : List Char) (turns : List Turn) :
    (flushAt start reversed turns).map Located.text = flush reversed := by
  rw [flushAt, List.map_map]
  exact List.map_id _

/-- **It reads the statements that are read.** -/
theorem erase_locate (place : Place) (depth start : Nat) (reversed : List Char) (turns : List Turn)
    (text : List Char) :
    (locate place depth start reversed turns text).map (·.map Located.text) =
      collect place depth reversed text := by
  fun_induction locate place depth start reversed turns text with
  | case1 depth start reversed turns =>
    rw [collect, ← erase_flushAt start reversed turns]
    rfl
  | case2 place depth start reversed turns quoted =>
    rw [collect]
    · rfl
    · exact quoted
  | case3 place depth start reversed turns c rest position after ends _ ih =>
    rw [collect_cons_of_end ends, ← ih, ← erase_flushAt start reversed turns]
    -- the statement before the separator is finished, and the rest is read on its own
    cases locate .code 0 (position + ((c :: rest).length - after.length)) [] [] after with
    | error cause => rfl
    | ok found => exact congrArg Except.ok List.map_append
  | case4 place depth start reversed turns c rest position goesOn ih =>
    rw [collect_cons goesOn]
    exact ih

/-- **It fails where the text ends inside a quoted text**, and only there. -/
theorem locate_cases (place : Place) (depth start : Nat) (reversed : List Char) (turns : List Turn)
    (text : List Char) :
    (place.after text = .code ∧ ∃ found, locate place depth start reversed turns text = .ok found) ∨
      (place.after text ≠ .code ∧ ∃ shown,
        locate place depth start reversed turns text = .error (.unterminatedString shown)) := by
  fun_induction locate place depth start reversed turns text with
  | case1 depth start reversed turns => exact .inl ⟨rfl, _, rfl⟩
  | case2 place depth start reversed turns quoted => exact .inr ⟨quoted, _, rfl⟩
  | case3 place depth start reversed turns c rest position after ends _ ih =>
    obtain ⟨rfl, separator, hseparator, -, noQuote⟩ := exists_of_afterEnd? ends
    -- a separator stands outside of quoted texts, so the text ends as it did without it
    have hafter : Place.after .code (c :: rest) = Place.after .code after := by
      rw [hseparator, Place.after_append, (Place.code_of_no_quote noQuote 0).1]
    rw [hafter]
    rcases ih with ⟨closed, found, hfound⟩ | ⟨quoted, shown, hshown⟩
    · exact .inl ⟨closed, _, by rw [hfound]; rfl⟩
    · exact .inr ⟨quoted, shown, by rw [hshown]; rfl⟩
  | case4 place depth start reversed turns c rest position goesOn ih =>
    have hafter : place.after (c :: rest) = (next place depth c).1.after rest := by
      rw [Place.next_eq]
      rfl
    rw [hafter]
    exact ih

end Pieces

/-- A statement stands where it was located, without blanks around it, and its turns are its own. -/
structure Located.Fits (source : List Char) (p : Located) : Prop where
  stands : p.text <+: source.drop p.start
  trimmed : Text.trim p.text = p.text
  closed : Place.after .code p.text = .code
  turns_eq : p.turns = Place.turns .code p.start p.text

namespace Pieces

/-- The finished statement stands where it was located, and the blanks around it have no turns. -/
theorem fits_of_mem_flushAt {source reversed rest : List Char} {start : Nat}
    (stands : source.drop start = reversed.reverse ++ rest)
    (closed : Place.after .code reversed.reverse = .code) {p : Located}
    (located : p ∈ flushAt start reversed (Place.turns .code start reversed.reverse)) :
    p.Fits source := by
  obtain ⟨text, hflush, rfl⟩ := List.mem_map.mp located
  have htext : text = Text.trim reversed.reverse := by
    unfold flush at hflush
    dsimp only at hflush
    split at hflush
    · cases hflush
    · exact List.mem_singleton.mp hflush
  -- only blanks were cut off
  obtain ⟨behind, hparts, hbehind⟩ := Text.exists_after_trim reversed.reverse
  rw [← htext] at hparts
  have noQuote : '"' ∉ reversed.reverse.takeWhile Text.isBlank :=
    Text.quote_not_mem_blanks (List.all_eq_true.mp List.all_takeWhile)
  have noQuote' := Text.quote_not_mem_blanks hbehind
  obtain ⟨hclosed, hturns⟩ := Place.turns_around noQuote noQuote' (hparts ▸ closed) start
  refine ⟨⟨behind ++ rest, ?_⟩, ?_, hclosed, ?_⟩
  · show text ++ (behind ++ rest) = source.drop (start + _)
    rw [← List.drop_drop, stands]
    -- behind its first blanks comes the statement, then its last blanks
    have hstart : reversed.reverse ++ rest =
        reversed.reverse.takeWhile Text.isBlank ++ (text ++ (behind ++ rest)) := by
      rw [← List.append_assoc text, ← List.append_assoc, ← hparts]
    rw [hstart, List.drop_left]
  · rw [htext]
    exact Text.trim_trim _
  · rw [← hturns, ← hparts]

/-- **Every statement fits**: the turns that are taken on the way are those of its own text. -/
theorem fits_of_locate {source : List Char} {place : Place} {depth start : Nat}
    {reversed text : List Char} (stands : source.drop start = reversed.reverse ++ text)
    (reached : Place.after .code reversed.reverse = place) {found : List Located}
    (located : locate place depth start reversed (Place.turns .code start reversed.reverse) text =
      .ok found) {p : Located} (hmem : p ∈ found) : p.Fits source := by
  -- all along, the current statement stands at `start`, and the turns so far are those of its text
  generalize hturns : Place.turns .code start reversed.reverse = turns at located
  fun_induction locate place depth start reversed turns text generalizing found with
  | case1 depth start reversed turns =>
    cases located
    subst hturns
    exact fits_of_mem_flushAt stands reached hmem
  | case2 => cases located
  | case3 place depth start reversed turns c rest position after ends _ ih =>
    subst hturns
    obtain ⟨rfl, separator, hseparator, -, -⟩ := exists_of_afterEnd? ends
    rw [hseparator] at stands located ih
    -- behind the separator stands what is left to be read
    have hrest : source.drop (position + ((separator ++ after).length - after.length)) = after := by
      rw [List.length_append, Nat.add_sub_cancel, Nat.add_assoc, ← List.drop_drop, stands,
        ← List.append_assoc, ← List.length_reverse, ← List.length_append, List.drop_left]
    cases hlater : locate .code 0 (position + ((separator ++ after).length - after.length)) [] []
        after with
    | error cause =>
      rw [hlater] at located
      cases located
    | ok later =>
      rw [hlater] at located
      cases located
      -- it is the statement that the separator ends, or one behind it
      rcases List.mem_append.mp hmem with hmem | hmem
      · exact fits_of_mem_flushAt stands reached hmem
      · exact ih hrest rfl hmem rfl hlater
  | case4 place depth start reversed turns c rest position goesOn ih =>
    -- the statement goes on with one more character and the turn that it may be
    refine ih ?_ ?_ hmem ?_ located
    · rw [stands, List.reverse_cons, List.append_assoc]
      rfl
    · rw [List.reverse_cons, Place.after_append, reached, Place.next_eq]
      rfl
    · rw [List.reverse_cons, Place.turns_append, reached, List.length_reverse, hturns]
      exact congrArg (turns ++ ·) (List.append_nil _)

end Pieces

/-! ## Programs -/

/-- The statements of a program with their turns. -/
def located (source : String) : Except ParseError (List Located) :=
  Pieces.locate .code 0 0 [] [] source.toList

/-- Without their places and turns, these are the statements that are read. -/
theorem map_located (source : String) :
    (located source).map (·.map Located.text) = pieces source.toList :=
  Pieces.erase_locate .code 0 0 [] [] source.toList

theorem fits_of_located {source : String} {found : List Located} (ok : located source = .ok found)
    {p : Located} (hmem : p ∈ found) : p.Fits source.toList :=
  @Pieces.fits_of_locate source.toList .code 0 0 [] source.toList rfl rfl found ok p hmem

namespace Located.Fits

variable {source : List Char} {p : Located}

/-- The literals of a statement begin and end where it has its turns. -/
theorem exists_spans (fits : p.Fits source) {start : Nat} {inner : List Char}
    (scanned : Statement.scanned? p.text = some (start, inner)) :
    inner <+: source.drop (p.start + start) ∧
      ∃ spans, Literal.spans inner (p.start + start) inner = .ok spans ∧
        Literal.all inner = .ok (spans.map Literal.Span.content) ∧
        spans.flatMap Literal.Span.turns = p.turns := by
  -- the part that is looked at, with what stands around it, has the turns of the statement
  obtain ⟨before, behind, htext, rfl, noQuote, noQuote'⟩ :=
    Statement.exists_around_scanned fits.trimmed scanned
  obtain ⟨hclosed, hturns⟩ := Place.turns_around noQuote noQuote' (htext ▸ fits.closed) p.start
  obtain ⟨spans, hspans, hsame⟩ :=
    Literal.exists_spans inner (p.start + before.length) hclosed
  refine ⟨?_, spans, hspans, ?_, ?_⟩
  · obtain ⟨rest, hrest⟩ := fits.stands
    refine ⟨behind ++ rest, ?_⟩
    rw [← List.drop_drop, ← hrest, htext, List.append_assoc, List.drop_left, List.append_assoc]
  · rw [Literal.all, ← Literal.erase_spans inner (p.start + before.length), hspans]
    rfl
  · rw [hsame, ← hturns, ← htext, fits.turns_eq]

/-- So none of them is without an end. -/
theorem ofText_ne_unterminated (fits : p.Fits source) (shown : String) :
    Statement.ofText p.text ≠ .error (.unterminatedString shown) := by
  rcases Statement.scanned?_cases p.text with ⟨-, none⟩ | ⟨start, inner, scanned, make, hmake⟩
  · exact none shown
  · obtain ⟨-, spans, -, hall, -⟩ := fits.exists_spans scanned
    rw [hmake, hall]
    intro failed
    cases failed

end Located.Fits

/-- Statements that cannot all be read have one among them that cannot be read, and the cause is its
own. -/
theorem exists_of_mapM_ofText_error {texts : List (List Char)} {cause : ParseError}
    (failed : texts.mapM Statement.ofText = .error cause) :
    ∃ text ∈ texts, Statement.ofText text = .error cause := by
  induction texts with
  | nil => cases failed
  | cons text texts ih =>
    rw [List.mapM_cons] at failed
    cases htext : Statement.ofText text with
    | error cause' =>
      rw [htext] at failed
      cases failed
      exact ⟨text, List.mem_cons_self, htext⟩
    | ok statement =>
      rw [htext] at failed
      cases hrest : texts.mapM Statement.ofText with
      | error cause' =>
        rw [hrest] at failed
        cases failed
        obtain ⟨other, hmem, hother⟩ := ih hrest
        exact ⟨other, List.mem_cons_of_mem text hmem, hother⟩
      | ok statements =>
        rw [hrest] at failed
        cases failed

/-- A literal without an end is only found by the reader of statements. -/
theorem tokenize_eq_unterminated_iff {source : String} {shown : String} :
    tokenize source = .error (.unterminatedString shown) ↔
      pieces source.toList = .error (.unterminatedString shown) := by
  constructor
  · intro failed
    unfold tokenize at failed
    have hpieces := map_located source
    cases hlocated : located source with
    | error cause =>
      rw [hlocated] at hpieces
      rw [← hpieces] at failed ⊢
      cases failed
      rfl
    | ok found =>
      rw [hlocated] at hpieces
      rw [← hpieces] at failed
      -- the statements were told apart, so one of them would have a literal without an end
      obtain ⟨text, hmem, htext⟩ := exists_of_mapM_ofText_error failed
      obtain ⟨p, hp, rfl⟩ := List.mem_map.mp hmem
      exact absurd htext ((fits_of_located hlocated hp).ofText_ne_unterminated shown)
  · intro failed
    unfold tokenize
    rw [failed]
    rfl

/-- Where the text of a program ends inside a quoted text, it has no statements. -/
theorem pieces_eq_unterminated_iff {source : List Char} :
    (∃ shown, pieces source = .error (.unterminatedString shown)) ↔
      Place.after .code source ≠ .code := by
  have herase := Pieces.erase_locate .code 0 0 [] [] source
  rw [pieces, ← herase]
  -- the search for statements fails where the text ends quoted, and there only
  rcases Pieces.locate_cases .code 0 0 [] [] source with
    ⟨closed, found, hfound⟩ | ⟨quoted, shown, hshown⟩
  · rw [hfound]
    refine ⟨?_, fun quoted => absurd closed quoted⟩
    rintro ⟨shown, failed⟩
    cases failed
  · rw [hshown]
    exact ⟨fun _ => quoted, fun _ => ⟨shown, rfl⟩⟩

/-- **The two readers of a program agree on its quotes.**

* `located` are the statements of the program, with the place of each and the turns that are taken in it.
* Where literals are read of a statement, they are read of a part that stands in the program, and each
  of them starts and ends at the quotes at which the reader of statements entered and left a quoted text.
  All of them end.
* So a literal without an end is reported exactly where the program ends inside a quoted text. -/
theorem spans_of_statements (source : String) :
    (located source).map (·.map Located.text) = pieces source.toList ∧
    (∀ found, located source = .ok found → ∀ p ∈ found,
      p.text <+: source.toList.drop p.start ∧
      (∀ shown, Statement.ofText p.text ≠ .error (.unterminatedString shown)) ∧
      ∀ start inner, Statement.scanned? p.text = some (start, inner) →
        inner <+: source.toList.drop (p.start + start) ∧
        (∃ make, Statement.ofText p.text = (Literal.all inner).map make) ∧
        ∃ spans, Literal.spans inner (p.start + start) inner = .ok spans ∧
          Literal.all inner = .ok (spans.map Literal.Span.content) ∧
          spans.flatMap Literal.Span.turns = p.turns) ∧
    (∀ shown, tokenize source = .error (.unterminatedString shown) ↔
      pieces source.toList = .error (.unterminatedString shown)) ∧
    ((∃ shown, tokenize source = .error (.unterminatedString shown)) ↔
      Place.after .code source.toList ≠ .code) := by
  refine ⟨map_located source, ?_, fun _ => tokenize_eq_unterminated_iff, ?_⟩
  · intro found hfound p hp
    -- a statement that was found fits, and the agreement is that of its literals
    have fits := fits_of_located hfound hp
    refine ⟨fits.stands, fits.ofText_ne_unterminated, fun start inner scanned => ?_⟩
    obtain ⟨stands, spans⟩ := fits.exists_spans scanned
    exact ⟨stands, Statement.ofText_of_scanned? scanned, spans⟩
  · rw [← pieces_eq_unterminated_iff]
    exact exists_congr fun _ => tokenize_eq_unterminated_iff

end BrowserAct.Program
