import BrowserAct.Program.Statement
import BrowserAct.Proofs.Json.Numeral
import BrowserAct.Proofs.Program.Pieces

/-!
# Texts that leave the reader of statements where it is

Quoted texts, brackets around such texts, and characters that the reader does not look at: no statement
ends in them, and after them the reader is outside of quoted texts, between as many brackets as before.

* **`Balanced`** are these texts, closed under joining, quoting and brackets.
* **`balanced_render`** says that the text of a JSON value is one of them.
-/

namespace BrowserAct

namespace Program.Pieces

/-- A text that leaves the reader of statements where it is. It does not end with a backslash, so that
no written line break is made of it and what follows. -/
structure Balanced (text : List Char) : Prop where
  stays : ∀ depth, scan .code depth text = some (.code, depth)
  noBackslash : text.getLast? ≠ some '\\'

/-- A balanced text holds no part of a separator. -/
theorem Balanced.apart {text : List Char} (balanced : Balanced text) (more : List Char) :
    Apart text more :=
  fun last => absurd last balanced.noBackslash

theorem balanced_nil : Balanced [] :=
  ⟨fun _ => rfl, by simp⟩

/-- Balanced texts in a row. -/
theorem Balanced.append {first second : List Char} (balanced : Balanced first)
    (balanced' : Balanced second) : Balanced (first ++ second) := by
  refine ⟨fun depth => ?_, fun last => ?_⟩
  · rw [scan_append (balanced.stays depth) (balanced.apart second)]
    exact balanced'.stays depth
  · rw [List.getLast?_append] at last
    cases hsecond : second.getLast? with
    | none =>
      rw [hsecond] at last
      exact balanced.noBackslash last
    | some c =>
      rw [hsecond] at last
      exact balanced'.noBackslash (hsecond.trans last)

/-! ## Characters that are not looked at -/

/-- A character that means nothing to the reader of statements. -/
def isPlain (c : Char) : Bool :=
  !(c == '"' || c == '\\' || c == ';' || c == '\n' || isOpening c || isClosing c)

/-- A text without quotes, brackets and separators. -/
theorem balanced_plain {text : List Char} (plain : ∀ c ∈ text, isPlain c = true) :
    Balanced text := by
  refine ⟨fun depth => ?_, fun last => ?_⟩
  · induction text with
    | nil => rfl
    | cons c rest ih =>
      have hc := plain c List.mem_cons_self
      simp only [isPlain, Bool.not_eq_true', Bool.or_eq_false_iff, beq_eq_false_iff_ne] at hc
      obtain ⟨⟨⟨⟨⟨noQuote, noBackslash⟩, noSemicolon⟩, noBreak⟩, noOpening⟩, noClosing⟩ := hc
      have hgoesOn : afterEnd? .code depth (c :: rest) = none :=
        afterEnd?_cons_eq_none_iff.mpr fun _ _ => ⟨noSemicolon, noBreak, fun h => noBackslash h.1⟩
      rw [scan_cons_of_none hgoesOn, next, if_neg noQuote, noOpening, noClosing]
      exact ih fun d hmem => plain d (List.mem_cons_of_mem c hmem)
  · cases plain '\\' (List.mem_of_getLast? last)

/-! ## Quoted texts -/

/-- A part of a quoted text after which the quoted text goes on. -/
def IsUnit (unit : List Char) : Prop :=
  ∀ depth rest, scan .quoted depth (unit ++ rest) = scan .quoted depth rest

/-- Inside of a quoted text only quotes and backslashes count. -/
theorem scan_quoted (depth : Nat) (c : Char) (rest : List Char) :
    scan .quoted depth (c :: rest) =
      scan (if c = '\\' then .escaped else if c = '"' then .code else .quoted) depth rest := by
  rw [scan_cons_of_none (afterEnd?_cons_eq_none_iff.mpr fun quoted => by cases quoted)]
  rfl

/-- A character of a quoted text that stands for itself. -/
theorem isUnit_char {c : Char} (noQuote : c ≠ '"') (noBackslash : c ≠ '\\') : IsUnit [c] := by
  intro depth rest
  rw [List.singleton_append, scan_quoted, if_neg noBackslash, if_neg noQuote]

/-- A backslash with the character that it takes along. -/
theorem isUnit_escape (c : Char) : IsUnit ['\\', c] := by
  intro depth rest
  show scan .quoted depth ('\\' :: c :: rest) = _
  rw [scan_quoted, if_pos rfl,
    scan_cons_of_none (afterEnd?_cons_eq_none_iff.mpr fun escaped => by cases escaped)]
  rfl

theorem IsUnit.append {first second : List Char} (unit : IsUnit first) (unit' : IsUnit second) :
    IsUnit (first ++ second) := by
  intro depth rest
  rw [List.append_assoc, unit, unit']

/-- Characters that stand for themselves. -/
theorem isUnit_chars {text : List Char}
    (plain : ∀ c ∈ text, (c != '"' && c != '\\') = true) : IsUnit text := by
  induction text with
  | nil => exact fun _ _ => rfl
  | cons c rest ih =>
    have hc : c ≠ '"' ∧ c ≠ '\\' := by simpa using plain c List.mem_cons_self
    exact (isUnit_char hc.1 hc.2).append
      (ih fun d hmem => plain d (List.mem_cons_of_mem c hmem))

/-- A text that is written character by character. -/
theorem isUnit_flatMap {write : Char → List Char} {text : List Char}
    (units : ∀ c ∈ text, IsUnit (write c)) : IsUnit (text.flatMap write) := by
  induction text with
  | nil => exact fun _ _ => rfl
  | cons c rest ih =>
    rw [List.flatMap_cons]
    exact (units c List.mem_cons_self).append (ih fun d hmem => units d (List.mem_cons_of_mem c hmem))

/-- A part of a quoted text between its quotes. -/
theorem balanced_quoted {unit : List Char} (isUnit : IsUnit unit) :
    Balanced ('"' :: unit ++ ['"']) := by
  refine ⟨fun depth => ?_, by rw [List.getLast?_concat]; decide⟩
  have hgoesOn : afterEnd? .code depth ('"' :: (unit ++ ['"'])) = none :=
    afterEnd?_cons_eq_none_iff.mpr fun _ _ => by simp
  rw [List.cons_append, scan_cons_of_none hgoesOn]
  show scan .quoted depth (unit ++ ['"']) = _
  rw [isUnit, scan_quoted]
  rfl

/-- A quoted text, whatever it holds. -/
theorem balanced_literal (s : String) : Balanced (Literal.quote s) := by
  refine balanced_quoted (isUnit_flatMap fun c _ => ?_)
  rw [Literal.quoteChar]
  split
  · exact isUnit_escape c
  · rename_i plain
    exact isUnit_char (not_or.mp plain).1 (not_or.mp plain).2

/-! ## Brackets -/

/-- An opening bracket goes one level down. -/
theorem scan_opening {c : Char} (opening : isOpening c = true) (depth : Nat) (rest : List Char) :
    scan .code depth (c :: rest) = scan .code (depth + 1) rest := by
  simp only [isOpening, Bool.or_eq_true, beq_iff_eq] at opening
  rcases opening with (rfl | rfl) | rfl <;>
  · rw [scan_cons_of_none (afterEnd?_cons_eq_none_iff.mpr fun _ _ => by simp)]
    rfl

/-- A closing one comes up again. -/
theorem scan_closing {c : Char} (closing : isClosing c = true) (depth : Nat) :
    scan .code depth [c] = some (.code, depth - 1) := by
  simp only [isClosing, Bool.or_eq_true, beq_iff_eq] at closing
  rcases closing with (rfl | rfl) | rfl <;>
  · rw [scan_cons_of_none (afterEnd?_cons_eq_none_iff.mpr fun _ _ => by simp)]
    rfl

/-- A balanced text in brackets. -/
theorem Balanced.brackets {opening closing : Char} {inner : List Char} (balanced : Balanced inner)
    (opens : isOpening opening = true) (closes : isClosing closing = true) :
    Balanced (opening :: (inner ++ [closing])) := by
  refine ⟨fun depth => ?_, fun last => ?_⟩
  · rw [scan_opening opens, scan_append (balanced.stays _) (balanced.apart _)]
    exact scan_closing closes (depth + 1)
  · rw [← List.cons_append, List.getLast?_concat] at last
    cases last
    cases closes

/-! ## The texts of JSON values -/

/-- Letters of names are plain. -/
theorem isPlain_nameChar {c : Char} (letter : Statement.isNameChar c = true) :
    isPlain c = true := by
  rw [isPlain, Bool.not_eq_true']
  refine Bool.eq_false_iff.mpr fun special => ?_
  simp only [isOpening, isClosing, Bool.or_eq_true, beq_iff_eq] at special
  rcases special with (((((rfl | rfl) | rfl) | rfl) | (rfl | rfl) | rfl) | (rfl | rfl) | rfl) <;>
    cases letter

/-- Digits can stand in names. -/
theorem isNameChar_of_isDigit {c : Char} (digit : Decimal.isDigit c = true) :
    Statement.isNameChar c = true := by
  rw [Json.isDigit_eq] at digit
  rw [Statement.isNameChar, Char.isAlphanum, digit, Bool.or_true, Bool.true_or]

theorem balanced_numeral (n : Json.Numeral) : Balanced n.text :=
  balanced_plain (n.forall_mem_text (fun _ digit => isPlain_nameChar (isNameChar_of_isDigit digit))
    ⟨rfl, rfl⟩ rfl rfl)

/-- Every character is written as a part of a quoted text. -/
theorem isUnit_jsonChar (c : Char) : IsUnit (Json.quoteChar c) := by
  rw [Json.quoteChar]
  -- all escapes are two characters, except those that end with a code
  iterate 7 (split; · exact isUnit_escape _)
  split
  · rename_i control
    have hcode : ∀ n : Fin 32,
        (Text.Hexadecimal.padded 4 n.val).all (fun d => d != '"' && d != '\\') = true := by decide
    exact (isUnit_escape 'u').append
      (isUnit_chars (List.all_eq_true.mp (hcode ⟨c.toNat, control⟩)))
  · exact isUnit_char (by assumption) (by assumption)

theorem balanced_jsonText (text : List Char) : Balanced (Json.quote text) :=
  balanced_quoted (isUnit_flatMap fun c _ => isUnit_jsonChar c)

mutual

/-- **The text of a JSON value leaves the reader of statements where it is.** -/
theorem balanced_render : ∀ j : Json, Balanced j.render
  | .null => balanced_plain (List.all_eq_true.mp rfl)
  | .bool true => balanced_plain (List.all_eq_true.mp rfl)
  | .bool false => balanced_plain (List.all_eq_true.mp rfl)
  | .integer n => by
    obtain ⟨numeral, htext⟩ := Json.exists_numeral_integer n
    rw [Json.render, htext]
    exact balanced_numeral numeral
  | .float x => by
    obtain ⟨numeral, htext⟩ := Json.exists_numeral_float x
    rw [Json.render, htext]
    exact balanced_numeral numeral
  | .string s => balanced_jsonText s.toList
  | .array items => by
    obtain ⟨inner, htext, balanced⟩ := balanced_items items
    rw [Json.render, htext]
    exact balanced.brackets rfl rfl
  | .object fields => by
    obtain ⟨inner, htext, balanced⟩ := balanced_fields fields
    rw [Json.render, htext]
    exact balanced.brackets rfl rfl

/-- Items, with commas between them. -/
theorem balanced_items : ∀ items : List Json,
    ∃ inner, Json.renderItems items = inner ++ [']'] ∧ Balanced inner
  | [] => ⟨[], rfl, balanced_nil⟩
  | [last] => ⟨last.render, rfl, balanced_render last⟩
  | item :: next :: rest => by
    obtain ⟨inner, htext, balanced⟩ := balanced_items (next :: rest)
    have hcomma : Balanced [','] := balanced_plain (List.all_eq_true.mp rfl)
    refine ⟨item.render ++ ([','] ++ inner), ?_,
      (balanced_render item).append (hcomma.append balanced)⟩
    rw [Json.renderItems, htext]
    simp

theorem balanced_fields : ∀ fields : List (String × Json),
    ∃ inner, Json.renderFields fields = inner ++ ['\x7d'] ∧ Balanced inner
  | [] => ⟨[], rfl, balanced_nil⟩
  | [(key, value)] => by
    have hcolon : Balanced [':'] := balanced_plain (List.all_eq_true.mp rfl)
    refine ⟨Json.quote key.toList ++ ([':'] ++ value.render), ?_,
      (balanced_jsonText _).append (hcolon.append (balanced_render value))⟩
    rw [Json.renderFields]
    simp
  | (key, value) :: next :: rest => by
    obtain ⟨inner, htext, balanced⟩ := balanced_fields (next :: rest)
    have hcolon : Balanced [':'] := balanced_plain (List.all_eq_true.mp rfl)
    have hcomma : Balanced [','] := balanced_plain (List.all_eq_true.mp rfl)
    refine ⟨Json.quote key.toList ++ ([':'] ++ (value.render ++ ([','] ++ inner))), ?_,
      (balanced_jsonText _).append
        (hcolon.append ((balanced_render value).append (hcomma.append balanced)))⟩
    rw [Json.renderFields, htext]
    simp

end

end Program.Pieces

end BrowserAct
