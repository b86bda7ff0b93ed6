import BrowserAct.Program.Pieces

/-!
# Texts that end no statement

A reader of statements goes through a text with a place and a number of open brackets. As long as it
meets no separator outside of these, all that it reads belongs to one statement.

* **`scan`** is where such a text leads.
* **`collect_append`** says that the reader goes on from there.
* **`scan_of_le`** says that a text which ends no statement ends none inside further brackets.
* **`pieces_eq_trim`** says that such a text is one statement, and **`pieces_append_of_end`** that a
  separator after it ends it.
-/

namespace BrowserAct

namespace Program.Pieces

/-! ## One character -/

/-- Where a character leads that ends no statement. -/
def next : Place → Nat → Char → Place × Nat
  | .escaped, depth, _ => (.quoted, depth)
  | .quoted, depth, c =>
    (if c = '\\' then .escaped else if c = '"' then .code else .quoted, depth)
  | .code, depth, c =>
    if c = '"' then (.quoted, depth)
    else if isOpening c then (.code, depth + 1)
    else if isClosing c then (.code, depth - 1)
    else (.code, depth)

/-- What stands after a separator at the start of a text. -/
def afterSeparator? : List Char → Option (List Char)
  | ';' :: rest => some rest
  | '\n' :: rest => some rest
  | '\\' :: 'n' :: rest => some rest
  | _ => none

/-- What stands after the end of a statement, if it ends at the start of a text. -/
def afterEnd? (place : Place) (depth : Nat) (text : List Char) : Option (List Char) :=
  if place = .code ∧ depth = 0 then afterSeparator? text else none

/-- A separator ends the statement before it, and the next one starts behind. -/
theorem collect_cons_of_end {place : Place} {depth : Nat} {text rest : List Char}
    (ends : afterEnd? place depth text = some rest) (reversed : List Char) :
    collect place depth reversed text = (collect .code 0 [] rest).map (flush reversed ++ ·) := by
  rw [afterEnd?] at ends
  split at ends
  · rename_i outside
    obtain ⟨rfl, rfl⟩ := outside
    -- one case for each separator
    rw [afterSeparator?.eq_def] at ends
    split at ends <;> cases ends <;> simp [collect, isOpening, isClosing]
  · cases ends

/-- Any other character belongs to the statement. -/
theorem collect_cons {place : Place} {depth : Nat} {c : Char} {rest : List Char}
    (goesOn : afterEnd? place depth (c :: rest) = none) (reversed : List Char) :
    collect place depth reversed (c :: rest) =
      collect (next place depth c).1 (next place depth c).2 (c :: reversed) rest := by
  cases place with
  | escaped => rw [collect, next]
  | quoted => rw [collect, next]
  | code =>
    by_cases hbreak : c = '\\' ∧ rest.head? = some 'n'
    · obtain ⟨rfl, hletter⟩ := hbreak
      obtain ⟨after, rfl⟩ := List.head?_eq_some_iff.mp hletter
      have hdepth : depth ≠ 0 := by
        rintro rfl
        cases goesOn
      -- inside brackets the backslash and the letter are read at once
      have hletter : collect .code depth ('\\' :: reversed) ('n' :: after) =
          collect .code depth ('n' :: '\\' :: reversed) after := by
        simp [collect, isOpening, isClosing]
      rw [collect, if_neg hdepth, ← hletter]
      rfl
    · have hseparator : ¬ (depth = 0 ∧ (c = ';' ∨ c = '\n')) := by
        rintro ⟨rfl, rfl | rfl⟩ <;> cases goesOn
      rw [collect, next, if_neg hseparator]
      · split
        · rfl
        split
        · rfl
        split <;> rfl
      · rintro after rfl rfl
        exact hbreak ⟨rfl, rfl⟩

/-- Further brackets around a text keep statements from ending in it. -/
theorem afterEnd?_of_le {place : Place} {depth depth' : Nat} (le : depth ≤ depth')
    {text : List Char} (goesOn : afterEnd? place depth text = none) :
    afterEnd? place depth' text = none := by
  rw [afterEnd?] at goesOn ⊢
  by_cases outside : place = .code ∧ depth' = 0
  · have hdepth : depth = 0 := Nat.eq_zero_of_le_zero (outside.2 ▸ le)
    rw [if_pos ⟨outside.1, hdepth⟩] at goesOn
    rw [if_pos outside, goesOn]
  · rw [if_neg outside]

/-- With more open brackets a text is quoted alike. -/
theorem next_of_le {depth depth' : Nat} (le : depth ≤ depth') (place : Place) (c : Char) :
    (next place depth' c).1 = (next place depth c).1 ∧
      (next place depth c).2 ≤ (next place depth' c).2 := by
  cases place with
  | escaped | quoted => exact ⟨rfl, le⟩
  | code =>
    rw [next, next]
    split
    · exact ⟨rfl, le⟩
    split
    · exact ⟨rfl, Nat.succ_le_succ le⟩
    split
    · exact ⟨rfl, Nat.sub_le_sub_right le 1⟩
    · exact ⟨rfl, le⟩

/-! ## Texts -/

/-- The place and the number of open brackets after a text, if no statement ends in it. -/
def scan (place : Place) (depth : Nat) : List Char → Option (Place × Nat)
  | [] => some (place, depth)
  | c :: rest =>
    if (afterEnd? place depth (c :: rest)).isSome then none
    else scan (next place depth c).1 (next place depth c).2 rest

/-- The scan goes on where no statement ends. -/
theorem scan_cons_of_none {place : Place} {depth : Nat} {c : Char} {rest : List Char}
    (goesOn : afterEnd? place depth (c :: rest) = none) :
    scan place depth (c :: rest) = scan (next place depth c).1 (next place depth c).2 rest := by
  rw [scan, goesOn]
  rfl

/-- A text that is scanned to its end has no separator on the way. -/
theorem afterEnd?_of_scan {place : Place} {depth : Nat} {c : Char} {rest : List Char}
    {state : Place × Nat} (stays : scan place depth (c :: rest) = some state) :
    afterEnd? place depth (c :: rest) = none ∧
      scan (next place depth c).1 (next place depth c).2 rest = some state := by
  rw [scan] at stays
  split at stays
  · cases stays
  · rename_i goesOn
    exact ⟨Option.not_isSome_iff_eq_none.mp goesOn, stays⟩

/-- A statement goes on unless a separator stands outside of brackets and quoted texts. -/
theorem afterEnd?_cons_eq_none_iff {place : Place} {depth : Nat} {c : Char} {rest : List Char} :
    afterEnd? place depth (c :: rest) = none ↔
      (place = .code → depth = 0 → c ≠ ';' ∧ c ≠ '\n' ∧ ¬ (c = '\\' ∧ rest.head? = some 'n')) := by
  rw [afterEnd?]
  by_cases outside : place = .code ∧ depth = 0
  · rw [if_pos outside, afterSeparator?.eq_def]
    -- one case for each separator, and the case of none
    split
    · simp_all
    · simp_all
    · simp_all
    · rename_i noSemicolon noBreak noWritten
      refine ⟨fun _ _ _ => ⟨?_, ?_, ?_⟩, fun _ => rfl⟩
      · rintro rfl
        exact noSemicolon rest rfl
      · rintro rfl
        exact noBreak rest rfl
      · rintro ⟨rfl, hletter⟩
        obtain ⟨after, rfl⟩ := List.head?_eq_some_iff.mp hletter
        exact noWritten after rfl
  · rw [if_neg outside]
    exact ⟨fun _ code closed => absurd ⟨code, closed⟩ outside, fun _ => rfl⟩

/-- No written line break is made of the end of a text and the start of the next. -/
def Apart (text more : List Char) : Prop :=
  text.getLast? = some '\\' → more.head? ≠ some 'n'

/-- What is apart stays so without its first character. -/
theorem Apart.of_cons {c : Char} {rest more : List Char} (apart : Apart (c :: rest) more) :
    Apart rest more := by
  cases rest with
  | nil =>
    intro last
    cases last
  | cons d rest =>
    rw [Apart, List.getLast?_cons_cons] at apart
    exact apart

/-- Without a backslash no separator can be cut in two. -/
theorem apart_of_not_mem {text : List Char} (noBackslash : '\\' ∉ text) (more : List Char) :
    Apart text more :=
  fun last => absurd (List.mem_of_getLast? last) noBackslash

/-- Blanks are apart from anything. -/
theorem apart_of_blank {text : List Char} (blank : ∀ c ∈ text, Text.isBlank c = true)
    (more : List Char) : Apart text more :=
  apart_of_not_mem (fun hmem => by cases blank _ hmem) more

theorem apart_nil (text : List Char) : Apart text [] :=
  fun _ => by simp

/-- More text after a text makes no separator at its start. -/
theorem afterEnd?_append {place : Place} {depth : Nat} {c : Char} {rest more : List Char}
    (apart : Apart (c :: rest) more) :
    afterEnd? place depth (c :: (rest ++ more)) = none ↔
      afterEnd? place depth (c :: rest) = none := by
  rw [afterEnd?_cons_eq_none_iff, afterEnd?_cons_eq_none_iff]
  cases rest with
  | cons d rest => rfl
  | nil =>
    -- only a backslash at the end of the text could become a separator with what follows
    have hnone : ¬ (c = '\\' ∧ more.head? = some 'n') := by
      rintro ⟨rfl, hletter⟩
      exact apart rfl hletter
    simp [hnone]

/-- **A reader goes on after a text in which no statement ends.** -/
theorem collect_append {place : Place} {depth : Nat} {text : List Char} {state : Place × Nat}
    (stays : scan place depth text = some state) {more : List Char} (apart : Apart text more)
    (reversed : List Char) :
    collect place depth reversed (text ++ more) =
      collect state.1 state.2 (text.reverse ++ reversed) more := by
  induction text generalizing place depth reversed with
  | nil =>
    cases stays
    rfl
  | cons c rest ih =>
    obtain ⟨hgoesOn, hrest⟩ := afterEnd?_of_scan stays
    rw [List.cons_append, collect_cons ((afterEnd?_append apart).mpr hgoesOn), ih hrest apart.of_cons]
    simp

/-- A text is scanned in two parts. -/
theorem scan_append {place : Place} {depth : Nat} {text : List Char} {state : Place × Nat}
    (stays : scan place depth text = some state) {more : List Char} (apart : Apart text more) :
    scan place depth (text ++ more) = scan state.1 state.2 more := by
  induction text generalizing place depth with
  | nil =>
    cases stays
    rfl
  | cons c rest ih =>
    obtain ⟨hgoesOn, hrest⟩ := afterEnd?_of_scan stays
    rw [List.cons_append, scan_cons_of_none ((afterEnd?_append apart).mpr hgoesOn), ih hrest apart.of_cons]

/-- Where no statement ends in a text, none ends in a part of it. -/
theorem scan_of_append {place : Place} {depth : Nat} {text more : List Char} {state : Place × Nat}
    (apart : Apart text more) (stays : scan place depth (text ++ more) = some state) :
    ∃ between, scan place depth text = some between := by
  induction text generalizing place depth with
  | nil => exact ⟨_, rfl⟩
  | cons c rest ih =>
    obtain ⟨hgoesOn, hrest⟩ := afterEnd?_of_scan stays
    rw [scan_cons_of_none ((afterEnd?_append apart).mp hgoesOn)]
    exact ih apart.of_cons hrest

/-- A text that ends no statement ends none inside further brackets. -/
theorem scan_of_le {place place' : Place} {depth depth' opened : Nat} {text : List Char}
    (stays : scan place depth text = some (place', opened)) (le : depth ≤ depth') :
    ∃ opened', opened ≤ opened' ∧ scan place depth' text = some (place', opened') := by
  induction text generalizing place depth depth' with
  | nil =>
    cases stays
    exact ⟨depth', le, rfl⟩
  | cons c rest ih =>
    obtain ⟨hgoesOn, hrest⟩ := afterEnd?_of_scan stays
    -- the place stays the same, and the brackets stay at least as many
    obtain ⟨hplace, hle⟩ := next_of_le le place c
    rw [scan_cons_of_none (afterEnd?_of_le le hgoesOn), hplace]
    exact ih hrest hle

/-! ## Blanks -/

/-- A blank changes nothing, unless a backslash stands before it. -/
theorem next_blank {place : Place} (unescaped : place ≠ .escaped) {c : Char}
    (blank : Text.isBlank c = true) (depth : Nat) : next place depth c = (place, depth) := by
  have hne {d : Char} (visible : Text.isBlank d = false) : c ≠ d := by
    rintro rfl
    rw [visible] at blank
    cases blank
  cases place with
  | escaped => exact absurd rfl unescaped
  | quoted => rw [next, if_neg (hne (by decide)), if_neg (hne (by decide))]
  | code =>
    have hopening : isOpening c = false := by
      simp [isOpening, hne (d := '(') (by decide), hne (d := '[') (by decide),
        hne (d := '\x7b') (by decide)]
    have hclosing : isClosing c = false := by
      simp [isClosing, hne (d := ')') (by decide), hne (d := ']') (by decide),
        hne (d := '\x7d') (by decide)]
    rw [next, if_neg (hne (by decide)), hopening, hclosing]
    rfl

/-- Blanks leave a reader where it is. -/
theorem scan_blanks {place : Place} (unescaped : place ≠ .escaped) {blanks : List Char}
    (blank : ∀ c ∈ blanks, Text.isBlank c = true) {depth : Nat} {state : Place × Nat}
    (stays : scan place depth blanks = some state) : state = (place, depth) := by
  induction blanks with
  | nil =>
    cases stays
    rfl
  | cons c rest ih =>
    obtain ⟨-, hrest⟩ := afterEnd?_of_scan stays
    rw [next_blank unescaped (blank c List.mem_cons_self)] at hrest
    exact ih (fun d hmem => blank d (List.mem_cons_of_mem c hmem)) hrest

/-- Blanks that are no line breaks end no statement. -/
theorem scan_inline {blanks : List Char} (blank : ∀ c ∈ blanks, c = ' ' ∨ c = '\t') (depth : Nat) :
    scan .code depth blanks = some (.code, depth) := by
  induction blanks with
  | nil => rfl
  | cons c rest ih =>
    have hrest := ih fun d hmem => blank d (List.mem_cons_of_mem c hmem)
    have hgoesOn : afterEnd? .code depth (c :: rest) = none := by
      rw [afterEnd?_cons_eq_none_iff]
      rcases blank c List.mem_cons_self with rfl | rfl <;> simp
    have hblank : Text.isBlank c = true := by
      rcases blank c List.mem_cons_self with rfl | rfl <;> rfl
    rw [scan_cons_of_none hgoesOn, next_blank (by decide) hblank]
    exact hrest

/-! ## Texts that are one statement -/

theorem flush_reverse {text : List Char} (visible : Text.trim text ≠ []) :
    flush text.reverse = [Text.trim text] := by
  rw [flush, List.reverse_reverse]
  simp [visible]

/-- A text in which no statement ends is read to its end. -/
theorem pieces_of_scan {text : List Char} {state : Place × Nat}
    (stays : scan .code 0 text = some state) :
    pieces text = collect state.1 state.2 text.reverse [] := by
  have hend := collect_append stays (apart_nil text) []
  rw [List.append_nil, List.append_nil] at hend
  exact hend

/-- And it is one statement, if it has one. -/
theorem pieces_eq_trim {text : List Char} {opened : Nat}
    (stays : scan .code 0 text = some (.code, opened)) (visible : Text.trim text ≠ []) :
    pieces text = .ok [Text.trim text] := by
  rw [pieces_of_scan stays, collect, flush_reverse visible]

/-- A separator outside of brackets ends the statement before it. -/
theorem pieces_append_of_end {text rest after : List Char}
    (stays : scan .code 0 text = some (.code, 0)) (apart : Apart text rest)
    (visible : Text.trim text ≠ []) (ends : afterEnd? .code 0 rest = some after) :
    pieces (text ++ rest) = (pieces after).map (Text.trim text :: ·) := by
  rw [pieces, collect_append stays apart, List.append_nil, collect_cons_of_end ends,
    flush_reverse visible]
  rfl

end Program.Pieces

end BrowserAct
