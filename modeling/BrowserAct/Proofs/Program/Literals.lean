import BrowserAct.Program.Literal

/-!
# Literals and the text around them

An escape may look at characters that it does not take, but never beyond a quote. So a literal reads
the same whatever stands after its closing quote, and the literals of two texts that are joined are
those of the one and then those of the other.

* **`read?_append`** is one literal with more text after it.
* **`all_append`** is all literals of two texts.
* **`all_quote`** is a literal that was written.
-/

namespace BrowserAct.Program

namespace Literal

/-! ## Escapes -/

/-- A quote is no hexadecimal digit. -/
theorem value?_of_quote {text : List Char} (quote : '"' ∈ text) :
    Text.Hexadecimal.value? text = none := by
  rw [Text.Hexadecimal.value?]
  generalize 0 = value
  induction text generalizing value with
  | nil => cases quote
  | cons c rest ih =>
    rw [List.foldlM_cons]
    rcases List.mem_cons.mp quote with rfl | quote
    · rfl
    · cases Text.Hexadecimal.digitValue? c with
      | none => rfl
      | some digit => exact ih quote (16 * value + digit)

theorem hexadecimal?_append {text : List Char} (quote : '"' ∈ text) (count : Nat)
    (more : List Char) :
    hexadecimal? count (text ++ more) =
      (hexadecimal? count text).map fun taken => (taken.1, taken.2 ++ more) := by
  rw [hexadecimal?, hexadecimal?]
  rcases Nat.lt_or_ge text.length count with short | long
  · -- with more text after it, the quote stands where a digit is wanted
    have hquote : '"' ∈ (text ++ more).take count := by
      rw [List.take_append, List.take_of_length_le (Nat.le_of_lt short)]
      exact List.mem_append_left _ quote
    have hshort : (text.take count).length ≠ count := by
      rw [List.take_of_length_le (Nat.le_of_lt short)]
      exact Nat.ne_of_lt short
    rw [value?_of_quote hquote, if_neg hshort]
    split <;> rfl
  · have hlong : (text.take count).length = count := by
      rw [List.length_take, Nat.min_eq_left long]
    rw [List.take_append_of_le_length long, List.drop_append_of_le_length long, if_pos hlong,
      if_pos hlong]
    cases Text.Hexadecimal.value? (text.take count) <;> rfl

/-- The quote that is ahead of an escape is still ahead of what follows its digits. -/
theorem quote_mem_of_hexadecimal? {count value : Nat} {text rest : List Char}
    (quote : '"' ∈ text) (taken : hexadecimal? count text = some (value, rest)) : '"' ∈ rest := by
  rw [hexadecimal?] at taken
  split at taken
  · obtain ⟨digits, hdigits, same⟩ := Option.map_eq_some_iff.mp taken
    obtain ⟨-, rfl⟩ := Prod.mk.inj same
    rw [← List.take_append_drop count text] at quote
    rcases List.mem_append.mp quote with quote | quote
    · rw [value?_of_quote quote] at hdigits
      cases hdigits
    · exact quote
  · cases taken

/-- A second half is found before the quote or not at all. -/
theorem lowSurrogate?_append {text : List Char} (quote : '"' ∈ text) (more : List Char) :
    lowSurrogate? (text ++ more) =
      (lowSurrogate? text).map fun taken => (taken.1, taken.2 ++ more) := by
  match text, quote with
  | [c], quote =>
    rw [List.mem_singleton] at quote
    subst quote
    simp [lowSurrogate?]
  | c :: d :: rest, quote =>
    -- only behind a backslash and `u` is anything looked for
    by_cases escapes : c = '\\' ∧ d = 'u'
    · obtain ⟨rfl, rfl⟩ := escapes
      have hquote : '"' ∈ rest := by simpa using quote
      rw [List.cons_append, List.cons_append, lowSurrogate?, lowSurrogate?,
        hexadecimal?_append hquote]
      cases hexadecimal? 4 rest with
      | none => rfl
      | some taken =>
        dsimp only [Option.map_some]
        split <;> rfl
    · have hnone (text : List Char) : lowSurrogate? (c :: d :: text) = none := by
        rw [lowSurrogate?]
        intro rest same
        cases same
        exact escapes ⟨rfl, rfl⟩
      rw [List.cons_append, List.cons_append, hnone, hnone]
      rfl

theorem unicodeChar_append {text : List Char} (quote : '"' ∈ text) (unit : Nat)
    (more : List Char) :
    unicodeChar unit (text ++ more) =
      ((unicodeChar unit text).1, (unicodeChar unit text).2 ++ more) := by
  rw [unicodeChar, unicodeChar, lowSurrogate?_append quote]
  split
  · cases lowSurrogate? text <;> simp
  · split <;> rfl

/-- Apart from the two escapes that take digits, an escape is one letter. -/
theorem escape_letter {c : Char} (noByte : c ≠ 'x') (noUnit : c ≠ 'u') :
    ∃ chars, ∀ rest, escape (c :: rest) = .unit chars rest := by
  by_cases hn : c = 'n'
  · exact ⟨['\n'], fun rest => by rw [hn, escape]⟩
  by_cases ht : c = 't'
  · exact ⟨['\t'], fun rest => by rw [ht, escape]⟩
  by_cases hr : c = 'r'
  · exact ⟨['\r'], fun rest => by rw [hr, escape]⟩
  by_cases hq : c = '"'
  · exact ⟨['"'], fun rest => by rw [hq, escape]⟩
  by_cases hb : c = '\\'
  · exact ⟨['\\'], fun rest => by rw [hb, escape]⟩
  by_cases hs : c = '/'
  · exact ⟨['/'], fun rest => by rw [hs, escape]⟩
  · exact ⟨['\\', c], fun rest => by rw [escape] <;> assumption⟩

/-! ## One literal -/

/-- The start of a literal with more text after it. -/
def Step.append : Step → List Char → Step
  | .closed rest, more => .closed (rest ++ more)
  | .unit chars rest, more => .unit chars (rest ++ more)
  | .ended, _ => .ended

theorem escape_append {text : List Char} (quote : '"' ∈ text) (more : List Char) :
    escape (text ++ more) = (escape text).append more := by
  cases text with
  | nil => cases quote
  | cons c rest =>
    rw [List.cons_append]
    -- three kinds of escapes: two digits, four digits, and a letter that takes nothing along
    by_cases hx : c = 'x'
    · subst hx
      have hquote : '"' ∈ rest := by simpa using quote
      rw [escape, escape, hexadecimal?_append hquote]
      cases hexadecimal? 2 rest <;> rfl
    by_cases hu : c = 'u'
    · subst hu
      have hquote : '"' ∈ rest := by simpa using quote
      rw [escape, escape, hexadecimal?_append hquote]
      cases htaken : hexadecimal? 4 rest with
      | none => rfl
      | some taken =>
        obtain ⟨code, after⟩ := taken
        dsimp only [Option.map_some]
        rw [unicodeChar_append (quote_mem_of_hexadecimal? hquote htaken)]
        rfl
    obtain ⟨chars, hchars⟩ := escape_letter hx hu
    rw [hchars, hchars]
    rfl

/-- The start of a text that has a quote does not depend on what stands after the text. -/
theorem step_append {text : List Char} (quote : '"' ∈ text) (more : List Char) :
    step (text ++ more) = (step text).append more := by
  cases text with
  | nil => cases quote
  | cons c rest =>
    rw [List.cons_append]
    -- a quote closes, a backslash escapes, and every other character stands for itself
    by_cases hq : c = '"'
    · subst hq
      rw [step, step]
      rfl
    by_cases hb : c = '\\'
    · subst hb
      have hquote : '"' ∈ rest := by simpa using quote
      rw [step, step, escape_append hquote]
    have hplain (text : List Char) : step (c :: text) = .unit [c] text := by
      rw [step] <;> assumption
    rw [hplain, hplain]
    rfl

/-! ## What is left of a text -/

/-- Digits are taken from the front. -/
theorem hexadecimal?_suffix {count value : Nat} {text rest : List Char}
    (taken : hexadecimal? count text = some (value, rest)) : rest <:+ text := by
  rw [hexadecimal?] at taken
  split at taken
  · obtain ⟨_, _, same⟩ := Option.map_eq_some_iff.mp taken
    obtain ⟨-, rfl⟩ := Prod.mk.inj same
    exact List.drop_suffix count text
  · cases taken

theorem lowSurrogate?_suffix {low : Nat} {text rest : List Char}
    (taken : lowSurrogate? text = some (low, rest)) : rest <:+ text := by
  rw [lowSurrogate?.eq_def] at taken
  split at taken
  · rename_i after
    split at taken
    · rename_i hdigits
      split at taken
      · cases taken
        have hsuffix := hexadecimal?_suffix hdigits
        exact hsuffix.trans (List.suffix_append ['\\', 'u'] after)
      · cases taken
    · cases taken
  · cases taken

theorem unicodeChar_suffix (unit : Nat) (text : List Char) :
    (unicodeChar unit text).2 <:+ text := by
  rw [unicodeChar]
  split
  · split
    · rename_i hlow
      exact lowSurrogate?_suffix hlow
    · exact List.suffix_rfl
  · split <;> exact List.suffix_rfl

theorem escape_suffix {text chars rest : List Char} (taken : escape text = .unit chars rest) :
    rest <:+ text := by
  cases text with
  | nil => cases taken
  | cons c text =>
    refine List.IsSuffix.trans ?_ (List.suffix_cons c text)
    -- by the kinds of escapes
    by_cases hx : c = 'x'
    · subst hx
      rw [escape] at taken
      split at taken
      · rename_i hdigits
        cases taken
        exact hexadecimal?_suffix hdigits
      · cases taken
        exact List.suffix_rfl
    by_cases hu : c = 'u'
    · subst hu
      rw [escape] at taken
      split at taken
      · rename_i code after hdigits
        cases taken
        exact (unicodeChar_suffix code after).trans (hexadecimal?_suffix hdigits)
      · cases taken
        exact List.suffix_rfl
    obtain ⟨unit, hunit⟩ := escape_letter hx hu
    rw [hunit] at taken
    cases taken
    exact List.suffix_rfl

theorem step_suffix {text chars rest : List Char} (taken : step text = .unit chars rest) :
    rest <:+ text := by
  rw [step.eq_def] at taken
  split at taken
  · cases taken
  · cases taken
  · exact (escape_suffix taken).trans (List.suffix_cons _ _)
  · cases taken
    exact List.suffix_cons _ _

/-- A literal is closed by its quote and by nothing else. -/
theorem eq_quote_of_step_closed {text rest : List Char} (closed : step text = .closed rest) :
    text = '"' :: rest := by
  rw [step.eq_def] at closed
  split at closed
  · cases closed
  · cases closed
    rfl
  · exact absurd closed (escape_ne_closed _ _)
  · cases closed

/-! ## One literal -/

theorem read?_of_closed {source rest : List Char} (closed : step source = .closed rest) :
    read? source = some ([], rest) := by
  rw [read?]
  split <;> rename_i hstep <;> rw [closed] at hstep <;> cases hstep
  rfl

theorem read?_of_unit {source chars after : List Char} (unit : step source = .unit chars after) :
    read? source = (read? after).map fun (more, rest) => (chars ++ more, rest) := by
  rw [read?]
  split <;> rename_i hstep <;> rw [unit] at hstep <;> cases hstep
  rfl

/-- A literal that is read has a closing quote ahead. -/
theorem quote_mem_of_read? {text chars rest : List Char} (found : read? text = some (chars, rest)) :
    '"' ∈ text := by
  fun_induction read? text generalizing chars with
  | case1 text after closed =>
    rw [eq_quote_of_step_closed closed]
    exact List.mem_cons_self
  | case2 text unit after taken _ ih =>
    obtain ⟨⟨more, last⟩, hfound, same⟩ := Option.map_eq_some_iff.mp found
    cases same
    exact (step_suffix taken).subset (ih hfound)
  | case3 => cases found

/-- **What stands after a literal does not change it.** -/
theorem read?_append {text chars rest : List Char} (found : read? text = some (chars, rest))
    (more : List Char) : read? (text ++ more) = some (chars, rest ++ more) := by
  -- the closing quote is ahead at every unit, so none of them looks beyond the text
  have hstep := step_append (quote_mem_of_read? found) more
  fun_induction read? text generalizing chars with
  | case1 text after closed =>
    cases found
    rw [closed] at hstep
    exact read?_of_closed hstep
  | case2 text unit after taken _ ih =>
    obtain ⟨⟨last, after'⟩, hfound, same⟩ := Option.map_eq_some_iff.mp found
    cases same
    rw [taken] at hstep
    rw [read?_of_unit hstep, ih hfound (step_append (quote_mem_of_read? hfound) more)]
    rfl
  | case3 => cases found

/-! ## All literals -/

/-- The literals behind a literal are read from where it ends. -/
theorem go_of_read? {rest chars after : List Char} (read : read? rest = some (chars, after))
    (whole : List Char) :
    all.go whole ('"' :: rest) = (all.go whole after).map (String.ofList chars :: ·) := by
  rw [all.go]
  -- of the two ways to go on, only the one with a literal that ends is left
  split <;> rename_i hread <;> rw [read] at hread <;> cases hread
  rfl

/-- The literals of a text come before those of the text after it. The whole text is named only where
a literal has no end. -/
theorem go_append {whole text : List Char} {literals : List String}
    (found : all.go whole text = .ok literals) (whole' more : List Char) :
    all.go whole' (text ++ more) = (all.go whole' more).map (literals ++ ·) := by
  fun_induction all.go whole text generalizing literals with
  | case1 =>
    cases found
    rw [List.nil_append]
    cases all.go whole' more <;> rfl
  | case2 rest unread => cases found
  -- the literal ends before the text does, so more text does not change it
  | case3 rest chars after read _ ih =>
    cases hafter : all.go whole after with
    | error cause =>
      rw [hafter] at found
      cases found
    | ok later =>
      rw [hafter] at found
      cases found
      rw [List.cons_append, go_of_read? (read?_append read more), ih hafter]
      cases all.go whole' more <;> rfl
  | case4 c rest noQuote ih =>
    rw [List.cons_append, all.go]
    · exact ih found
    · exact noQuote

/-- **The literals of two texts that are joined are those of the one and then those of the other.** -/
theorem all_append {first second : List Char} {literals more : List String}
    (found : all first = .ok literals) (found' : all second = .ok more) :
    all (first ++ second) = .ok (literals ++ more) := by
  have hsecond := go_append found' (first ++ second) []
  rw [List.append_nil] at hsecond
  -- the second text is read to its end by itself, with nothing after it
  rw [all, go_append found, hsecond]
  simp [all.go, Except.map]

/-- A text without quotes has no literals. -/
theorem all_of_no_quote {text : List Char} (noQuote : '"' ∉ text) : all text = .ok [] := by
  suffices hgo : ∀ whole, all.go whole text = .ok [] from hgo text
  intro whole
  induction text with
  | nil => rw [all.go]
  | cons c rest ih =>
    have hc : c ≠ '"' := (List.ne_of_not_mem_cons noQuote).symm
    rw [all.go]
    · exact ih (List.not_mem_of_not_mem_cons noQuote)
    · exact hc

/-! ## Literals that were written -/

/-- A character that is written into a literal is one unit of it. -/
theorem step_quoteChar (c : Char) (rest : List Char) :
    step (quoteChar c ++ rest) = .unit [c] rest := by
  rw [quoteChar]
  split
  · rename_i escaped
    rcases escaped with rfl | rfl <;> rfl
  · rename_i plain
    obtain ⟨noQuote, noBackslash⟩ := not_or.mp plain
    show step (c :: rest) = _
    rw [step.eq_def]
    split <;> simp_all

/-- A literal that was written reads back. -/
theorem read?_quote (chars rest : List Char) :
    read? (chars.flatMap quoteChar ++ '"' :: rest) = some (chars, rest) := by
  induction chars with
  | nil => exact read?_of_closed rfl
  | cons c chars ih =>
    rw [List.flatMap_cons, List.append_assoc, read?_of_unit (step_quoteChar c _), ih]
    rfl

/-- A quoted text is its own literal. -/
theorem all_quote (s : String) : all (quote s) = .ok [s] := by
  rw [all, quote, List.cons_append, go_of_read? (read?_quote s.toList []), all.go,
    String.ofList_toList]
  rfl

end Literal

end BrowserAct.Program
