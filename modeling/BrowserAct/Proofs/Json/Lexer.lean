import BrowserAct.Proofs.Json.Numeral

/-!
# Cutting a text into tokens

Every token takes something off the front of a text, so the rounds that the text allows are enough, and
a text is cut token by token.

* **`lex_cons`** is the first token of a text and the tokens of the rest.
* **`lexText?_quote`** says that a quoted text is one token, with the text that was quoted.
* **`lexToken?_numeral`** says that a numeral is one.
-/

namespace BrowserAct.Json

open Decimal (isDigit)

/-! ## Each token takes at least one character -/

/-- A whole part takes at least one character. -/
theorem lexWhole?_length {text whole rest : List Char} (taken : lexWhole? text = some (whole, rest)) :
    rest.length < text.length := by
  rw [lexWhole?.eq_def] at taken
  split at taken
  · cases taken
    exact Nat.lt_succ_self _
  · rename_i c after _
    split at taken
    · cases taken
      exact Nat.lt_succ_of_le (List.dropWhile_suffix isDigit).length_le
    · cases taken
  · cases taken

/-- A fraction takes some or none. -/
theorem lexFraction?_length {text rest : List Char} {fraction : Option (List Char)}
    (taken : lexFraction? text = some (fraction, rest)) : rest.length ≤ text.length := by
  rw [lexFraction?.eq_def] at taken
  split at taken
  · dsimp only at taken
    split at taken
    · cases taken
    · cases taken
      exact Nat.le_succ_of_le (List.dropWhile_suffix isDigit).length_le
  · cases taken
    exact Nat.le_refl _

theorem lexExponent?_length {text rest : List Char} {exponent : Option Int}
    (taken : lexExponent? text = some (exponent, rest)) : rest.length ≤ text.length := by
  rw [lexExponent?.eq_def] at taken
  split at taken
  · rename_i c after
    split at taken
    · dsimp only at taken
      -- one case for each sign, and one without
      split at taken <;> dsimp only at taken <;> split at taken <;> cases taken <;>
        have hrest (digits : List Char) := (List.dropWhile_suffix isDigit (l := digits)).length_le
      · exact Nat.le_succ_of_le (Nat.le_succ_of_le (hrest _))
      · exact Nat.le_succ_of_le (Nat.le_succ_of_le (hrest _))
      · exact Nat.le_succ_of_le (hrest _)
    · cases taken
      exact Nat.le_refl _
  · cases taken
    exact Nat.le_refl _

/-- A number takes at least one character. -/
theorem lexNumber?_length {text rest : List Char} {value : Json}
    (taken : lexNumber? text = some (value, rest)) : rest.length < text.length := by
  -- a sign may stand before it, so the length is that of what follows
  suffices hunsigned : ∃ unsigned : List Char, unsigned.length ≤ text.length ∧
      rest.length < unsigned.length by
    obtain ⟨unsigned, hle, hlt⟩ := hunsigned
    exact Nat.lt_of_lt_of_le hlt hle
  rw [lexNumber?.eq_def] at taken
  split at taken
  rename_i negative unsigned hsign
  refine ⟨unsigned, ?_, ?_⟩
  · split at hsign <;> cases hsign
    · exact Nat.le_succ _
    · exact Nat.le_refl _
  · obtain ⟨⟨whole, afterWhole⟩, hwhole, taken⟩ := Option.bind_eq_some_iff.mp taken
    obtain ⟨⟨fraction, afterFraction⟩, hfraction, taken⟩ := Option.bind_eq_some_iff.mp taken
    obtain ⟨⟨exponent, after⟩, hexponent, taken⟩ := Option.bind_eq_some_iff.mp taken
    obtain ⟨_, -, same⟩ := Option.bind_eq_some_iff.mp taken
    cases same
    have hlast := Nat.le_trans (lexExponent?_length hexponent) (lexFraction?_length hfraction)
    exact Nat.lt_of_le_of_lt hlast (lexWhole?_length hwhole)

/-- A quoted text ends at a quote. -/
theorem eq_quote_of_finished {text rest : List Char} (finished : textStep text = .finished rest) :
    text = '"' :: rest := by
  rw [textStep.eq_def] at finished
  split at finished
  case h_1 =>
    cases finished
    rfl
  all_goals
    repeat' split at finished
    all_goals cases finished

theorem lexText?_length {text chars rest : List Char} (taken : lexText? text = some (chars, rest)) :
    rest.length < text.length := by
  fun_induction lexText? text generalizing chars with
  | case1 text after finished =>
    cases taken
    rw [eq_quote_of_finished finished]
    exact Nat.lt_succ_self _
  | case2 text c after stepped shorter ih =>
    obtain ⟨⟨more, last⟩, hmore, same⟩ := Option.map_eq_some_iff.mp taken
    cases same
    exact Nat.lt_trans (ih hmore) shorter
  | case3 => cases taken

/-- And so does every token, which is why a text is cut into tokens at last. -/
theorem lexToken?_length {text rest : List Char} {token : Token}
    (taken : lexToken? text = some (token, rest)) : rest.length < text.length := by
  rw [lexToken?.eq_def] at taken
  split at taken
  case h_10 =>
    obtain ⟨⟨chars, after⟩, htext, same⟩ := Option.map_eq_some_iff.mp taken
    cases same
    exact Nat.lt_succ_of_lt (lexText?_length htext)
  case h_11 =>
    obtain ⟨⟨value, after⟩, hnumber, same⟩ := Option.map_eq_some_iff.mp taken
    cases same
    exact lexNumber?_length hnumber
  -- the marks and the names take their characters
  all_goals
    cases taken
    simp only [List.length_cons]
    omega

/-! ## Token by token -/

/-- More rounds than characters change nothing. -/
theorem lexRounds_of_le {rounds : Nat} {text : List Char} (enough : text.length ≤ rounds) :
    lexRounds rounds text = lex text := by
  rw [lex]
  generalize hlength : text.length = length at enough
  replace hlength : text.length ≤ length := Nat.le_of_eq hlength
  induction length generalizing rounds text with
  | zero =>
    have hempty : text = [] := List.length_eq_zero_iff.mp (Nat.le_zero.mp hlength)
    subst hempty
    cases rounds <;> rfl
  | succ length ih =>
    obtain ⟨rounds, rfl⟩ := Nat.exists_eq_add_of_le' (Nat.le_trans (Nat.le_add_left 1 _) enough)
    rw [lexRounds, lexRounds]
    split
    · rfl
    · rename_i start hstart
      cases htoken : lexToken? (text.dropWhile isSpace) with
      | none => rfl
      | some taken =>
        obtain ⟨token, rest⟩ := taken
        -- the token takes a character, so the rest needs one round less
        have hrest : rest.length ≤ length := by
          have hshorter := lexToken?_length htoken
          have hdropped := (List.dropWhile_suffix isSpace (l := text)).length_le
          omega
        have hmore : length ≤ rounds := Nat.le_of_succ_le_succ enough
        show (lexRounds rounds rest).bind _ = (lexRounds length rest).bind _
        rw [ih hmore hrest]

/-- Without a blank at its start, a text starts with a token. -/
theorem lex_visible {c : Char} {after : List Char} (visible : isSpace c = false) :
    lex (c :: after) = (lexToken? (c :: after)).bind fun taken =>
      (lexRounds after.length taken.2).map (taken.1 :: ·) := by
  have hdrop : (c :: after).dropWhile isSpace = c :: after := by
    rw [List.dropWhile_cons, visible]
    rfl
  rw [lex, List.length_cons, lexRounds, hdrop]
  show (lexToken? (c :: after)).bind _ = _
  cases lexToken? (c :: after) with
  | none => rfl
  | some taken => cases htokens : lexRounds after.length taken.2 <;> simp [htokens]

/-- A text that starts with a token has that token and those of the rest. -/
theorem lex_cons {c : Char} {after rest : List Char} {token : Token} (visible : isSpace c = false)
    (taken : lexToken? (c :: after) = some (token, rest)) :
    lex (c :: after) = (lex rest).map (token :: ·) := by
  have hrest : rest.length ≤ after.length := Nat.le_of_lt_succ (lexToken?_length taken)
  rw [lex_visible visible, taken, Option.bind_some, lexRounds_of_le hrest]

/-- And one that starts with no token has none. -/
theorem lex_eq_none {c : Char} {after : List Char} (visible : isSpace c = false)
    (refused : lexToken? (c :: after) = none) : lex (c :: after) = none := by
  rw [lex_visible visible, refused, Option.bind_none]

/-! ## Quoted texts -/

/-- A control character is written as four digits. -/
theorem padded_control {code : Nat} (control : code < 32) :
    (Text.Hexadecimal.padded 4 code).length = 4 ∧
      Text.Hexadecimal.value? (Text.Hexadecimal.padded 4 code) = some code := by
  have table : ∀ n : Fin 32, (Text.Hexadecimal.padded 4 n.val).length = 4 ∧
      Text.Hexadecimal.value? (Text.Hexadecimal.padded 4 n.val) = some n.val := by decide
  exact table ⟨code, control⟩

/-- A control character is no part of a pair of surrogates. -/
theorem textStep_control {c : Char} (control : c.toNat < 32) (rest : List Char) :
    textStep ('\\' :: 'u' :: Text.Hexadecimal.padded 4 c.toNat ++ rest) = .char c rest := by
  obtain ⟨hlength, hvalue⟩ := padded_control control
  obtain ⟨a, b, d, e, hdigits⟩ : ∃ a b d e, Text.Hexadecimal.padded 4 c.toNat = [a, b, d, e] := by
    generalize Text.Hexadecimal.padded 4 c.toNat = digits at hlength
    match digits, hlength with
    | [a, b, d, e], _ => exact ⟨a, b, d, e, rfl⟩
  -- a control character is no half of a pair
  have hlow : isLowSurrogate c.toNat = false := by
    rw [isLowSurrogate, decide_eq_false (by omega), Bool.false_and]
  have hhigh : isHighSurrogate c.toNat = false := by
    rw [isHighSurrogate, decide_eq_false (by omega), Bool.false_and]
  rw [hdigits] at hvalue ⊢
  simp only [List.cons_append, List.nil_append]
  rw [textStep, hvalue]
  dsimp only
  rw [hlow, hhigh, if_neg Bool.false_ne_true, if_neg Bool.false_ne_true, Char.ofNat_toNat]

/-- A character that was written is one step. -/
theorem textStep_quoteChar (c : Char) (rest : List Char) :
    textStep (quoteChar c ++ rest) = .char c rest := by
  have hcode {code : Nat} (same : c.toNat = code) : Char.ofNat code = c := by
    rw [← same, Char.ofNat_toNat]
  rw [quoteChar]
  -- one case for each character with an escape of its own
  split
  · rename_i same; rw [same]; rfl
  split
  · rename_i same; rw [same]; rfl
  split
  · rename_i same; rw [same]; rfl
  split
  · rename_i same; rw [same]; rfl
  split
  · rename_i same; rw [same]; rfl
  split
  · rename_i same; exact congrArg (TextStep.char · rest) (hcode same)
  split
  · rename_i same; exact congrArg (TextStep.char · rest) (hcode same)
  split
  · rename_i control
    exact textStep_control control rest
  · show textStep (c :: rest) = _
    rw [textStep.eq_def]
    split <;> simp_all

/-- A quoted text is read up to its quote. -/
theorem lexText?_quoted (text rest : List Char) :
    lexText? (text.flatMap quoteChar ++ '"' :: rest) = some (text, rest) := by
  induction text with
  | nil =>
    rw [List.flatMap_nil, List.nil_append, lexText?]
    split <;> rename_i hstep <;> cases hstep
    rfl
  | cons c text ih =>
    have hchar := textStep_quoteChar c (text.flatMap quoteChar ++ '"' :: rest)
    rw [List.flatMap_cons, List.append_assoc, lexText?]
    split <;> rename_i hstep <;> rw [hchar] at hstep <;> cases hstep
    rw [ih]
    rfl

theorem lexToken?_quote (text rest : List Char) :
    lexToken? (quote text ++ rest) = some (.text (String.ofList text), rest) := by
  have htext : quote text ++ rest = '"' :: (text.flatMap quoteChar ++ '"' :: rest) := by
    simp [quote]
  rw [htext, lexToken?, lexText?_quoted]
  rfl

/-! ## Numbers -/

/-- The number that a text as a whole is read as. -/
def number? (text : List Char) : Option Json :=
  (lexNumber? text).map Prod.fst

/-- What starts with a digit or a sign is read as a number. -/
theorem lexToken?_number {c : Char} (starts : isDigit c = true ∨ c = '-') (after : List Char) :
    lexToken? (c :: after) =
      (lexNumber? (c :: after)).map fun taken => (.scalar taken.1, taken.2) := by
  rw [lexToken?.eq_def]
  split
  case h_11 => rfl
  all_goals
    rename_i same
    cases same
    exact absurd starts (by decide)

/-- A numeral by itself is read as its value. -/
theorem number?_text (n : Numeral) : number? n.text = n.value? := by
  have hnil : EndsNumeral [] := by simp [EndsNumeral]
  have hends := lexNumber?_text n hnil
  rw [List.append_nil] at hends
  rw [number?, hends]
  cases n.value? <;> rfl

/-- A numeral is one number. -/
theorem lexToken?_numeral (n : Numeral) {rest : List Char} (ends : EndsNumeral rest) :
    lexToken? (n.text ++ rest) = (number? n.text).map fun value => (.scalar value, rest) := by
  obtain ⟨c, after, htext, hstarts⟩ := n.exists_start
  have hnumber : lexNumber? (c :: (after ++ rest)) = n.value?.map (·, rest) := by
    rw [← List.cons_append, ← htext]
    exact lexNumber?_text n ends
  rw [number?_text, htext, List.cons_append, lexToken?_number hstarts, hnumber]
  cases n.value? <;> rfl

end BrowserAct.Json
