import BrowserAct.Proofs.Program.Literals
import BrowserAct.Proofs.Text.Hexadecimal
import Mathlib.Algebra.Group.Nat.Defs

/-!
# How characters are spelled in literals

A character stands in a literal as it is or as an escape: a letter, two digits of a byte, four digits of a
code, or eight of a surrogate pair. Escapes are of different lengths, and the reader looks ahead for the
digits and for the second half of a pair, but it takes what it looks at only if that belongs to the escape.

* **`Spelling`** are the spellings of characters, **`step_spelling`** reads one, whatever follows.
* **`Takes`** is one unit of a literal, those included that spell no character: half a pair is replaced,
  and any other backslash is kept with the character after it. **`step_eq_unit_iff`** says that these are
  all.
* **`Reads`** is a literal unit by unit, and **`read?_spellings`** says that literals are read so.
-/

namespace BrowserAct.Program.Literal

open Text.Hexadecimal (digitValue? digitChar value?)

/-! ## Digits -/

/-- A hexadecimal digit in either case. -/
structure Digit where
  value : Fin 16
  isUpper : Bool

namespace Digit

def char (d : Digit) : Char :=
  if d.isUpper then (digitChar d.value).toUpper else digitChar d.value

/-- A digit is read as its value, in either case. -/
theorem digitValue?_char (d : Digit) : digitValue? d.char = some d.value.val := by
  have table : ∀ (v : Fin 16) (upper : Bool), digitValue? (char ⟨v, upper⟩) = some v.val := by decide
  exact table d.value d.isUpper

/-- Every character that has a value is a digit. -/
theorem exists_of_digitValue? {c : Char} {n : Nat} (found : digitValue? c = some n) :
    ∃ d : Digit, d.char = c ∧ d.value.val = n := by
  by_cases small : c.toNat < 128
  · have table : ∀ k, k < 128 → ∀ v : Fin 16, digitValue? (Char.ofNat k) = some v.val →
        ∃ upper : Bool, char ⟨v, upper⟩ = Char.ofNat k := by decide +kernel
    obtain ⟨hn, -⟩ := Text.Hexadecimal.digitValue?_eq_some_iff.mp found
    have hvalue := table c.toNat small ⟨n, hn⟩
    rw [Char.ofNat_toNat] at hvalue
    obtain ⟨upper, hchar⟩ := hvalue found
    exact ⟨⟨⟨n, hn⟩, upper⟩, hchar, rfl⟩
  · rw [Text.Hexadecimal.digitValue?_of_large (Nat.le_of_not_lt small)] at found
    cases found

end Digit

/-- The number that digits stand for after those of another number. -/
def numberAfter (start : Nat) (digits : List Digit) : Nat :=
  digits.foldl (fun n d => 16 * n + d.value) start

/-- Digits are read as their number, and nothing else is. -/
theorem foldlM_digitValue?_eq_some_iff {text : List Char} {start n : Nat} :
    text.foldlM (fun n c => (digitValue? c).map (16 * n + ·)) start = some n ↔
      ∃ digits : List Digit, text = digits.map Digit.char ∧ numberAfter start digits = n := by
  -- digit by digit: the number of the digits before is the start of the rest
  induction text generalizing start with
  | nil => simp [numberAfter]
  | cons c text ih =>
    rw [List.foldlM_cons]
    constructor
    · intro found
      obtain ⟨next, hnext, found⟩ := Option.bind_eq_some_iff.mp found
      obtain ⟨v, hv, rfl⟩ := Option.map_eq_some_iff.mp hnext
      obtain ⟨d, rfl, rfl⟩ := Digit.exists_of_digitValue? hv
      obtain ⟨digits, rfl, hnumber⟩ := ih.mp found
      exact ⟨d :: digits, rfl, hnumber⟩
    · rintro ⟨digits, htext, hnumber⟩
      cases digits with
      | nil => simp at htext
      | cons d digits =>
        obtain ⟨rfl, rfl⟩ := List.cons.inj htext
        rw [Digit.digitValue?_char]
        exact ih.mpr ⟨digits, rfl, hnumber⟩

/-- Digits after a number stay below the next number with as many zeros. -/
theorem numberAfter_lt (start : Nat) (digits : List Digit) :
    numberAfter start digits < (start + 1) * 16 ^ digits.length := by
  induction digits generalizing start with
  | nil => simp [numberAfter]
  | cons d digits ih =>
    show numberAfter (16 * start + d.value) digits < _
    have hd := d.value.isLt
    calc numberAfter (16 * start + d.value) digits
        < (16 * start + d.value + 1) * 16 ^ digits.length := ih _
      _ ≤ ((start + 1) * 16) * 16 ^ digits.length := Nat.mul_le_mul_right _ (by omega)
      _ = (start + 1) * 16 ^ (d :: digits).length := by
        rw [List.length_cons, Nat.pow_succ, Nat.mul_assoc, Nat.mul_comm 16]

/-- A number of so many digits. -/
structure Digits (count : Nat) where
  digits : List Digit
  length_eq : digits.length = count

namespace Digits

variable {count : Nat}

def text (d : Digits count) : List Char :=
  d.digits.map Digit.char

def value (d : Digits count) : Nat :=
  numberAfter 0 d.digits

theorem length_text (d : Digits count) : d.text.length = count := by
  rw [text, List.length_map, d.length_eq]

/-- So many digits stand for numbers below that power of sixteen. -/
theorem value_lt (d : Digits count) : d.value < 16 ^ count := by
  have hlt := numberAfter_lt 0 d.digits
  rwa [d.length_eq, Nat.zero_add, Nat.one_mul] at hlt

end Digits

/-- **What is read of digits**: as many as are wanted, and nothing after them. -/
theorem hexadecimal?_eq_some_iff {count n : Nat} {text rest : List Char} :
    hexadecimal? count text = some (n, rest) ↔
      ∃ d : Digits count, text = d.text ++ rest ∧ d.value = n := by
  unfold hexadecimal?
  constructor
  · intro found
    split at found
    · rename_i hlength
      obtain ⟨v, hv, same⟩ := Option.map_eq_some_iff.mp found
      cases same
      -- every character that was taken is a digit
      obtain ⟨digits, htext, hnumber⟩ := foldlM_digitValue?_eq_some_iff.mp hv
      rw [htext, List.length_map] at hlength
      refine ⟨⟨digits, hlength⟩, ?_, hnumber⟩
      rw [Digits.text, ← htext, List.take_append_drop]
    · cases found
  · rintro ⟨d, rfl, rfl⟩
    have htake : (d.text ++ rest).take count = d.text := List.take_left' d.length_text
    have hdrop : (d.text ++ rest).drop count = rest := List.drop_left' d.length_text
    have hvalue : value? d.text = some d.value :=
      foldlM_digitValue?_eq_some_iff.mpr ⟨d.digits, rfl, rfl⟩
    rw [htake, hdrop, if_pos d.length_text, hvalue]
    rfl

/-! ## Spellings -/

/-- The first half of a surrogate pair. -/
def Digits.IsHigh (code : Digits 4) : Prop :=
  0xd800 ≤ code.value ∧ code.value < 0xdc00

/-- The second half of a surrogate pair. -/
def Digits.IsLow (code : Digits 4) : Prop :=
  0xdc00 ≤ code.value ∧ code.value < 0xe000

/-- The escapes of one letter, and what they stand for. -/
def letters : List (Char × Char) :=
  [('n', '\n'), ('t', '\t'), ('r', '\r'), ('"', '"'), ('\\', '\\'), ('/', '/')]

/-- A character as it is spelled in a literal. -/
inductive Spelling where
  | plain (c : Char) (noQuote : c ≠ '"') (noBackslash : c ≠ '\\')
  | letter (letter char : Char) (known : (letter, char) ∈ letters)
  | byte (digits : Digits 2)
  /-- A code that is no half of a surrogate pair. -/
  | code (digits : Digits 4) (whole : ¬ digits.IsHigh ∧ ¬ digits.IsLow)
  /-- A surrogate pair, written as two escapes. -/
  | pair (high low : Digits 4) (isHigh : high.IsHigh) (isLow : low.IsLow)

namespace Spelling

def text : Spelling → List Char
  | plain c _ _ => [c]
  | letter l _ _ => ['\\', l]
  | byte digits => '\\' :: 'x' :: digits.text
  | code digits _ => '\\' :: 'u' :: digits.text
  | pair high low _ _ => '\\' :: 'u' :: (high.text ++ '\\' :: 'u' :: low.text)

/-- Two digits are always a character. -/
theorem valid_byte (digits : Digits 2) : digits.value.isValidChar :=
  .inl (Nat.lt_trans digits.value_lt (by decide))

/-- Four digits are one unless they are half of a pair. -/
theorem valid_code {digits : Digits 4} (whole : ¬ digits.IsHigh ∧ ¬ digits.IsLow) :
    digits.value.isValidChar := by
  have hlt := digits.value_lt
  unfold Digits.IsHigh Digits.IsLow at whole
  unfold Nat.isValidChar
  omega

theorem valid_pair {high low : Digits 4} (isHigh : high.IsHigh) (isLow : low.IsLow) :
    (Json.surrogatePair high.value low.value).isValidChar := by
  unfold Digits.IsHigh at isHigh
  unfold Digits.IsLow at isLow
  unfold Nat.isValidChar Json.surrogatePair
  omega

/-- The character that is spelled. Every code of a spelling is that of a character. -/
def char : Spelling → Char
  | plain c _ _ => c
  | letter _ c _ => c
  | byte digits => Char.ofNatAux digits.value (valid_byte digits)
  | code digits whole => Char.ofNatAux digits.value (valid_code whole)
  | pair high low isHigh isLow =>
    Char.ofNatAux (Json.surrogatePair high.value low.value) (valid_pair isHigh isLow)

end Spelling

/-- A code is that of a character in one way. -/
theorem ofNat_of_valid {n : Nat} (valid : n.isValidChar) : Char.ofNat n = Char.ofNatAux n valid :=
  dif_pos valid

/-- The reader tells first halves as they are described. -/
theorem isHighSurrogate_iff {code : Digits 4} :
    Json.isHighSurrogate code.value = true ↔ code.IsHigh := by
  simp [Json.isHighSurrogate, Digits.IsHigh]

theorem isLowSurrogate_iff {code : Digits 4} :
    Json.isLowSurrogate code.value = true ↔ code.IsLow := by
  simp [Json.isLowSurrogate, Digits.IsLow]

/-- A letter with a meaning of its own stands for its character. -/
theorem escape_letters {l c : Char} (known : (l, c) ∈ letters) (rest : List Char) :
    escape (l :: rest) = .unit [c] rest := by
  simp only [letters, List.mem_cons, Prod.mk.injEq, List.not_mem_nil, or_false] at known
  rcases known with ⟨rfl, rfl⟩ | ⟨rfl, rfl⟩ | ⟨rfl, rfl⟩ | ⟨rfl, rfl⟩ | ⟨rfl, rfl⟩ | ⟨rfl, rfl⟩ <;> rfl

/-- The escape of four digits. -/
theorem escape_code (code : Digits 4) (rest : List Char) :
    escape ('u' :: (code.text ++ rest)) =
      .unit [(unicodeChar code.value rest).1] (unicodeChar code.value rest).2 := by
  have hdigits : hexadecimal? 4 (code.text ++ rest) = some (code.value, rest) :=
    hexadecimal?_eq_some_iff.mpr ⟨code, rfl, rfl⟩
  simp only [escape, hdigits]

/-- The second half of a pair is looked for right behind the first, and nowhere else. -/
theorem lowSurrogate?_eq_some_iff {text rest : List Char} {n : Nat} :
    lowSurrogate? text = some (n, rest) ↔
      ∃ low : Digits 4, low.IsLow ∧ text = '\\' :: 'u' :: (low.text ++ rest) ∧ low.value = n := by
  constructor
  · intro found
    unfold lowSurrogate? at found
    split at found
    · split at found
      -- the digits are there; they count only if they are a second half
      · rename_i n' rest' hdigits
        split at found
        · rename_i hlow
          cases found
          obtain ⟨low, rfl, rfl⟩ := hexadecimal?_eq_some_iff.mp hdigits
          exact ⟨low, isLowSurrogate_iff.mp hlow, rfl, rfl⟩
        · cases found
      · cases found
    · cases found
  · rintro ⟨low, isLow, rfl, rfl⟩
    have hdigits : hexadecimal? 4 (low.text ++ rest) = some (low.value, rest) :=
      hexadecimal?_eq_some_iff.mpr ⟨low, rfl, rfl⟩
    simp only [lowSurrogate?, hdigits, if_pos (isLowSurrogate_iff.mpr isLow)]

/-- **A spelling is read as its character**, whatever follows. -/
theorem step_spelling (spelling : Spelling) (rest : List Char) :
    step (spelling.text ++ rest) = .unit [spelling.char] rest := by
  cases spelling with
  | plain c noQuote noBackslash =>
    show step (c :: rest) = .unit [c] rest
    unfold step
    split <;> simp_all
  | letter l c known => exact escape_letters known rest
  | byte digits =>
    have hdigits : hexadecimal? 2 (digits.text ++ rest) = some (digits.value, rest) :=
      hexadecimal?_eq_some_iff.mpr ⟨digits, rfl, rfl⟩
    have hescape : escape ('x' :: (digits.text ++ rest)) = .unit [Char.ofNat digits.value] rest := by
      simp only [escape, hdigits]
    rwa [ofNat_of_valid (Spelling.valid_byte digits)] at hescape
  | code digits whole =>
    show escape ('u' :: (digits.text ++ rest)) = .unit [Char.ofNatAux _ _] rest
    rw [escape_code, unicodeChar, if_neg (mt isHighSurrogate_iff.mp whole.1),
      if_neg (mt isLowSurrogate_iff.mp whole.2), ofNat_of_valid (Spelling.valid_code whole)]
  | pair high low isHigh isLow =>
    have hlow : lowSurrogate? ('\\' :: 'u' :: (low.text ++ rest)) = some (low.value, rest) :=
      lowSurrogate?_eq_some_iff.mpr ⟨low, isLow, rfl, rfl⟩
    have hpair : unicodeChar high.value ('\\' :: 'u' :: (low.text ++ rest)) =
        (Char.ofNat (Json.surrogatePair high.value low.value), rest) := by
      rw [unicodeChar, if_pos (isHighSurrogate_iff.mpr isHigh)]
      simp only [hlow]
    -- of what follows the first half, only the second half is taken
    show escape ('u' :: ((high.text ++ '\\' :: 'u' :: low.text) ++ rest)) = _
    rw [List.append_assoc]
    show escape ('u' :: (high.text ++ '\\' :: 'u' :: (low.text ++ rest))) = _
    rw [escape_code, hpair, ofNat_of_valid (Spelling.valid_pair isHigh isLow)]
    rfl

/-! ## Units -/

/-- What an escape looks like behind its backslash. -/
inductive Escapes : List Char → Prop where
  | letter {l c : Char} (known : (l, c) ∈ letters) (rest : List Char) : Escapes (l :: rest)
  | byte (digits : Digits 2) (rest : List Char) : Escapes ('x' :: (digits.text ++ rest))
  | code (digits : Digits 4) (rest : List Char) : Escapes ('u' :: (digits.text ++ rest))

/-- One unit of a literal: the text it is taken from, what it stands for, and the text after it. -/
inductive Takes : List Char → List Char → List Char → Prop where
  | spelling (spelling : Spelling) (rest : List Char) :
    Takes (spelling.text ++ rest) [spelling.char] rest
  /-- The first half of a pair alone takes nothing of what follows. -/
  | high (code : Digits 4) (isHigh : code.IsHigh) (rest : List Char)
    (alone : ∀ low : Digits 4, low.IsLow → ¬ '\\' :: 'u' :: low.text <+: rest) :
    Takes ('\\' :: 'u' :: (code.text ++ rest)) [replacement] rest
  | low (code : Digits 4) (isLow : code.IsLow) (rest : List Char) :
    Takes ('\\' :: 'u' :: (code.text ++ rest)) [replacement] rest
  /-- A backslash that starts no escape stands as it is written. -/
  | kept (c : Char) (rest : List Char) (noEscape : ¬ Escapes (c :: rest)) :
    Takes ('\\' :: c :: rest) ['\\', c] rest

/-- What is no escape is kept, its backslash included. -/
theorem escape_kept {c : Char} {rest : List Char} (noEscape : ¬ Escapes (c :: rest)) :
    escape (c :: rest) = .unit ['\\', c] rest := by
  have noLetter (l char : Char) (known : (l, char) ∈ letters) : c ≠ l := by
    rintro rfl
    exact noEscape (.letter known rest)
  unfold escape
  -- one case for each row: the letters are excluded, and so are digits behind `x` and `u`
  split
  case h_1 same => cases same
  case h_8 same =>
    obtain ⟨rfl, rfl⟩ := List.cons.inj same
    split
    · rename_i found
      obtain ⟨digits, rfl, -⟩ := hexadecimal?_eq_some_iff.mp found
      exact absurd (.byte digits _) noEscape
    · rfl
  case h_9 same =>
    obtain ⟨rfl, rfl⟩ := List.cons.inj same
    split
    · rename_i found
      obtain ⟨digits, rfl, -⟩ := hexadecimal?_eq_some_iff.mp found
      exact absurd (.code digits _) noEscape
    · rfl
  case h_10 same =>
    obtain ⟨rfl, rfl⟩ := List.cons.inj same
    rfl
  case h_2 same => exact absurd (List.cons.inj same).1 (noLetter 'n' '\n' (by decide))
  case h_3 same => exact absurd (List.cons.inj same).1 (noLetter 't' '\t' (by decide))
  case h_4 same => exact absurd (List.cons.inj same).1 (noLetter 'r' '\r' (by decide))
  case h_5 same => exact absurd (List.cons.inj same).1 (noLetter '"' '"' (by decide))
  case h_6 same => exact absurd (List.cons.inj same).1 (noLetter '\\' '\\' (by decide))
  case h_7 same => exact absurd (List.cons.inj same).1 (noLetter '/' '/' (by decide))

/-- The reader takes what it is said to take. -/
theorem step_takes {source chars rest : List Char} (takes : Takes source chars rest) :
    step source = .unit chars rest := by
  cases takes with
  | spelling spelling => exact step_spelling spelling rest
  | high code isHigh _ alone =>
    -- what follows a lone first half is no second half
    have noLow : lowSurrogate? rest = none := by
      refine Option.eq_none_iff_forall_ne_some.mpr fun ⟨n, after⟩ found => ?_
      obtain ⟨low, isLow, rfl, -⟩ := lowSurrogate?_eq_some_iff.mp found
      exact alone low isLow ⟨after, by simp⟩
    show escape ('u' :: (code.text ++ rest)) = _
    rw [escape_code, unicodeChar, if_pos (isHighSurrogate_iff.mpr isHigh)]
    simp only [noLow]
  | low code isLow =>
    -- a second half is no first half, so it is not looked for another one
    have noHigh : ¬ code.IsHigh := fun isHigh => Nat.not_lt.mpr isLow.1 isHigh.2
    show escape ('u' :: (code.text ++ rest)) = _
    rw [escape_code, unicodeChar, if_neg (mt isHighSurrogate_iff.mp noHigh),
      if_pos (isLowSurrogate_iff.mpr isLow)]
  | kept c _ noEscape => exact escape_kept noEscape

/-- The escape of four digits is a code, a pair, or half a pair. -/
theorem exists_takes_code (code : Digits 4) (rest : List Char) :
    ∃ chars after, Takes ('\\' :: 'u' :: (code.text ++ rest)) chars after := by
  by_cases isHigh : code.IsHigh
  · -- whether it is half a pair is decided by what follows
    by_cases paired : ∃ low : Digits 4, low.IsLow ∧ '\\' :: 'u' :: low.text <+: rest
    · obtain ⟨low, isLow, after, rfl⟩ := paired
      have takes := Takes.spelling (.pair code low isHigh isLow) after
      rw [Spelling.text, List.cons_append, List.cons_append, List.append_assoc] at takes
      exact ⟨_, _, takes⟩
    · exact ⟨_, _, .high code isHigh rest fun low isLow next => paired ⟨low, isLow, next⟩⟩
  · by_cases isLow : code.IsLow
    · exact ⟨_, _, .low code isLow rest⟩
    · exact ⟨_, _, .spelling (.code code ⟨isHigh, isLow⟩) rest⟩

/-- A text that does not start with a quote starts with a unit, except for a backslash at its end. -/
theorem exists_takes {c : Char} {rest : List Char} (noQuote : c ≠ '"') (noEnd : c = '\\' → rest ≠ []) :
    ∃ chars after, Takes (c :: rest) chars after := by
  by_cases backslash : c = '\\'
  · subst backslash
    obtain ⟨d, rest, rfl⟩ := List.exists_cons_of_ne_nil (noEnd rfl)
    by_cases escapes : Escapes (d :: rest)
    · cases escapes with
      | letter known => exact ⟨_, _, .spelling (.letter d _ known) rest⟩
      | byte digits rest => exact ⟨_, _, .spelling (.byte digits) rest⟩
      | code digits rest => exact exists_takes_code digits rest
    · exact ⟨_, _, .kept d rest escapes⟩
  · exact ⟨_, _, .spelling (.plain c noQuote backslash) rest⟩

/-- **The units of literals** are the spellings, the halves of pairs, and the backslashes that start
no escape. -/
theorem step_eq_unit_iff {source chars rest : List Char} :
    step source = .unit chars rest ↔ Takes source chars rest := by
  constructor
  · intro found
    -- some unit stands there, and the reader takes it: there is no other
    obtain ⟨chars', rest', takes⟩ : ∃ chars' rest', Takes source chars' rest' := by
      cases source with
      | nil => cases found
      | cons c text =>
        refine exists_takes ?_ ?_
        · rintro rfl
          cases found
        · rintro rfl rfl
          cases found
    cases (step_takes takes).symm.trans found
    exact takes
  · exact step_takes

/-- A literal without an end goes on with nothing, or with a backslash alone. -/
theorem eq_of_step_ended {source : List Char} (ended : step source = .ended) :
    source = [] ∨ source = ['\\'] := by
  cases source with
  | nil => exact .inl rfl
  | cons c rest =>
    refine .inr (Classical.byContradiction fun more => ?_)
    obtain ⟨chars, after, takes⟩ : ∃ chars after, Takes (c :: rest) chars after := by
      refine exists_takes ?_ ?_
      · rintro rfl
        cases ended
      · rintro rfl rfl
        exact more rfl
    cases (step_takes takes).symm.trans ended

/-! ## Literals -/

/-- A literal behind its opening quote, unit by unit up to its closing quote. -/
inductive Reads : List Char → List Char → List Char → Prop where
  | closed (rest : List Char) : Reads ('"' :: rest) [] rest
  | unit {source chars after more rest : List Char} (takes : Takes source chars after)
    (reads : Reads after more rest) : Reads source (chars ++ more) rest

theorem read?_eq_some_iff {source chars rest : List Char} :
    read? source = some (chars, rest) ↔ Reads source chars rest := by
  constructor
  · intro found
    fun_induction read? source generalizing chars with
    | case1 source after closed =>
      cases found
      rw [eq_quote_of_step_closed closed]
      exact .closed rest
    | case2 source unit after hstep _ ih =>
      obtain ⟨⟨more, last⟩, hread, same⟩ := Option.map_eq_some_iff.mp found
      cases same
      exact .unit (step_eq_unit_iff.mp hstep) (ih hread)
    | case3 => cases found
  · intro reads
    induction reads with
    | closed rest => exact read?_of_closed rfl
    | unit takes _ ih => rw [read?_of_unit (step_takes takes), ih, Option.map_some]

/-- Spellings in a row are read one by one up to the quote. -/
theorem reads_spellings (spellings : List Spelling) (rest : List Char) :
    Reads (spellings.flatMap Spelling.text ++ '"' :: rest) (spellings.map Spelling.char) rest := by
  induction spellings with
  | nil => exact .closed rest
  | cons spelling spellings ih =>
    rw [List.flatMap_cons, List.append_assoc]
    exact .unit (.spelling spelling _) ih

/-! ## The law of literals -/

/-- What an escape starts is spelled, or half a pair. -/
theorem exists_of_escapes {text : List Char} (escapes : Escapes text) :
    (∃ spelling : Spelling, spelling.text <+: '\\' :: text) ∨
      ∃ half : Digits 4, (half.IsHigh ∨ half.IsLow) ∧ 'u' :: half.text <+: text := by
  cases escapes with
  | letter known rest => exact .inl ⟨.letter _ _ known, rest, rfl⟩
  | byte digits rest => exact .inl ⟨.byte digits, rest, rfl⟩
  | code digits rest =>
    by_cases isHalf : digits.IsHigh ∨ digits.IsLow
    · exact .inr ⟨digits, isHalf, rest, rfl⟩
    · exact .inl ⟨.code digits (not_or.mp isHalf), rest, rfl⟩

/-- The scalar value of a pair is beyond the first plane, and its halves encode it. -/
theorem toNat_pair {high low : Digits 4} (isHigh : high.IsHigh) (isLow : low.IsLow) :
    let n := (Spelling.pair high low isHigh isLow).char.toNat
    (0x10000 ≤ n ∧ n ≤ 0x10ffff) ∧
      high.value = 0xd800 + (n - 0x10000) / 0x400 ∧ low.value = 0xdc00 + (n - 0x10000) % 0x400 := by
  show let n := 0x10000 + (high.value - 0xd800) * 0x400 + (low.value - 0xdc00)
    (0x10000 ≤ n ∧ n ≤ 0x10ffff) ∧
      high.value = 0xd800 + (n - 0x10000) / 0x400 ∧ low.value = 0xdc00 + (n - 0x10000) % 0x400
  unfold Digits.IsHigh at isHigh
  unfold Digits.IsLow at isLow
  omega

/-- **Literals are read unit by unit**, and no unit depends on its neighbours.

* Spellings are read as their characters, up to the closing quote and no further.
* The character of an escape has the number that its digits stand for, and that of a surrogate pair is
  the one that the pair encodes: nothing is replaced.
* A backslash in front of anything else is kept, unless half a pair stands behind it.
* There are no other literals. -/
theorem read?_spellings :
    (∀ (spellings : List Spelling) (rest : List Char),
      read? (spellings.flatMap Spelling.text ++ '"' :: rest) =
        some (spellings.map Spelling.char, rest)) ∧
    (∀ digits, (Spelling.byte digits).char.toNat = digits.value) ∧
    (∀ digits whole, (Spelling.code digits whole).char.toNat = digits.value) ∧
    (∀ (high low : Digits 4) (isHigh : high.IsHigh) (isLow : low.IsLow),
      let n := (Spelling.pair high low isHigh isLow).char.toNat
      (0x10000 ≤ n ∧ n ≤ 0x10ffff) ∧
        high.value = 0xd800 + (n - 0x10000) / 0x400 ∧
        low.value = 0xdc00 + (n - 0x10000) % 0x400) ∧
    (∀ (c : Char) (rest : List Char),
      (∀ spelling : Spelling, ¬ spelling.text <+: '\\' :: c :: rest) →
      (∀ half : Digits 4, half.IsHigh ∨ half.IsLow → ¬ 'u' :: half.text <+: c :: rest) →
      read? ('\\' :: c :: rest) = (read? rest).map fun (more, after) => (['\\', c] ++ more, after)) ∧
    ∀ source chars rest, read? source = some (chars, rest) ↔ Reads source chars rest := by
  refine ⟨?_, fun _ => rfl, fun _ _ => rfl, fun _ _ => toNat_pair, ?_, fun _ _ _ => read?_eq_some_iff⟩
  · intro spellings rest
    exact read?_eq_some_iff.mpr (reads_spellings spellings rest)
  · intro c rest noSpelling noHalf
    refine read?_of_unit (step_takes (.kept c rest fun escapes => ?_))
    -- an escape is one of the spellings or half of a pair
    rcases exists_of_escapes escapes with ⟨spelling, spelled⟩ | ⟨half, isHalf, next⟩
    · exact noSpelling spelling spelled
    · exact noHalf half isHalf next

end BrowserAct.Program.Literal
