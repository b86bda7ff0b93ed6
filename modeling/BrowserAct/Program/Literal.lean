import BrowserAct.Program.ParseError
import BrowserAct.Json.Reader

/-!
# Quoted texts in programs

A literal stands between double quotes. A backslash starts an escape: a letter for a control
character, `x` and two hexadecimal digits, or `u` and four, where two escapes may join to one
character beyond the first plane. A backslash that starts none of these stands for itself.

* **`step`** takes one unit off the front of a literal.
* **`read?`** reads up to the closing quote.
* **`quote`** writes a text so that it reads back, escaping only the quote and the backslash.
-/

namespace BrowserAct.Program.Literal

/-- The value of exactly `count` hexadecimal digits at the start of a text, and the text after them. -/
def hexadecimal? (count : Nat) (text : List Char) : Option (Nat × List Char) :=
  if (text.take count).length = count then
    (Text.Hexadecimal.value? (text.take count)).map fun value => (value, text.drop count)
  else none

/-- The replacement character, which stands for half a surrogate pair. -/
def replacement : Char := Char.ofNat 0xfffd

/-- The second half of a surrogate pair, written as an escape of its own. -/
def lowSurrogate? : List Char → Option (Nat × List Char)
  | '\\' :: 'u' :: text =>
    match hexadecimal? 4 text with
    | some (low, rest) => if Json.isLowSurrogate low then some (low, rest) else none
    | none => none
  | _ => none

/-- The character of a code unit: the first half of a pair takes the second half from the text after
it, and half a pair alone is replaced. -/
def unicodeChar (unit : Nat) (text : List Char) : Char × List Char :=
  if Json.isHighSurrogate unit then
    match lowSurrogate? text with
    | some (low, rest) => (Char.ofNat (Json.surrogatePair unit low), rest)
    | none => (replacement, text)
  else if Json.isLowSurrogate unit then (replacement, text)
  else (Char.ofNat unit, text)

/-- What the start of a literal is: its closing quote, or a unit that stands for some characters, with
the text after it, or nothing more. -/
inductive Step where
  | closed (rest : List Char)
  | unit (chars : List Char) (rest : List Char)
  | ended
deriving DecidableEq

def escape : List Char → Step
  | [] => .ended
  | 'n' :: rest => .unit ['\n'] rest
  | 't' :: rest => .unit ['\t'] rest
  | 'r' :: rest => .unit ['\r'] rest
  | '"' :: rest => .unit ['"'] rest
  | '\\' :: rest => .unit ['\\'] rest
  | '/' :: rest => .unit ['/'] rest
  | 'x' :: rest =>
    match hexadecimal? 2 rest with
    | some (code, after) => .unit [Char.ofNat code] after
    | none => .unit ['\\', 'x'] rest
  | 'u' :: rest =>
    match hexadecimal? 4 rest with
    | some (code, after) => .unit [(unicodeChar code after).1] (unicodeChar code after).2
    | none => .unit ['\\', 'u'] rest
  | c :: rest => .unit ['\\', c] rest

def step : List Char → Step
  | [] => .ended
  | '"' :: rest => .closed rest
  | '\\' :: rest => escape rest
  | c :: rest => .unit [c] rest

/-! ## Each unit takes at least one character -/

theorem hexadecimal?_length {count value : Nat} {text rest : List Char}
    (h : hexadecimal? count text = some (value, rest)) : rest.length ≤ text.length := by
  unfold hexadecimal? at h
  split at h
  · obtain ⟨_, _, h⟩ := Option.map_eq_some_iff.1 h
    injection h with _ h
    rw [← h, List.length_drop]
    omega
  · simp at h

theorem unicodeChar_length (unit : Nat) (text : List Char) :
    (unicodeChar unit text).2.length ≤ text.length := by
  unfold unicodeChar
  split
  · split
    · rename_i h
      unfold lowSurrogate? at h
      split at h
      · split at h
        · rename_i h'
          split at h
          · have := hexadecimal?_length h'
            injection h with h
            injection h with _ h
            subst h
            simp only [List.length_cons]
            omega
          · simp at h
        · simp at h
      · simp at h
    · simp
  · split <;> simp

theorem escape_length {text chars rest : List Char} (h : escape text = .unit chars rest) :
    rest.length < text.length := by
  unfold escape at h
  split at h
  case h_8 =>
    split at h
    · rename_i h'
      have := hexadecimal?_length h'
      injection h with _ h
      subst h
      simp only [List.length_cons]
      omega
    · injection h with _ h
      subst h
      simp
  case h_9 =>
    split at h
    · rename_i code after h'
      have := hexadecimal?_length h'
      have := unicodeChar_length code after
      simp only [Step.unit.injEq] at h
      rw [← h.2, List.length_cons]
      omega
    · injection h with _ h
      subst h
      simp
  case h_1 => simp at h
  all_goals
    injection h with _ h
    subst h
    simp

theorem escape_ne_closed (text rest : List Char) : escape text ≠ .closed rest := by
  unfold escape
  split <;> (try split) <;> simp

theorem step_length {text chars rest : List Char} (h : step text = .unit chars rest) :
    rest.length < text.length := by
  unfold step at h
  split at h
  · simp at h
  · simp at h
  · have := escape_length h
    simp only [List.length_cons]
    omega
  · injection h with _ h
    subst h
    simp

/-! ## Whole literals -/

/-- The text of a literal after its opening quote, and what stands after its closing quote. -/
def read? (text : List Char) : Option (List Char × List Char) :=
  match h : step text with
  | .closed rest => some ([], rest)
  | .unit chars rest =>
    have := step_length h
    (read? rest).map fun (more, after) => (chars ++ more, after)
  | .ended => none
termination_by text.length

theorem read?_length {text chars rest : List Char} (h : read? text = some (chars, rest)) :
    rest.length < text.length := by
  fun_induction read? text generalizing chars with
  | case1 text after hs =>
    injection h with h
    injection h with _ h
    subst h
    unfold step at hs
    split at hs
    · simp at hs
    · injection hs with hs
      subst hs
      simp
    · exact absurd hs (escape_ne_closed _ _)
    · simp at hs
  | case2 text unit after hs hl ih =>
    obtain ⟨⟨more, last⟩, hr, h⟩ := Option.map_eq_some_iff.1 h
    injection h with _ h
    subst h
    have := ih hr
    omega
  | case3 => simp at h

/-- Every literal in a text, in order; what stands between literals does not count. -/
def all (text : List Char) : Except ParseError (List String) :=
  go text text
where
  /-- The literals of the rest of a text; the whole text is named where a literal has no end. -/
  go (whole : List Char) (text : List Char) : Except ParseError (List String) :=
    match text with
    | [] => .ok []
    | '"' :: rest =>
      match h : read? rest with
      | none => .error (.unterminatedString (String.ofList whole))
      | some (chars, after) =>
        have := read?_length h
        (go whole after).map (String.ofList chars :: ·)
    | _ :: rest => go whole rest
  termination_by text.length

def quoteChar (c : Char) : List Char :=
  if c = '"' ∨ c = '\\' then ['\\', c] else [c]

def quote (s : String) : List Char :=
  '"' :: s.toList.flatMap quoteChar ++ ['"']

end BrowserAct.Program.Literal
