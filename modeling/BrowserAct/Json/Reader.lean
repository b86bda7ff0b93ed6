import BrowserAct.Decimal.Reader
import BrowserAct.Json.Basic
import BrowserAct.Text.Hexadecimal

/-!
# Reading JSON

A text is first cut into tokens and then read by a machine with a stack of open arrays and objects.
The machine takes one token at a time (`Reader.step`), so reading is a fold over the tokens and
ends with the text.

* **`lex`** cuts a text into tokens; blanks are space, tab, line feed and carriage return.
* **`Reader.step`** enters one token; it refuses to open more than `limit` levels.
* **`parse?`** reads a whole text.
-/

namespace BrowserAct.Json

open Decimal (isDigit digitsValue)

/-- A token of a JSON text; a scalar is already a value. -/
inductive Token where
  | openArray
  | closeArray
  | openObject
  | closeObject
  | comma
  | colon
  | text (s : String)
  | scalar (value : Json)

/-! ## Numbers -/

/-- Digits gathered into 64 bits: the first digit that does not fit, and all digits after it, are
left out and counted. -/
structure Gathered where
  significand : Nat
  dropped : Nat
  taken : Nat

namespace Gathered

def push (g : Gathered) (c : Char) : Gathered :=
  let next := 10 * g.significand + digitsValue [c]
  if g.dropped = 0 ∧ next < 0x1_0000_0000_0000_0000 then ⟨next, 0, g.taken + 1⟩
  else { g with dropped := g.dropped + 1 }

def ofDigits (start : Nat) (digits : List Char) : Gathered :=
  digits.foldl push ⟨start, 0, 0⟩

end Gathered

/-- A positive number divided by a power of ten in steps of at most `10 ^ 308`, each rounded. -/
def divideByPowerOfTen (x : Decimal.Binary64) (power : Nat) : Decimal.Binary64 :=
  if power ≤ 308 then x.div (.ofDecimal false 1 power)
  else if x.isZero then x
  else divideByPowerOfTen (x.div (.ofDecimal false 1 308)) (power - 308)
termination_by power

/-- A significand scaled by a power of ten: the significand is rounded, then the product or quotient.
A number too large is refused. -/
def scaleSignificand? (significand : Nat) (power : Int) : Option Decimal.Binary64 :=
  let x := Decimal.Binary64.ofRatio false significand 1
  if power < 0 then some (divideByPowerOfTen x power.natAbs)
  else if x.isZero then some x
  else if 308 < power then none
  else
    let y := x.mul (.ofDecimal false 1 power)
    if y.isInfinite then none else some y

/-- The value of a number from its parts; `fraction` and `exponent` are absent where the text has no
point and no exponent. Whole numbers of 64 bits stay integers, except the negative zero. -/
def numberValue? (negative : Bool) (whole : List Char) (fraction : Option (List Char))
    (exponent : Option Int) : Option Json :=
  let head := Gathered.ofDigits 0 whole
  let signed := fun (x : Decimal.Binary64) => Json.float (if negative then x.negate else x)
  match fraction, exponent with
  | none, none =>
    if 0 < head.dropped then (scaleSignificand? head.significand head.dropped).map signed
    else if !negative then some (.integer head.significand)
    else if head.significand = 0 ∨ 0x8000_0000_0000_0000 < head.significand then
      some (signed (.ofRatio false head.significand 1))
    else some (.integer (-(head.significand : Int)))
  | _, _ =>
    let tail := Gathered.ofDigits head.significand (fraction.getD [])
    let power : Int := head.dropped - tail.taken + exponent.getD 0
    (scaleSignificand? tail.significand power).map signed

/-- The optional fraction of a number: a point and at least one digit. -/
def lexFraction? : List Char → Option (Option (List Char) × List Char)
  | '.' :: rest =>
    let digits := rest.takeWhile isDigit
    if digits.isEmpty then none else some (some digits, rest.dropWhile isDigit)
  | text => some (none, text)

/-- The optional exponent of a number: a letter, a sign or none, and at least one digit. -/
def lexExponent? : List Char → Option (Option Int × List Char)
  | c :: rest =>
    if c = 'e' ∨ c = 'E' then
      let (negative, body) : Bool × List Char := match rest with
        | '+' :: r => (false, r)
        | '-' :: r => (true, r)
        | r => (false, r)
      let digits := body.takeWhile isDigit
      if digits.isEmpty then none
      else
        let value : Int := digitsValue digits
        some (some (if negative then -value else value), body.dropWhile isDigit)
    else some (none, c :: rest)
  | [] => some (none, [])

/-- The digits before the point: a zero alone, or a run that starts with another digit. -/
def lexWhole? : List Char → Option (List Char × List Char)
  | '0' :: rest => some (['0'], rest)
  | c :: rest =>
    if isDigit c then some (c :: rest.takeWhile isDigit, rest.dropWhile isDigit) else none
  | [] => none

/-- A number at the start of a text, and the text after it. -/
def lexNumber? (text : List Char) : Option (Json × List Char) := do
  let (negative, unsigned) : Bool × List Char := match text with
    | '-' :: r => (true, r)
    | r => (false, r)
  let (whole, afterWhole) ← lexWhole? unsigned
  let (fraction, afterFraction) ← lexFraction? afterWhole
  let (exponent, rest) ← lexExponent? afterFraction
  let value ← numberValue? negative whole fraction exponent
  return (value, rest)

/-! ## Texts -/

def isHighSurrogate (unit : Nat) : Bool :=
  decide (0xd800 ≤ unit) && decide (unit < 0xdc00)

def isLowSurrogate (unit : Nat) : Bool :=
  decide (0xdc00 ≤ unit) && decide (unit < 0xe000)

def surrogatePair (high low : Nat) : Nat :=
  0x10000 + (high - 0xd800) * 0x400 + (low - 0xdc00)

def simpleEscape? (c : Char) : Option Char :=
  match c with
  | '"' => some '"'
  | '\\' => some '\\'
  | '/' => some '/'
  | 'b' => some (Char.ofNat 8)
  | 'f' => some (Char.ofNat 12)
  | 'n' => some '\n'
  | 'r' => some '\r'
  | 't' => some '\t'
  | _ => none

/-- What the start of a quoted text is: its end, or one character, with the text after it. A lone
surrogate, a bare control character and an unknown escape are refused. -/
inductive TextStep where
  | finished (rest : List Char)
  | char (c : Char) (rest : List Char)
  | refused

def textStep : List Char → TextStep
  | '"' :: rest => .finished rest
  | '\\' :: 'u' :: a :: b :: c :: d :: rest =>
    match Text.Hexadecimal.value? [a, b, c, d] with
    | none => .refused
    | some unit =>
      if isLowSurrogate unit then .refused
      else if isHighSurrogate unit then
        match rest with
        | '\\' :: 'u' :: e :: f :: g :: h :: rest' =>
          match Text.Hexadecimal.value? [e, f, g, h] with
          | none => .refused
          | some low =>
            if isLowSurrogate low then .char (Char.ofNat (surrogatePair unit low)) rest'
            else .refused
        | _ => .refused
      else .char (Char.ofNat unit) rest
  | '\\' :: c :: rest =>
    match simpleEscape? c with
    | some plain => .char plain rest
    | none => .refused
  | c :: rest => if c.toNat < 32 ∨ c = '\\' then .refused else .char c rest
  | [] => .refused

/-- Each step into a quoted text takes at least one character. -/
theorem textStep_length {text rest : List Char} {c : Char} (h : textStep text = .char c rest) :
    rest.length < text.length := by
  unfold textStep at h
  split at h
  · simp at h
  · split at h
    · simp at h
    · split at h
      · simp at h
      · split at h
        · split at h
          · split at h
            · simp at h
            · split at h
              · injection h with _ h; subst h; simp only [List.length_cons]; omega
              · simp at h
          · simp at h
        · injection h with _ h; subst h; simp only [List.length_cons]; omega
  · split at h
    · injection h with _ h; subst h; simp only [List.length_cons]; omega
    · simp at h
  · split at h
    · simp at h
    · injection h with _ h; subst h; simp
  · simp at h

/-- The characters of a quoted text after its opening quote, and the text after its closing quote. -/
def lexText? (text : List Char) : Option (List Char × List Char) :=
  match h : textStep text with
  | .finished rest => some ([], rest)
  | .char c rest =>
    have := textStep_length h
    (lexText? rest).map fun (chars, after) => (c :: chars, after)
  | .refused => none
termination_by text.length

/-! ## Tokens -/

def isSpace (c : Char) : Bool :=
  c == ' ' || c == '\t' || c == '\n' || c == '\r'

/-- One token at the start of a text that does not start with a blank. -/
def lexToken? (text : List Char) : Option (Token × List Char) :=
  match text with
  | '[' :: rest => some (.openArray, rest)
  | ']' :: rest => some (.closeArray, rest)
  | '\x7b' :: rest => some (.openObject, rest)
  | '\x7d' :: rest => some (.closeObject, rest)
  | ',' :: rest => some (.comma, rest)
  | ':' :: rest => some (.colon, rest)
  | 'n' :: 'u' :: 'l' :: 'l' :: rest => some (.scalar .null, rest)
  | 't' :: 'r' :: 'u' :: 'e' :: rest => some (.scalar (.bool true), rest)
  | 'f' :: 'a' :: 'l' :: 's' :: 'e' :: rest => some (.scalar (.bool false), rest)
  | '"' :: rest => (lexText? rest).map fun (chars, after) => (.text (String.ofList chars), after)
  | _ => (lexNumber? text).map fun (value, after) => (.scalar value, after)

/-- The tokens of a text. Every token takes at least one character, so as many rounds as the text has
characters are enough. -/
def lexRounds : Nat → List Char → Option (List Token)
  | 0, text => if text.isEmpty then some [] else none
  | rounds + 1, text =>
    match text.dropWhile isSpace with
    | [] => some []
    | start => do
      let (token, rest) ← lexToken? start
      let tokens ← lexRounds rounds rest
      return token :: tokens

def lex (text : List Char) : Option (List Token) :=
  lexRounds text.length text

/-! ## The machine -/

/-- An array or object that is still open, with what stands before the value being read. -/
inductive Frame where
  | items (before : List Json)
  | fields (before : Fields) (key : String)

/-- What the machine waits for. -/
inductive Reader where
  /-- A value must follow. -/
  | value (frames : List Frame)
  /-- An array was opened: its first item or its end follows. -/
  | firstItem (frames : List Frame)
  /-- An object was opened: its first key or its end follows. -/
  | firstKey (frames : List Frame)
  /-- A comma was read in an object: a key must follow. -/
  | nextKey (before : Fields) (frames : List Frame)
  /-- A key was read: a colon must follow. -/
  | colon (before : Fields) (key : String) (frames : List Frame)
  /-- A value is complete. -/
  | complete (value : Json) (frames : List Frame)

namespace Reader

def startValue? (limit : Nat) (frames : List Frame) : Token → Option Reader
  | .scalar v => some (.complete v frames)
  | .text s => some (.complete (.string s) frames)
  | .openArray => if frames.length < limit then some (.firstItem frames) else none
  | .openObject => if frames.length < limit then some (.firstKey frames) else none
  | _ => none

def step (limit : Nat) : Reader → Token → Option Reader
  | .value frames, token => startValue? limit frames token
  | .firstItem frames, .closeArray => some (.complete (.array []) frames)
  | .firstItem frames, token => startValue? limit (.items [] :: frames) token
  | .firstKey frames, .closeObject => some (.complete (.object []) frames)
  | .firstKey frames, .text key => some (.colon [] key frames)
  | .nextKey before frames, .text key => some (.colon before key frames)
  | .colon before key frames, .colon => some (.value (.fields before key :: frames))
  | .complete v (.items before :: frames), .comma => some (.value (.items (v :: before) :: frames))
  | .complete v (.items before :: frames), .closeArray =>
    some (.complete (.array (v :: before).reverse) frames)
  | .complete v (.fields before key :: frames), .comma => some (.nextKey (before.insert key v) frames)
  | .complete v (.fields before key :: frames), .closeObject =>
    some (.complete (.object (before.insert key v)) frames)
  | _, _ => none

/-- The value of a machine that has read a whole text. -/
def result? : Reader → Option Json
  | .complete v [] => some v
  | _ => none

end Reader

/-- The deepest nesting of arrays and objects that is read. -/
def nestingLimit : Nat := 127

/-- The value of a text whose arrays and objects are nested at most `limit` deep. -/
def parseWithin? (limit : Nat) (text : List Char) : Option Json := do
  let tokens ← lex text
  let final ← tokens.foldlM (Reader.step limit) (.value [])
  final.result?

def parse? (text : String) : Option Json :=
  parseWithin? nestingLimit text.toList

end BrowserAct.Json
