import BrowserAct.Text.Hexadecimal
import BrowserAct.Yaml.Cursor

/-!
# Scalars

The text of a scalar is written plain, between quotes, or as a block of lines. Where it goes on over
several lines, a single break between two of them counts as a space.

* **`Gap.text`** is what the space between two words of a scalar counts as.
* **`lexPlain?`**, **`lexQuoted?`** and **`lexBlock?`** read a scalar of each kind.
-/

namespace BrowserAct.Yaml

/-! ## Gaps -/

/-- The space between two words. -/
structure Gap where
  /-- The blanks before the first break. -/
  blanks : List Char
  /-- The first break, if there is one; none where the first was escaped. -/
  first : Option Char
  /-- The further breaks. -/
  more : List Char
  /-- Whether a line has ended. -/
  broken : Bool

namespace Gap

def none : Gap :=
  ⟨[], .none, [], false⟩

def escaped : Gap :=
  ⟨[], .none, [], true⟩

/-- What a gap counts as: the blanks of a line, else its breaks less one, else a space. -/
def text (g : Gap) : List Char :=
  if !g.broken then g.blanks
  else
    match g.first, g.more with
    | some '\n', [] => [' ']
    | some '\n', more => more
    | first, more => first.toList ++ more

/-- A gap with a further blank; only those before the first break count. -/
def addBlank (g : Gap) (c : Char) : Gap :=
  if g.broken then g else { g with blanks := g.blanks ++ [c] }

def addBreak (g : Gap) (c : Char) : Gap :=
  if g.broken then { g with more := g.more ++ [c] } else ⟨[], some c, [], true⟩

end Gap

/-- Reads a gap. A tab may not stand for indentation before a given column. -/
def lexGap? (column : Nat) : Nat → Gap → Cursor → Option (Gap × Cursor)
  | 0, g, c => some (g, c)
  | fuel + 1, g, c =>
    match c.lineBreak? with
    | some (x, next) => lexGap? column fuel (g.addBreak x) next
    | none =>
      match c.head? with
      | some x =>
        if !isBlank x then some (g, c)
        else if g.broken && c.column < column && x == '\t' then none
        else lexGap? column fuel (g.addBlank x) c.skip
      | none => some (g, c)

/-! ## Plain scalars -/

/-- The characters that end a plain scalar inside brackets. -/
def isFlowMark (c : Char) : Bool :=
  [',', '[', ']', '\x7b', '\x7d'].contains c

def lexWord? (inFlow : Bool) : Nat → List Char → Cursor → Option (List Char × Cursor)
  | 0, word, c => some (word.reverse, c)
  | fuel + 1, word, c =>
    match c.head? with
    | none => some (word.reverse, c)
    | some x =>
      if isBlank x || isBreak x then some (word.reverse, c)
      else if inFlow && x == ':' && (c.ahead? 1).any (fun y => isFlowMark y || y == '?') then none
      else if (x == ':' && c.isGapAhead 1) || (inFlow && isFlowMark x) then some (word.reverse, c)
      else lexWord? inFlow fuel (x :: word) c.skip

/-- Reads words of a plain scalar as long as they are indented enough: the text, whether a line
ended after it, and the place after it. -/
def lexWords? (inFlow : Bool) (column : Nat) :
    Nat → List Char → Gap → Cursor → Option (List Char × Bool × Cursor)
  | 0, text, g, c => some (text, g.broken, c)
  | fuel + 1, text, g, c =>
    if c.isAtDocumentMark || c.isAt '#' then some (text, g.broken, c)
    else do
      let (word, c) ← lexWord? inFlow c.rest.length [] c
      if word.isEmpty then return (text, g.broken, c)
      let text := text ++ g.text ++ word
      if !c.isAtSpace then return (text, false, c)
      let (g, c) ← lexGap? column c.rest.length .none c
      if !inFlow && c.column < column then return (text, g.broken, c)
      lexWords? inFlow column fuel text g c

def lexPlain? (inFlow : Bool) (column : Nat) (c : Cursor) :
    Option (List Char × Bool × Cursor) :=
  lexWords? inFlow column (c.rest.length + 1) [] .none c

/-! ## Quoted scalars -/

def escapedChar? : Char → Option Char
  | '0' => some '\x00'
  | 'a' => some '\x07'
  | 'b' => some '\x08'
  | 't' => some '\t'
  | '\t' => some '\t'
  | 'n' => some '\n'
  | 'v' => some '\x0b'
  | 'f' => some '\x0c'
  | 'r' => some '\r'
  | 'e' => some '\x1b'
  | ' ' => some ' '
  | '"' => some '"'
  | '/' => some '/'
  | '\\' => some '\\'
  | 'N' => some '\u0085'
  | '_' => some '\u00a0'
  | 'L' => some '\u2028'
  | 'P' => some '\u2029'
  | _ => none

/-- The number of digits after an escape that gives a code point. -/
def codeLength? : Char → Option Nat
  | 'x' => some 2
  | 'u' => some 4
  | 'U' => some 8
  | _ => none

def lexEscape? (c : Cursor) : Option (Char × Cursor) := do
  let kind ← c.head?
  match escapedChar? kind, codeLength? kind with
  | some x, _ => return (x, c.skip)
  | none, none => none
  | none, some length =>
    let digits := (c.rest.drop 1).take length
    if digits.length < length then none
    let code ← Text.Hexadecimal.value? digits
    if h : code.isValidChar then return (Char.ofNatAux code h, c.skip (length + 1)) else none

/-- Reads a word of a quoted scalar; whether an escaped break follows it. -/
def lexQuotedWord? (quote : Char) : Nat → List Char → Cursor → Option (List Char × Bool × Cursor)
  | 0, word, c => some (word.reverse, false, c)
  | fuel + 1, word, c =>
    match c.head? with
    | none => some (word.reverse, false, c)
    | some x =>
      if isBlank x || isBreak x then some (word.reverse, false, c)
      else if x == quote then
        if quote == '\'' && c.ahead? 1 == some '\'' then
          lexQuotedWord? quote fuel ('\'' :: word) (c.skip 2)
        else some (word.reverse, false, c)
      else if quote == '"' && x == '\\' then
        match c.skip.lineBreak? with
        | some (_, next) => some (word.reverse, true, next)
        | none => do
          let (y, next) ← lexEscape? c.skip
          lexQuotedWord? quote fuel (y :: word) next
      else lexQuotedWord? quote fuel (x :: word) c.skip

/-- Reads the words of a quoted scalar up to its closing quote. -/
def lexQuotedWords? (quote : Char) : Nat → List Char → Cursor → Option (List Char × Cursor)
  | 0, _, _ => none
  | fuel + 1, text, c =>
    if c.isAtDocumentMark || c.rest.isEmpty then none
    else do
      let (word, wasEscaped, c) ← lexQuotedWord? quote c.rest.length [] c
      let text := text ++ word
      if c.isAt quote then return (text, c.skip)
      let (g, c) ← lexGap? 0 c.rest.length (if wasEscaped then .escaped else .none) c
      lexQuotedWords? quote fuel (text ++ g.text) c

/-- Reads a quoted scalar after its opening quote. -/
def lexQuoted? (quote : Char) (c : Cursor) : Option (List Char × Cursor) :=
  lexQuotedWords? quote (c.rest.length + 1) [] c

/-! ## Blocks of lines -/

/-- What becomes of the breaks at the end of a block. -/
inductive Chomping where
  | strip
  | clip
  | keep
deriving DecidableEq

def chomping? : Char → Option Chomping
  | '+' => some .keep
  | '-' => some .strip
  | _ => none

/-- The indentation that a digit asks for; zero is none. -/
def increment? (c : Char) : Option Nat :=
  if '1' ≤ c && c ≤ '9' then some (c.toNat - '0'.toNat) else none

/-- Reads the header of a block: chomping and indentation in either order, a comment, a break. -/
def lexBlockHeader? (c : Cursor) : Option (Chomping × Option Nat × Cursor) := do
  let (chomping, increment, c) :=
    match c.head?.bind chomping?, c.head?.bind increment? with
    | some chomping, _ =>
      match (c.ahead? 1).bind increment? with
      | some n => (chomping, some n, c.skip 2)
      | none => (chomping, none, c.skip)
    | none, some n =>
      match (c.ahead? 1).bind chomping? with
      | some chomping => (chomping, some n, c.skip 2)
      | none => (.clip, some n, c.skip)
    | none, none => (.clip, none, c)
  let c := c.skipWhile isBlank
  let c := if c.isAt '#' then c.skipWhile (!isBreak ·) else c
  match c.lineBreak? with
  | some (_, next) => return (chomping, increment, next)
  | none => if c.rest.isEmpty then return (chomping, increment, c) else none

/-- Reads the empty lines and the indentation before a line of a block. The indentation is up to a given
column; where none is given, all spaces count. Also gives the deepest column that was reached. -/
def lexIndentation? (column : Option Nat) :
    Nat → Nat → List Char → Cursor → Option (Nat × List Char × Cursor)
  | 0, deepest, breaks, c => some (deepest, breaks, c)
  | fuel + 1, deepest, breaks, c =>
    let spaces := (c.rest.takeWhile (· == ' ')).length
    let c := c.skip (match column with | some n => min spaces (n - c.column) | none => spaces)
    let deepest := max deepest c.column
    if column.all (c.column < ·) && c.isAt '\t' then none
    else
      match c.lineBreak? with
      | some (x, next) => lexIndentation? column fuel deepest (breaks ++ [x]) next
      | none => some (deepest, breaks, c)

/-- The lines of a block so far: its text, the last break, the empty lines after it, and whether the
last line started with a blank. -/
structure Block where
  text : List Char
  last : Option Char
  empty : List Char
  wasBlank : Bool

/-- A block with a further line. A single break between two lines that start with no blank counts as a
space in a folded block. -/
def Block.add (b : Block) (isFolded : Bool) (line : List Char) : Block :=
  let isBlankLine := line.head?.any isBlank
  let join :=
    if isFolded && b.last == some '\n' && !b.wasBlank && !isBlankLine then
      if b.empty.isEmpty then [' '] else []
    else b.last.toList
  ⟨b.text ++ join ++ b.empty ++ line, none, [], isBlankLine⟩

def lexBlockLines? (isFolded : Bool) (column : Nat) : Nat → Block → Cursor → Option (Block × Cursor)
  | 0, b, c => some (b, c)
  | fuel + 1, b, c =>
    if c.column != column || c.rest.isEmpty then some (b, c)
    else
      let line := c.rest.takeWhile (!isBreak ·)
      let b := b.add isFolded line
      let (last, c) := match (c.skip line.length).lineBreak? with
        | some (x, next) => (some x, next)
        | none => (none, c.skip line.length)
      match lexIndentation? (some column) (c.rest.length + 1) 0 [] c with
      | none => none
      | some (_, empty, c) =>
        lexBlockLines? isFolded column fuel { b with last := last, empty := empty } c

def Block.finish (b : Block) : Chomping → List Char
  | .strip => b.text
  | .clip => b.text ++ b.last.toList
  | .keep => b.text ++ b.last.toList ++ b.empty

/-- Reads a block after its mark; what is around it is indented up to a column. -/
def lexBlock? (isFolded : Bool) (indent : Int) (c : Cursor) : Option (List Char × Cursor) := do
  let (chomping, increment, c) ← lexBlockHeader? c
  let given := increment.map fun n => (max indent 0).toNat + n
  let (deepest, empty, c) ← lexIndentation? given (c.rest.length + 1) 0 [] c
  let column := given.getD (max (max deepest (indent + 1).toNat) 1)
  let (b, c) ← lexBlockLines? isFolded column (c.rest.length + 1) ⟨[], none, empty, false⟩ c
  return (b.finish chomping, c)

end BrowserAct.Yaml
