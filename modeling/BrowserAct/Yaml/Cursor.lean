/-!
# Places in a YAML text

In YAML the column of a character matters, and so do the breaks between lines. A cursor is a place in a
text that knows its line and column.
-/

namespace BrowserAct.Yaml

def isBlank (c : Char) : Bool :=
  c == ' ' || c == '\t'

def isBreak (c : Char) : Bool :=
  ['\n', '\r', '\u0085', '\u2028', '\u2029'].contains c

/-- A letter, a digit, an underscore or a hyphen. -/
def isNameChar (c : Char) : Bool :=
  c.isAlphanum || c == '_' || c == '-'

/-- The characters that may stand in a text at all. -/
def isPermitted (c : Char) : Bool :=
  ['\t', '\n', '\r', '\u0085'].contains c || (' ' ≤ c && c ≤ '~')
    || ('\u00a0' ≤ c && c != '\ufffe' && c != '\uffff')

/-- A place in a text. -/
structure Cursor where
  rest : List Char
  /-- The number of characters before. -/
  index : Nat
  line : Nat
  column : Nat

namespace Cursor

def start (text : List Char) : Cursor :=
  ⟨text, 0, 0, 0⟩

def head? (c : Cursor) : Option Char :=
  c.rest.head?

def ahead? (c : Cursor) (n : Nat) : Option Char :=
  (c.rest.drop n).head?

def isAt (c : Cursor) (x : Char) : Bool :=
  c.head? == some x

/-- Whether a blank, a break or the end is so many places on. -/
def isGapAhead (c : Cursor) (n : Nat) : Bool :=
  (c.ahead? n).all fun x => isBlank x || isBreak x

def isAtSpace (c : Cursor) : Bool :=
  c.head?.any fun x => isBlank x || isBreak x

/-- The place so many characters on in the same line. -/
def skip (c : Cursor) (n : Nat := 1) : Cursor :=
  { c with rest := c.rest.drop n, index := c.index + n, column := c.column + n }

/-- The place after characters of a kind in the same line. -/
def skipWhile (c : Cursor) (kind : Char → Bool) : Cursor :=
  c.skip (c.rest.takeWhile kind).length

/-- The text of the break that comes next, and the start of the next line. Most breaks count as a line
feed. -/
def lineBreak? (c : Cursor) : Option (Char × Cursor) :=
  let next := fun n => { c.skip n with line := c.line + 1, column := 0 }
  match c.rest with
  | '\r' :: '\n' :: _ => some ('\n', next 2)
  | '\u2028' :: _ => some ('\u2028', next 1)
  | '\u2029' :: _ => some ('\u2029', next 1)
  | x :: _ => if isBreak x then some ('\n', next 1) else none
  | [] => none

/-- Whether the mark between documents, three times the same character on its own, is here. -/
def isAtMark (c : Cursor) (x : Char) : Bool :=
  c.column == 0 && c.rest.take 3 == [x, x, x] && c.isGapAhead 3

/-- Whether either mark between documents is here. -/
def isAtDocumentMark (c : Cursor) : Bool :=
  c.isAtMark '-' || c.isAtMark '.'

end Cursor

end BrowserAct.Yaml
