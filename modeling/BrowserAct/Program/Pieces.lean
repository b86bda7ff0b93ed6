import BrowserAct.Program.ParseError
import BrowserAct.Text.Blank

/-!
# The statements of a program text

A statement ends at a semicolon, at a line break, or at a line break written as backslash and `n`.
None of these ends it inside a quoted text or between brackets, so that separators in arguments and
in returned values are kept. Brackets are only counted, not matched, and a closing bracket too many
is ignored.
-/

namespace BrowserAct.Program

/-- Where in a statement a character stands. -/
inductive Place where
  /-- Outside quoted texts. -/
  | code
  /-- Inside a quoted text. -/
  | quoted
  /-- Inside a quoted text, after a backslash. -/
  | escaped
deriving DecidableEq

namespace Pieces

def isOpening (c : Char) : Bool :=
  c == '(' || c == '[' || c == '\x7b'

def isClosing (c : Char) : Bool :=
  c == ')' || c == ']' || c == '\x7d'

/-- A finished statement without the blanks around it; one of blanks only is none. -/
def flush (reversed : List Char) : List (List Char) :=
  let text := Text.trim reversed.reverse
  if text.isEmpty then [] else [text]

/-- The statements of the rest of a text. `depth` brackets are open and `reversed` is what the current
statement has so far, last character first. -/
def collect : Place → Nat → List Char → List Char → Except ParseError (List (List Char))
  | .code, _, reversed, [] => .ok (flush reversed)
  | _, _, reversed, [] =>
    .error (.unterminatedString (String.ofList (Text.trim reversed.reverse)))
  | .escaped, depth, reversed, c :: rest => collect .quoted depth (c :: reversed) rest
  | .quoted, depth, reversed, c :: rest =>
    collect (if c = '\\' then .escaped else if c = '"' then .code else .quoted) depth
      (c :: reversed) rest
  | .code, depth, reversed, '\\' :: 'n' :: rest =>
    if depth = 0 then (collect .code 0 [] rest).map (flush reversed ++ ·)
    else collect .code depth ('n' :: '\\' :: reversed) rest
  | .code, depth, reversed, c :: rest =>
    if c = '"' then collect .quoted depth (c :: reversed) rest
    else if isOpening c then collect .code (depth + 1) (c :: reversed) rest
    else if isClosing c then collect .code (depth - 1) (c :: reversed) rest
    else if depth = 0 ∧ (c = ';' ∨ c = '\n') then
      (collect .code 0 [] rest).map (flush reversed ++ ·)
    else collect .code depth (c :: reversed) rest

end Pieces

/-- The statements of a text, in order, each without the blanks around it. -/
def pieces (source : List Char) : Except ParseError (List (List Char)) :=
  Pieces.collect .code 0 [] source

end BrowserAct.Program
