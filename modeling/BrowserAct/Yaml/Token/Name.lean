import BrowserAct.Url.Percent
import BrowserAct.Yaml.Token.Basic
import BrowserAct.Yaml.Cursor

/-!
# Names, tags and directives

The tokens that start with `&`, `*`, `!` and `%`.
-/

namespace BrowserAct.Yaml

/-! ## Anchors -/

def lexName? (c : Cursor) : Option (String × Cursor) :=
  let name := c.rest.takeWhile isNameChar
  let next := c.skip name.length
  let isEnd := next.isGapAhead 0 ||
    next.head?.any ['?', ':', ',', ']', '\x7d', '%', '@', '`'].contains
  if name.isEmpty || !isEnd then none else some (String.ofList name, next)

/-! ## Tags -/

/-- The characters of a tag; some may only stand in a tag between angle brackets. -/
def isTagChar (bracketed : Bool) (c : Char) : Bool :=
  isNameChar c || ";/?:@&=+$.!~*'()%".toList.contains c || (bracketed && ",[]".toList.contains c)

/-- The text of a tag, its escapes resolved. -/
def tagText? (text : List Char) : Option String :=
  if escapesAreWhole text then String.fromUTF8? ⟨(Url.percentDecode text).toArray⟩ else none
where
  /-- Whether two hexadecimal digits follow every percent sign. -/
  escapesAreWhole : List Char → Bool
    | '%' :: a :: b :: rest =>
      (Text.Hexadecimal.value? [a, b]).isSome && escapesAreWhole rest
    | '%' :: _ => false
    | _ :: rest => escapesAreWhole rest
    | [] => true

def lexTagText? (bracketed : Bool) (c : Cursor) : Option (String × Cursor) := do
  let text := c.rest.takeWhile (isTagChar bracketed)
  return (← tagText? text, c.skip text.length)

/-- Reads a tag between angle brackets, after the exclamation mark. -/
def lexWholeTag? (c : Cursor) : Option (Token × Cursor) := do
  let (text, next) ← lexTagText? true c.skip
  if text.isEmpty || !next.isAt '>' then none else return (.tag "" text, next.skip)

/-- Reads a tag with a handle between two exclamation marks, after the first of them, or a tag with
nothing but the first. -/
def lexShortTag? (c : Cursor) : Option (Token × Cursor) := do
  let name := c.rest.takeWhile isNameChar
  let next := c.skip name.length
  if next.isAt '!' then
    let (text, next) ← lexTagText? false next.skip
    if text.isEmpty then none else return (.tag ("!" ++ String.ofList name ++ "!") text, next)
  else
    let (text, next) ← lexTagText? false c
    return (if text.isEmpty then .tag "" "!" else .tag "!" text, next)

def lexTag? (inFlow : Bool) (c : Cursor) : Option (Token × Cursor) := do
  let (token, next) ← if c.isAt '<' then lexWholeTag? c else lexShortTag? c
  if next.isGapAhead 0 || (inFlow && next.isAt ',') then return (token, next) else none

/-! ## Directives -/

def lexNumber? (c : Cursor) : Option (Nat × Cursor) :=
  let digits := c.rest.takeWhile Char.isDigit
  if digits.isEmpty || 9 < digits.length then none
  else some (digits.foldl (fun n d => 10 * n + (d.toNat - '0'.toNat)) 0, c.skip digits.length)

/-- Reads the version after the name of its directive. -/
def lexVersion? (c : Cursor) : Option (Token × Cursor) := do
  let (major, c) ← lexNumber? (c.skipWhile isBlank)
  if !c.isAt '.' then none
  let (minor, c) ← lexNumber? c.skip
  return (.version major minor, c)

/-- Reads a handle and the start of its tags after the name of their directive. -/
def lexTagHandle? (c : Cursor) : Option (Token × Cursor) := do
  let c := c.skipWhile isBlank
  if !c.isAt '!' then none
  let name := c.skip.rest.takeWhile isNameChar
  let next := c.skip (name.length + 1)
  let (handle, next) ←
    if next.isAt '!' then some ("!" ++ String.ofList name ++ "!", next.skip)
    else if name.isEmpty then some ("!", next)
    else none
  if !next.isAtSpace || (next.head?.any isBreak) then none
  let (start, next) ← lexTagText? true (next.skipWhile isBlank)
  if start.isEmpty || !next.isGapAhead 0 then none
  return (.tagHandle handle start, next)

/-- Reads a directive after the percent sign. Nothing but a comment may follow it in its line. -/
def lexDirective? (c : Cursor) : Option (Token × Cursor) := do
  let name := c.rest.takeWhile isNameChar
  let next := c.skip name.length
  if name.isEmpty || !next.isGapAhead 0 then none
  let (token, next) ← match String.ofList name with
    | "YAML" => lexVersion? next
    | "TAG" => lexTagHandle? next
    | _ => none
  let next := next.skipWhile isBlank
  let next := if next.isAt '#' then next.skipWhile (!isBreak ·) else next
  match next.lineBreak? with
  | some (_, next) => return (token, next)
  | none => if next.rest.isEmpty then return (token, next) else none

end BrowserAct.Yaml
