import BrowserAct.Yaml.Token.Name
import BrowserAct.Yaml.Token.Scalar

/-!
# From text to tokens

The lexer keeps track of the blocks that are open, by the columns at which they started, and of the
places at which a key could have started: only when a colon turns up is it known whether one did.

* **`Lexer.step?`** reads the next token.
* **`tokens?`** gives the tokens of a text.
-/

namespace BrowserAct.Yaml

/-- A place at which a key could have started. -/
structure KeyMark where
  /-- Whether nothing but a key can be there. -/
  required : Bool
  /-- The number of tokens before. -/
  tokenCount : Nat
  place : Cursor

/-- The lexer somewhere in a text. -/
structure Lexer where
  cursor : Cursor
  /-- The tokens so far, latest first. -/
  tokens : List Token
  /-- The column of the innermost block, before any block the one before the first. -/
  indent : Int
  /-- The columns of the blocks around it. -/
  outer : List Int
  /-- Whether a key may start here. -/
  keyAllowed : Bool
  /-- The possible key in each open bracket, innermost first, and outside all brackets. -/
  keys : List (Option KeyMark)

namespace Lexer

def start (text : List Char) : Lexer :=
  ⟨.start text, [], -1, [], true, [none]⟩

def inFlow (l : Lexer) : Bool :=
  l.keys.length > 1

def push (l : Lexer) (token : Token) : Lexer :=
  { l with tokens := token :: l.tokens }

def insert (l : Lexer) (count : Nat) (token : Token) : Lexer :=
  { l with tokens := l.tokens.insertIdx (l.tokens.length - count) token }

def goTo (l : Lexer) (cursor : Cursor) (keyAllowed : Bool) : Lexer :=
  { l with cursor, keyAllowed }

/-! ## Blocks -/

/-- Opens a block after so many tokens, if the column is deeper than all open blocks. -/
def openBlock (l : Lexer) (column : Int) (count : Nat) (token : Token) : Lexer :=
  if !l.inFlow && l.indent < column then
    { l.insert count token with indent := column, outer := l.indent :: l.outer }
  else l

def openBlockHere (l : Lexer) (token : Token) : Lexer :=
  l.openBlock l.cursor.column l.tokens.length token

/-- Closes the given blocks that are deeper than a column. -/
def closeDeeper (column : Int) : List Int → Lexer → Lexer
  | [], l => l
  | outer :: rest, l =>
    if column < l.indent then
      closeDeeper column rest { l.push .blockEnd with indent := outer, outer := rest }
    else l

/-- Closes the blocks that are deeper than a column. Inside brackets columns do not count. -/
def closeBlocks (l : Lexer) (column : Int) : Lexer :=
  if l.inFlow then l else closeDeeper column l.outer l

/-! ## Keys -/

def dropKey? (l : Lexer) : Option Lexer :=
  match l.keys with
  | some key :: _ => if key.required then none else some { l with keys := none :: l.keys.drop 1 }
  | _ => some l

def markKey? (l : Lexer) : Option Lexer :=
  if !l.keyAllowed then some l
  else do
    let required := !l.inFlow && l.indent == l.cursor.column
    let l ← l.dropKey?
    return { l with keys := some ⟨required, l.tokens.length, l.cursor⟩ :: l.keys.drop 1 }

/-- Whether a key that started at a place can still end here: in its line, within 1024 characters. -/
def isFresh (l : Lexer) (key : KeyMark) : Bool :=
  key.place.line == l.cursor.line && l.cursor.index ≤ key.place.index + 1024

/-- Gives up the possible keys that are too far back. -/
def dropStaleKeys? (l : Lexer) : Option Lexer := do
  let keys ← l.keys.mapM fun key? =>
    match key? with
    | none => some none
    | some key => if l.isFresh key then some (some key) else if key.required then none else some none
  return { l with keys }

/-! ## Space between tokens -/

/-- Skips blanks, comments and breaks. A tab is no blank where a key may start. A break makes a key
possible again. -/
def skipSpace : Nat → Lexer → Lexer
  | 0, l => l
  | fuel + 1, l =>
    let tabsCount := l.inFlow || !l.keyAllowed
    let c := l.cursor.skipWhile fun x => x == ' ' || (tabsCount && x == '\t')
    let c := if c.isAt '#' then c.skipWhile (!isBreak ·) else c
    match c.lineBreak? with
    | some (_, next) =>
      skipSpace fuel (l.goTo next (!l.inFlow || l.keyAllowed))
    | none => { l with cursor := c }

def skipByteOrder (l : Lexer) : Lexer :=
  if l.cursor.index == 0 && l.cursor.isAt '\ufeff' then { l with cursor := l.cursor.skip } else l

/-! ## Tokens -/

def finish? (l : Lexer) : Option Lexer :=
  (l.closeBlocks (-1)).dropKey?

def documentMark? (l : Lexer) (token : Token) : Option Lexer := do
  let l ← (l.closeBlocks (-1)).dropKey?
  return (l.push token).goTo (l.cursor.skip 3) false

def directive? (l : Lexer) : Option Lexer := do
  let l ← (l.closeBlocks (-1)).dropKey?
  let (token, next) ← lexDirective? l.cursor.skip
  return (l.push token).goTo next false

def openFlow? (l : Lexer) (token : Token) : Option Lexer := do
  let l ← l.markKey?
  return ({ l with keys := none :: l.keys }.push token).goTo l.cursor.skip true

def closeFlow? (l : Lexer) (token : Token) : Option Lexer := do
  let l ← l.dropKey?
  let keys := if l.inFlow then l.keys.drop 1 else l.keys
  return ({ l with keys }.push token).goTo l.cursor.skip false

def flowEntry? (l : Lexer) : Option Lexer := do
  let l ← l.dropKey?
  return (l.push .flowEntry).goTo l.cursor.skip true

def blockEntry? (l : Lexer) : Option Lexer := do
  if !l.inFlow && !l.keyAllowed then none
  let l ← (l.openBlockHere .blockSequence).dropKey?
  return (l.push .blockEntry).goTo l.cursor.skip true

def keyMark? (l : Lexer) : Option Lexer := do
  if !l.inFlow && !l.keyAllowed then none
  let l ← (l.openBlockHere .blockMapping).dropKey?
  return (l.push .key).goTo l.cursor.skip (!l.inFlow)

/-- A colon. If a key could have started, it did. -/
def value? (l : Lexer) : Option Lexer :=
  match l.keys with
  | some key :: rest =>
    let l := l.insert key.tokenCount .key
    let l := l.openBlock key.place.column key.tokenCount .blockMapping
    some (({ l with keys := none :: rest }.push .value).goTo l.cursor.skip false)
  | _ =>
    if !l.inFlow && !l.keyAllowed then none
    else some (((l.openBlockHere .blockMapping).push .value).goTo l.cursor.skip (!l.inFlow))

/-- A token that could start a key, by what reads it. -/
def keyStart? (l : Lexer) (lex : Cursor → Option (Token × Cursor)) : Option Lexer := do
  let l ← l.markKey?
  let (token, next) ← lex l.cursor
  return (l.push token).goTo next false

def block? (l : Lexer) (isFolded : Bool) : Option Lexer := do
  let l ← l.dropKey?
  let (text, next) ← lexBlock? isFolded l.indent l.cursor.skip
  let style := if isFolded then Style.folded else Style.literal
  return (l.push (.scalar (String.ofList text) style)).goTo next true

def quoted? (l : Lexer) (quote : Char) : Option Lexer :=
  l.keyStart? fun c => do
    let (text, next) ← lexQuoted? quote c.skip
    return (.scalar (String.ofList text) .quoted, next)

/-- A plain scalar. If a line ended after it, a key may follow. -/
def plain? (l : Lexer) : Option Lexer := do
  let l ← l.markKey?
  let (text, broken, next) ← lexPlain? l.inFlow (l.indent + 1).toNat l.cursor
  return (l.push (.scalar (String.ofList text) .plain)).goTo next broken

/-- The characters that mean something at the start of a token. -/
def indicators : List Char :=
  "-?:,[]#&*!|>'\"%@`".toList ++ ['\x7b', '\x7d']

/-- Whether a plain scalar can start with a character. -/
def startsPlain (l : Lexer) (c : Char) : Bool :=
  let next := l.cursor.ahead? 1
  !indicators.contains c || (c == '-' && !next.any isBlank)
    || (!l.inFlow && (c == '?' || c == ':') && !l.cursor.isGapAhead 1)

/-- Reads the token that starts with a character. -/
def token? (l : Lexer) (c : Char) : Option Lexer :=
  let gapFollows := l.cursor.isGapAhead 1
  if l.cursor.column == 0 && c == '%' then l.directive?
  else if l.cursor.isAtMark '-' then l.documentMark? .documentStart
  else if l.cursor.isAtMark '.' then l.documentMark? .documentEnd
  else
    match c with
    | '[' => l.openFlow? .flowSequence
    | '\x7b' => l.openFlow? .flowMapping
    | ']' => l.closeFlow? .flowSequenceEnd
    | '\x7d' => l.closeFlow? .flowMappingEnd
    | ',' => l.flowEntry?
    | '*' => l.keyStart? fun c => (lexName? c.skip).map fun (name, next) => (.aliasOf name, next)
    | '&' => l.keyStart? fun c => (lexName? c.skip).map fun (name, next) => (.anchor name, next)
    | '!' => l.keyStart? fun c => lexTag? l.inFlow c.skip
    | '\'' => l.quoted? '\''
    | '"' => l.quoted? '"'
    | c =>
      if c == '-' && gapFollows then l.blockEntry?
      else if c == '?' && (l.inFlow || gapFollows) then l.keyMark?
      else if c == ':' && (l.inFlow || gapFollows) then l.value?
      else if c == '|' && !l.inFlow then l.block? false
      else if c == '>' && !l.inFlow then l.block? true
      else if l.startsPlain c then l.plain?
      else none

/-- Reads the next token; whether there was one. -/
def step? (l : Lexer) : Option (Bool × Lexer) := do
  let l ← (l.skipByteOrder.skipSpace (l.cursor.rest.length + 1)).dropStaleKeys?
  let l := l.closeBlocks l.cursor.column
  match l.cursor.head? with
  | none => return (false, ← l.finish?)
  | some c => return (true, ← l.token? c)

/-- Reads all tokens; each takes a character at least. -/
def run? : Nat → Lexer → Option Lexer
  | 0, _ => none
  | fuel + 1, l => do
    let (more, l) ← l.step?
    if more then run? fuel l else return l

end Lexer

def tokens? (text : List Char) : Option (List Token) :=
  if text.all isPermitted then
    ((Lexer.start text).run? (text.length + 1)).map (·.tokens.reverse)
  else none

/-! ## Checks -/

example : tokens? "a: b".toList =
    some [.blockMapping, .key, .scalar "a" .plain, .value, .scalar "b" .plain, .blockEnd] := by
  decide +kernel
example : tokens? "a: b: c".toList = none := by decide +kernel

end BrowserAct.Yaml
