import BrowserAct.Pattern.Basic
import BrowserAct.Text.Hexadecimal

/-!
# Reading patterns

The text of a pattern is cut into tokens, and the tokens are put together on a stack of open groups.

* **`Pattern.parse?`** reads a whole pattern.
-/

namespace BrowserAct.Pattern

/-- What an open group is for. -/
inductive GroupKind where
  | plain
  | ahead (negated : Bool)
  | behind (negated : Bool)

/-- A piece of the text of a pattern. -/
inductive Token where
  | char (accepted : CharClass)
  | assertion (pattern : Pattern)
  | opens (kind : GroupKind)
  | closes
  | bar
  | times (least : Nat) (most : Option Nat)

/-! ## Escapes -/

/-- A code point given by so many hexadecimal digits. -/
def lexDigits (count : Nat) (text : List Char) : Option (Char × List Char) :=
  let digits := text.take count
  if digits.length < count then none
  else
    match Text.Hexadecimal.value? digits with
    | some n => if h : n.isValidChar then some (Char.ofNatAux n h, text.drop count) else none
    | none => none

/-- A code point given in digits or in digits between braces. -/
def lexCode (count : Nat) : List Char → Option (Char × List Char)
  | '\x7b' :: text =>
    let digits := text.takeWhile (· != '\x7d')
    match text.drop digits.length with
    | '\x7d' :: rest =>
      (lexDigits digits.length digits).map fun (c, _) => (c, rest)
    | _ => none
  | text => lexDigits count text

def namedChar? : Char → Option Char
  | 'n' => some '\n'
  | 't' => some '\t'
  | 'r' => some '\r'
  | 'f' => some '\x0c'
  | 'v' => some '\x0b'
  | 'a' => some '\x07'
  | 'e' => some '\x1b'
  | _ => none

def namedClass? : Char → Option Member
  | 'd' => some (.digits false)
  | 'D' => some (.digits true)
  | 'w' => some (.word false)
  | 'W' => some (.word true)
  | 's' => some (.space false)
  | 'S' => some (.space true)
  | _ => none

/-- What follows a backslash, in or outside a class. -/
def lexEscape? : List Char → Option (Member × List Char)
  | [] => none
  | 'x' :: text => (lexCode 2 text).map fun (c, rest) => (.range c c, rest)
  | 'u' :: text => (lexCode 4 text).map fun (c, rest) => (.range c c, rest)
  | 'U' :: text => (lexCode 8 text).map fun (c, rest) => (.range c c, rest)
  | 'c' :: c :: text =>
    if c.isAlpha then
      let control := Char.ofNat (c.toNat % 32)
      some (.range control control, text)
    else none
  | c :: text =>
    match namedClass? c, namedChar? c with
    | some member, _ => some (member, text)
    | none, some c => some (.range c c, text)
    | none, none => if c.isAlphanum then none else some (.range c c, text)

/-! ## Classes -/

/-- One end of a range, or a part that has no ends. -/
def lexMember? : List Char → Option (Member × List Char)
  | [] => none
  | '\\' :: 'b' :: text => some (.range '\x08' '\x08', text)
  | '\\' :: text => lexEscape? text
  | c :: text => some (.range c c, text)

/-- The parts of a class up to its end; the first character ends no class. -/
def lexMembers : Nat → Bool → List Member → List Char → Option (List Member × List Char)
  | 0, _, _, _ => none
  | fuel + 1, isFirst, members, text => do
    if !isFirst && text.head? == some ']' then return (members.reverse, text.drop 1)
    let (member, rest) ← lexMember? text
    match member, rest with
    | .range first _, '-' :: c :: _ =>
      if c == ']' then lexMembers fuel false (member :: members) rest
      else
        match lexMember? (rest.drop 1) with
        | some (.range last _, rest) =>
          if first ≤ last then lexMembers fuel false (.range first last :: members) rest else none
        | _ => none
    | _, _ => lexMembers fuel false (member :: members) rest

def lexClass? : List Char → Option (CharClass × List Char)
  | '^' :: text =>
    (lexMembers (text.length + 1) true [] text).map fun (members, rest) => (⟨true, members⟩, rest)
  | text =>
    (lexMembers (text.length + 1) true [] text).map fun (members, rest) => (⟨false, members⟩, rest)

/-! ## Repetitions -/

def lexNumber? (text : List Char) : Option Nat × List Char :=
  let digits := text.takeWhile Char.isDigit
  let value := digits.foldl (fun n c => 10 * n + (c.toNat - '0'.toNat)) 0
  (if digits.isEmpty then none else some value, text.drop digits.length)

/-- The counts of a repetition after its opening brace. -/
def lexCounts? (text : List Char) : Option ((Nat × Option Nat) × List Char) :=
  match lexNumber? text with
  | (some n, '\x7d' :: rest) => some ((n, some n), rest)
  | (least, ',' :: rest) =>
    match lexNumber? rest with
    | (most, '\x7d' :: rest) => some ((least.getD 0, most), rest)
    | _ => none
  | _ => none

/-- A repetition matches the same texts whether or not it is eager. -/
def afterEagerness : List Char → List Char
  | '?' :: '+' :: rest => rest
  | '?' :: rest => rest
  | '+' :: rest => rest
  | text => text

/-! ## Tokens -/

/-- The kind of a group after its opening parenthesis. -/
def lexGroup? : List Char → Option (GroupKind × List Char)
  | '?' :: ':' :: rest => some (.plain, rest)
  | '?' :: '=' :: rest => some (.ahead false, rest)
  | '?' :: '!' :: rest => some (.ahead true, rest)
  | '?' :: '<' :: '=' :: rest => some (.behind false, rest)
  | '?' :: '<' :: '!' :: rest => some (.behind true, rest)
  | '?' :: 'P' :: '<' :: rest => afterName rest
  | '?' :: '<' :: rest => afterName rest
  | '?' :: _ => none
  | text => some (.plain, text)
where
  /-- A named group after its opening bracket. -/
  afterName (text : List Char) : Option (GroupKind × List Char) :=
    let name := text.takeWhile isWordChar
    match name, text.drop name.length with
    | _ :: _, '>' :: rest => some (.plain, rest)
    | _, _ => none

/-- Whether a token can be followed by a repetition of what it ends. -/
def Token.endsItem : Token → Bool
  | .char _ | .assertion _ | .closes => true
  | .opens _ | .bar | .times _ _ => false

/-- The next token of a text that is not at its end. Where there is nothing to repeat, a brace stands
for itself. -/
def lexToken? (afterItem : Bool) (c : Char) (text : List Char) : Option (Token × List Char) :=
  match c, text with
  | '.', _ => some (.char .anyChar, text)
  | '^', _ => some (.assertion .textStart, text)
  | '$', _ => some (.assertion .textEnd, text)
  | '|', _ => some (.bar, text)
  | ')', _ => some (.closes, text)
  | '(', _ => (lexGroup? text).map fun (kind, rest) => (.opens kind, rest)
  | '[', _ => (lexClass? text).map fun (accepted, rest) => (.char accepted, rest)
  | '*', _ => some (.times 0 none, afterEagerness text)
  | '+', _ => some (.times 1 none, afterEagerness text)
  | '?', _ => some (.times 0 (some 1), afterEagerness text)
  | '\x7b', _ =>
    match afterItem, lexCounts? text with
    | true, some ((least, most), rest) => some (.times least most, afterEagerness rest)
    | _, _ => some (.char (.only c), text)
  | '\\', 'b' :: rest => some (.assertion (.wordEdge false), rest)
  | '\\', 'B' :: rest => some (.assertion (.wordEdge true), rest)
  | '\\', 'A' :: rest => some (.assertion .textStart, rest)
  | '\\', 'z' :: rest => some (.assertion .textEnd, rest)
  | '\\', _ => (lexEscape? text).map fun (member, rest) => (.char ⟨false, [member]⟩, rest)
  | _, _ => some (.char (.only c), text)

def lexAll : Nat → Bool → List Char → Option (List Token)
  | _, _, [] => some []
  | 0, _, _ :: _ => none
  | fuel + 1, afterItem, c :: text => do
    let (token, rest) ← lexToken? afterItem c text
    return token :: (← lexAll fuel token.endsItem rest)

/-! ## Groups -/

/-- A group that is still open: the choices before, and the sequence so far, latest first. -/
structure Frame where
  kind : GroupKind
  choices : Option Pattern
  items : List Pattern

def addChoice (choices : Option Pattern) (item : Pattern) : Pattern :=
  match choices with
  | some before => .choice before item
  | none => item

def Frame.sequence (f : Frame) : Pattern :=
  f.items.foldl (fun rest item => .sequence item rest) .empty

def Frame.pattern (f : Frame) : Pattern :=
  let body := addChoice f.choices f.sequence
  match f.kind with
  | .plain => .sequence .empty body
  | .ahead negated => .ahead negated body
  | .behind negated => .behind negated body

def Frame.opened (kind : GroupKind) : Frame :=
  ⟨kind, none, []⟩

/-- Characters and groups can be repeated; assertions and repetitions cannot. -/
def isRepeatable : Pattern → Bool
  | .char _ | .sequence _ _ => true
  | _ => false

def Frame.push (f : Frame) (item : Pattern) : Frame :=
  { f with items := item :: f.items }

/-- Takes in a token: the innermost group and the groups around it. -/
def step : Frame × List Frame → Token → Option (Frame × List Frame)
  | (f, outer), .char accepted => some (f.push (.char accepted), outer)
  | (f, outer), .assertion pattern => some (f.push pattern, outer)
  | (f, outer), .opens kind => some (.opened kind, f :: outer)
  | (f, g :: outer), .closes => some (g.push f.pattern, outer)
  | (_, []), .closes => none
  | (f, outer), .bar => some (⟨f.kind, some (addChoice f.choices f.sequence), []⟩, outer)
  | (f, outer), .times least most =>
    match f.items with
    | item :: items =>
      if isRepeatable item && most.all (least ≤ ·) then
        some (⟨f.kind, f.choices, .repeated least most item :: items⟩, outer)
      else none
    | [] => none

def parse? (text : String) : Option Pattern := do
  let tokens ← lexAll text.toList.length false text.toList
  match ← tokens.foldlM step (.opened .plain, []) with
  | (f, []) => return f.pattern
  | (_, _ :: _) => none

/-! ## Checks -/

/-- Whether a text has a match of a pattern that is given as a text. -/
def check (pattern text : String) : Option Bool :=
  (parse? pattern).map (·.found text)

example : check "^p" "price" = some true := by decide +kernel
example : check "^(ab|c)+$" "abcab" = some true := by decide +kernel
example : check "^[^a-c]\\d*?$" "z12" = some true := by decide +kernel
example : check "\\bno\\b" "now no" = some true := by decide +kernel
example : check "a\x7b2\x7d\x7b" "aa\x7b" = some true := by decide +kernel
example : check "a\x7b3,2\x7d" "aaa" = none := by decide +kernel
example : check "(" "" = none := by decide +kernel
example : check "*" "" = none := by decide +kernel

end BrowserAct.Pattern
