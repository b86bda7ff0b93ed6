/-!
# Patterns

A pattern says of some places in a text at which later places a match can end. Which of them a search
would prefer does not matter: all that is ever asked is whether there is one. So places go through
a pattern together, in order and each once.

* **`Pattern.ends`** gives the places at which a match can end.
* **`Pattern.found`** says whether a text has a match anywhere.
-/

namespace BrowserAct

namespace Pattern

/-- One part of a class of characters. -/
inductive Member where
  | range (first last : Char)
  | digits (negated : Bool)
  | word (negated : Bool)
  | space (negated : Bool)
deriving DecidableEq

/-- A class of characters. -/
structure CharClass where
  negated : Bool
  members : List Member
deriving DecidableEq

/-- A letter, a digit or an underscore. -/
def isWordChar (c : Char) : Bool :=
  c.isAlphanum || c == '_'

def isSpaceChar (c : Char) : Bool :=
  [' ', '\t', '\n', '\r', '\x0b', '\x0c', '\u00a0', '\u2003', '\u2029', '\ufeff'].contains c

def Member.has (c : Char) : Member → Bool
  | .range first last => decide (first ≤ c) && decide (c ≤ last)
  | .digits negated => c.isDigit != negated
  | .word negated => isWordChar c != negated
  | .space negated => isSpaceChar c != negated

def CharClass.has (k : CharClass) (c : Char) : Bool :=
  k.members.any (·.has c) != k.negated

def CharClass.anyChar : CharClass :=
  ⟨true, [.range '\n' '\n']⟩

def CharClass.only (c : Char) : CharClass :=
  ⟨false, [.range c c]⟩

/-- A place in a text: what is before it, nearest first, and what is after it. -/
structure Place where
  before : List Char
  after : List Char
  /-- The number of characters before it, by which places of one text are told apart. -/
  offset : Nat
deriving DecidableEq

namespace Place

def next? (p : Place) : Option (Char × Place) :=
  match p.after with
  | [] => none
  | c :: rest => some (c, ⟨c :: p.before, rest, p.offset + 1⟩)

/-- Whether exactly one side of a place is part of a word. -/
def isWordEdge (p : Place) : Bool :=
  p.before.head?.any isWordChar != p.after.head?.any isWordChar

def start (text : List Char) : Place :=
  ⟨[], text, 0⟩

def rewind (p : Place) : Place :=
  start (p.before.reverse ++ p.after)

def onward (p : Place) : List Place :=
  go p.before p.offset p.after
where
  /-- The places from one on, which is given by its parts. -/
  go (before : List Char) (offset : Nat) : List Char → List Place
    | [] => [⟨before, [], offset⟩]
    | c :: rest => ⟨before, c :: rest, offset⟩ :: go (c :: before) (offset + 1) rest

/-- The places of two lists, each in order, in order and each once. -/
def union : List Place → List Place → List Place
  | [], qs => qs
  | ps, [] => ps
  | p :: ps, q :: qs =>
    if p.offset < q.offset then p :: union ps (q :: qs)
    else if q.offset < p.offset then q :: union (p :: ps) qs
    else p :: union ps qs
termination_by ps qs => ps.length + qs.length

/-- The places of a list that are not in another, both in order. -/
def without : List Place → List Place → List Place
  | [], _ => []
  | ps, [] => ps
  | p :: ps, q :: qs =>
    if p.offset < q.offset then p :: without ps (q :: qs)
    else if q.offset < p.offset then without (p :: ps) qs
    else without ps qs
termination_by ps qs => ps.length + qs.length

/-- The most characters that are left after one of some places. -/
def mostLeft (places : List Place) : Nat :=
  places.foldl (fun most p => max most p.after.length) 0

end Place

end Pattern

/-- A pattern. -/
inductive Pattern where
  | empty
  | char (accepted : Pattern.CharClass)
  | textStart
  | textEnd
  | wordEdge (negated : Bool)
  | sequence (first second : Pattern)
  | choice (first second : Pattern)
  /-- A pattern so many times in a row. -/
  | repeated (least : Nat) (most : Option Nat) (body : Pattern)
  /-- Whether a match could follow. -/
  | ahead (negated : Bool) (body : Pattern)
  /-- Whether a match could end here. -/
  | behind (negated : Bool) (body : Pattern)

namespace Pattern

/-- The places reached by a step taken exactly so many times. -/
def times (step : List Place → List Place) : Nat → List Place → List Place
  | 0, places => places
  | n + 1, places => times step n (step places)

/-- The places reached by a step taken up to so many times from the last of some known places. -/
def upTo (step : List Place → List Place) : Nat → List Place → List Place → List Place
  | 0, known, _ => known
  | n + 1, known, last =>
    let fresh := Place.without (step last) known
    if fresh.isEmpty then known else upTo step n (Place.union known fresh) fresh

/-- The places at which a match that starts at one of some places can end. A body that matches nothing
leads nowhere new, so no more repetitions need to be tried than characters are left. -/
def ends : Pattern → List Place → List Place
  | .empty, places => places
  | .char accepted, places =>
    places.filterMap fun p =>
      match p.next? with
      | some (c, rest) => if accepted.has c then some rest else none
      | none => none
  | .textStart, places => places.filter (·.before.isEmpty)
  | .textEnd, places => places.filter (·.after.isEmpty)
  | .wordEdge negated, places => places.filter (·.isWordEdge != negated)
  | .sequence first second, places => second.ends (first.ends places)
  | .choice first second, places => Place.union (first.ends places) (second.ends places)
  | .repeated least most body, places =>
    let left := Place.mostLeft places
    let more := match most with
      | some most => min (most - least) left
      | none => left
    let reached := times body.ends (min least (left + 1)) places
    upTo body.ends more reached reached
  | .ahead negated body, places => places.filter fun p => (body.ends [p]).isEmpty == negated
  | .behind negated body, places =>
    places.filter fun p =>
      (body.ends p.rewind.onward).any (·.offset == p.offset) != negated

def found (pattern : Pattern) (text : String) : Bool :=
  !(pattern.ends (Place.start text.toList).onward).isEmpty

end Pattern

end BrowserAct
