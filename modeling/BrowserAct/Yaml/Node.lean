import BrowserAct.Yaml.Token.Lexer

/-!
# From tokens to nodes

A document is a tree of scalars, sequences and mappings. A node can be given a name, an anchor, and be
used again by that name later in the document, even inside itself.

* **`Node.document?`** gives the only document of a text.
-/

namespace BrowserAct.Yaml

/-- A part of a document. -/
inductive Node where
  | scalar (text : String) (style : Style) (tag : Option String)
  | sequence (items : List Node) (tag : Option String)
  | mapping (fields : List (Node × Node)) (tag : Option String)
  /-- A use of a node inside itself. -/
  | cycle

namespace Node

def empty : Node :=
  .scalar "" .plain none

/-- What the tokens of a document are read with: the tokens left, the tags that handles stand for, and
the named nodes, latest first; a node that is still open is not there yet. -/
structure Reader where
  tokens : List Token
  handles : List (String × String)
  names : List (String × Option Node)

namespace Reader

def skip (r : Reader) : Reader :=
  { r with tokens := r.tokens.drop 1 }

def head? (r : Reader) : Option Token :=
  r.tokens.head?

/-- Whether the next token is one of the given ones, or there is none. -/
def isAtAny (r : Reader) (tokens : List Token) : Bool :=
  r.head?.all tokens.contains

/-- A name is given to a node that is opened now. -/
def openName (r : Reader) : Option String → Reader
  | some name => { r with names := (name, none) :: r.names }
  | none => r

/-- The node that was opened when there were so many names is complete. -/
def closeName (r : Reader) (count : Nat) (name : Option String) (node : Node) : Reader :=
  match name with
  | some name =>
    { r with names := r.names.set (r.names.length - count - 1) (name, some node) }
  | none => r

end Reader

def tagText? (r : Reader) (handle ending : String) : Option String :=
  if handle = "" then some ending else (r.handles.lookup handle).map (· ++ ending)

/-- The anchor and the tag of a node, in either order. -/
def properties? (r : Reader) : Option (Option String × Option String × Reader) :=
  match r.tokens with
  | .anchor name :: .tag handle ending :: rest => do
    return (some name, some (← tagText? r handle ending), { r with tokens := rest })
  | .tag handle ending :: .anchor name :: rest => do
    return (some name, some (← tagText? r handle ending), { r with tokens := rest })
  | .anchor name :: rest => some (some name, none, { r with tokens := rest })
  | .tag handle ending :: rest => do
    return (none, some (← tagText? r handle ending), { r with tokens := rest })
  | _ => some (none, none, r)

/-! ## Nodes -/

/-- The places where a node can be: in a block, in a block whose sequences need not be indented, or in
brackets. -/
inductive Site where
  | block
  | mappingEntry
  | flow
deriving DecidableEq

mutual

def node? : Nat → Site → Reader → Option (Node × Reader)
  | 0, _, _ => none
  | n + 1, site, r =>
    match r.head? with
    | some (.aliasOf name) => do
      let named ← r.names.lookup name
      return (named.getD .cycle, r.skip)
    | _ => do
      let (name, tag, r) ← properties? r
      let count := r.names.length
      let (node, r) ← content? n site (name.isSome || tag.isSome) tag (r.openName name)
      return (node, r.closeName count name node)

/-- What a node holds, after its properties. -/
def content? : Nat → Site → Bool → Option String → Reader → Option (Node × Reader)
  | 0, _, _, _, _ => none
  | n + 1, site, hasProperties, tag, r =>
    match r.head?, site with
    | some .blockEntry, .mappingEntry => do
      let (items, r) ← looseItems? n [] r
      return (.sequence items tag, r)
    | some (.scalar text style), _ => some (.scalar text style tag, r.skip)
    | some .flowSequence, _ => do
      let (items, r) ← flowItems? n true [] r.skip
      return (.sequence items tag, r)
    | some .flowMapping, _ => do
      let (fields, r) ← flowFields? n true [] r.skip
      return (.mapping fields tag, r)
    | some .blockSequence, .block | some .blockSequence, .mappingEntry => do
      let (items, r) ← blockItems? n [] r.skip
      return (.sequence items tag, r)
    | some .blockMapping, .block | some .blockMapping, .mappingEntry => do
      let (fields, r) ← blockFields? n [] r.skip
      return (.mapping fields tag, r)
    | _, _ => if hasProperties then some (.scalar "" .plain tag, r) else none

/-- A node, or an empty scalar where one of the given tokens comes next. -/
def nodeUnless? : Nat → List Token → Site → Reader → Option (Node × Reader)
  | 0, _, _, _ => none
  | n + 1, tokens, site, r => if r.isAtAny tokens then some (.empty, r) else node? n site r

def blockItems? : Nat → List Node → Reader → Option (List Node × Reader)
  | 0, _, _ => none
  | n + 1, items, r =>
    match r.head? with
    | some .blockEntry => do
      let (item, r) ← nodeUnless? n [.blockEntry, .blockEnd] .block r.skip
      blockItems? n (item :: items) r
    | some .blockEnd => some (items.reverse, r.skip)
    | _ => none

/-- The entries of a sequence that is not indented. -/
def looseItems? : Nat → List Node → Reader → Option (List Node × Reader)
  | 0, _, _ => none
  | n + 1, items, r =>
    match r.head? with
    | some .blockEntry => do
      let (item, r) ← nodeUnless? n [.blockEntry, .key, .value, .blockEnd] .block r.skip
      looseItems? n (item :: items) r
    | _ => some (items.reverse, r)

/-- A value after its colon, or an empty scalar where there is no colon. -/
def fieldValue? : Nat → List Token → Site → Reader → Option (Node × Reader)
  | 0, _, _, _ => none
  | n + 1, tokens, site, r =>
    if r.head? == some .value then nodeUnless? n tokens site r.skip else some (.empty, r)

def blockFields? : Nat → List (Node × Node) → Reader → Option (List (Node × Node) × Reader)
  | 0, _, _ => none
  | n + 1, fields, r =>
    match r.head? with
    | some .key => do
      let (key, r) ← nodeUnless? n [.key, .value, .blockEnd] .mappingEntry r.skip
      let (value, r) ← fieldValue? n [.key, .value, .blockEnd] .mappingEntry r
      blockFields? n ((key, value) :: fields) r
    | some .blockEnd => some (fields.reverse, r.skip)
    | _ => none

/-- The items of a sequence in brackets; an item with a colon is a mapping of one field. -/
def flowItems? : Nat → Bool → List Node → Reader → Option (List Node × Reader)
  | 0, _, _, _ => none
  | n + 1, isFirst, items, r =>
    if r.head? == some .flowSequenceEnd then some (items.reverse, r.skip)
    else if !isFirst && r.head? != some .flowEntry then none
    else do
      let r := if isFirst then r else r.skip
      match r.head? with
      | some .flowSequenceEnd => return (items.reverse, r.skip)
      | some .key =>
        let (key, r) ← pairKey? n r.skip
        let (value, r) ← fieldValue? n [.flowEntry, .flowSequenceEnd] .flow r
        flowItems? n false (.mapping [(key, value)] none :: items) r
      | _ =>
        let (item, r) ← node? n .flow r
        flowItems? n false (item :: items) r

/-- The key of a single pair in brackets. Where it is missing the token after it is lost. -/
def pairKey? : Nat → Reader → Option (Node × Reader)
  | 0, _ => none
  | n + 1, r =>
    if r.isAtAny [.value, .flowEntry, .flowSequenceEnd] then some (.empty, r.skip)
    else node? n .flow r

/-- The fields of a mapping in brackets; a field without a key mark has no value. -/
def flowFields? : Nat → Bool → List (Node × Node) → Reader →
    Option (List (Node × Node) × Reader)
  | 0, _, _, _ => none
  | n + 1, isFirst, fields, r =>
    if r.head? == some .flowMappingEnd then some (fields.reverse, r.skip)
    else if !isFirst && r.head? != some .flowEntry then none
    else do
      let r := if isFirst then r else r.skip
      match r.head? with
      | some .flowMappingEnd => return (fields.reverse, r.skip)
      | some .key =>
        let (key, r) ← nodeUnless? n [.value, .flowEntry, .flowMappingEnd] .flow r.skip
        let (value, r) ← fieldValue? n [.flowEntry, .flowMappingEnd] .flow r
        flowFields? n false ((key, value) :: fields) r
      | _ =>
        let (key, r) ← node? n .flow r
        flowFields? n false ((key, .empty) :: fields) r

end

/-! ## Documents -/

def defaultHandles : List (String × String) :=
  [("!", "!"), ("!!", "tag:yaml.org,2002:")]

/-- The directives of a document: whether the version was given, and the handles. -/
def directives? : Bool → List (String × String) → List Token →
    Option (List (String × String) × List Token)
  | hasVersion, handles, .version major minor :: rest =>
    if hasVersion || major != 1 || (minor != 1 && minor != 2) then none
    else directives? true handles rest
  | hasVersion, handles, .tagHandle handle start :: rest =>
    if (handles.lookup handle).isSome then none
    else directives? hasVersion ((handle, start) :: handles) rest
  | _, handles, tokens => some (handles ++ defaultHandles, tokens)

/-- Whether a token is one of those between documents. -/
def isBetween : Token → Bool
  | .documentStart | .documentEnd | .version _ _ | .tagHandle _ _ => true
  | _ => false

def stepBound (tokens : List Token) : Nat :=
  4 * tokens.length + 8

def documentContent? (handles : List (String × String)) (tokens : List Token) :
    Option (Node × List Token) :=
  if tokens.head?.all isBetween then some (.empty, tokens)
  else (node? (stepBound tokens) .block ⟨tokens, handles, []⟩).map fun (node, r) => (node, r.tokens)

/-- Reads the first document; nothing is a document of its own. -/
def first? (tokens : List Token) : Option (Option Node × List Token) :=
  match tokens with
  | [] => some (none, [])
  | token :: _ =>
    match token with
    | .documentStart | .version _ _ | .tagHandle _ _ => do
      let (handles, rest) ← directives? false [] tokens
      match rest with
      | .documentStart :: rest =>
        (documentContent? handles rest).map fun (node, rest) => (some node, rest)
      | _ => none
    | _ =>
      (node? (stepBound tokens) .block ⟨tokens, defaultHandles, []⟩).map fun (node, r) =>
        (some node, r.tokens)

/-- The only document of a text; nothing if the text holds none. -/
def document? (text : List Char) : Option (Option Node) := do
  let (node, rest) ← first? (← tokens? text)
  if rest.all (· == .documentEnd) then return node else none

end Node

end BrowserAct.Yaml
