import BrowserAct.Url.Host

/-!
# Addresses

An address is read from a text: a scheme, then, where the scheme has hosts, a host with or without a
number behind it, then a path, a query and a fragment. Addresses of the six special schemes have
hosts, and a backslash in them is a slash.

* **`Address.parse?`** reads an address.
* **`Address.target`** is what a request for it names.
-/

namespace BrowserAct.Url

/-- How the part after the scheme is read. -/
inductive SchemeKind where
  /-- A scheme with hosts. -/
  | hosted
  | file
  | unknown
deriving DecidableEq

def SchemeKind.of (scheme : String) : SchemeKind :=
  if scheme = "file" then .file
  else if ["http", "https", "ws", "wss", "ftp"].contains scheme then .hosted
  else .unknown

/-- An address, without its fragment. -/
structure Address where
  scheme : String
  host : Option Host
  /-- The number behind the host. -/
  portNumber : Option Nat
  path : String
  query : Option String
deriving DecidableEq

namespace Address

/-- A text without control characters and blanks at its ends and without tabs and line ends. -/
def cleaned (text : List Char) : List Char :=
  let isEdge := fun (c : Char) => decide (c.toNat ≤ 0x20)
  let trimmed := ((text.dropWhile isEdge).reverse.dropWhile isEdge).reverse
  trimmed.filter fun c => !(['\t', '\n', '\r'].contains c)

/-- The scheme of an address, in lower case, and what follows its colon. -/
def scheme? (text : List Char) : Option (String × List Char) :=
  let isSchemeChar := fun (c : Char) => c.isAlphanum || ['+', '-', '.'].contains c
  match text.span isSchemeChar with
  | (first :: more, ':' :: rest) =>
    if first.isAlpha then some (String.ofList ((first :: more).map Char.toLower), rest) else none
  | _ => none

/-- Whether a character ends the host of an address. -/
def endsAuthority (kind : SchemeKind) (c : Char) : Bool :=
  ['/', '?', '#'].contains c || (kind != .unknown && c == '\\')

/-- The authority, and what follows it. -/
def splitAuthority (kind : SchemeKind) (text : List Char) : List Char × List Char :=
  text.span (!endsAuthority kind ·)

/-- What follows the last `@`, and whether there is one. -/
def afterUserinfo (authority : List Char) : List Char × Bool :=
  if authority.contains '@' then ((authority.reverse.takeWhile (· != '@')).reverse, true)
  else (authority, false)

/-- The host and what follows it: a colon outside brackets ends the host. -/
def splitHost : Bool → List Char → List Char × List Char
  | _, [] => ([], [])
  | inBrackets, c :: rest =>
    if c = ':' ∧ inBrackets = false then ([], c :: rest)
    else
      let inBrackets := if c = '[' then true else if c = ']' then false else inBrackets
      let (host, after) := splitHost inBrackets rest
      (c :: host, after)

/-- The number behind a host: none, or one of 16 bits after a colon. Nothing after the colon is
none. -/
def portNumber? : List Char → Option (Option Nat)
  | [] => some none
  | ':' :: digits =>
    if digits.all Decimal.isDigit then
      let n := Decimal.digitsValue digits
      if digits.isEmpty then some none else if n < 0x1_0000 then some (some n) else none
    else none
  | _ => none

/-- The host of an authority, and the number behind it. -/
def authority? (kind : SchemeKind) (text : List Char) : Option (Option Host × Option Nat) :=
  let (hostAndPort, hasUserinfo) := afterUserinfo text
  let (host, after) := splitHost false hostAndPort
  if host.isEmpty then
    if kind = .hosted ∨ hasUserinfo ∨ !after.isEmpty then none else some (none, none)
  else do
    let host ← if kind = .unknown then Host.parseOpaque? host else Host.parse? host
    return (some host, ← portNumber? after)

/-! ## Paths -/

/-- A segment that names the directory it stands in. -/
def isSingleDot (segment : List Char) : Bool :=
  [".", "%2e"].contains (String.ofList (segment.map Char.toLower))

def isDoubleDot (segment : List Char) : Bool :=
  ["..", ".%2e", "%2e.", "%2e%2e"].contains (String.ofList (segment.map Char.toLower))

/-- The segments of a path with the dots carried out; the segments so far are given last first. -/
def normalize : List (List Char) → List (List Char) → List (List Char)
  | [], done => done.reverse
  | [last], done =>
    if isDoubleDot last then ([] :: done.tail).reverse
    else if isSingleDot last then ([] :: done).reverse
    else (last :: done).reverse
  | segment :: rest, done =>
    if isDoubleDot segment then normalize rest done.tail
    else if isSingleDot segment then normalize rest done
    else normalize rest (segment :: done)

/-- The path of an address, which starts with a slash. -/
def pathOf (text : List Char) : String :=
  let segments := Text.splitOn '/' (if text.head? = some '/' then text.drop 1 else text)
  let encoded := segments.map (percentEncode isPathEncoded)
  "/" ++ String.ofList (['/'].intercalate (normalize encoded []))

/-- The path and query of what follows the authority. -/
def pathAndQuery (kind : SchemeKind) (text : List Char) : String × Option String :=
  let (path, rest) := (text.takeWhile (· != '#')).span (· != '?')
  let path := if kind = .unknown then path else Text.replaceChar '\\' ['/'] path
  let query := match rest with
    | _ :: query => some (String.ofList (percentEncode isQueryEncoded query))
    | [] => none
  (pathOf path, query)

/-! ## Whole addresses -/

/-- An address whose authority stands at the start of a text. -/
def withAuthority? (scheme : String) (kind : SchemeKind) (text : List Char) : Option Address :=
  let (authority, rest) := splitAuthority kind text
  (authority? kind authority).map fun (host, portNumber) =>
    let (path, query) := pathAndQuery kind rest
    ⟨scheme, host, portNumber, path, query⟩

def withoutHost (scheme : String) (kind : SchemeKind) (text : List Char) : Address :=
  let (path, query) := pathAndQuery kind text
  ⟨scheme, none, none, path, query⟩

/-- A letter and a colon or bar, which name a drive and not a host. -/
def isDriveLetter : List Char → Bool
  | [letter, mark] => letter.isAlpha && (mark == ':' || mark == '|')
  | _ => false

/-- The address of a file. The host is optional, and `localhost` is none. -/
def file? (scheme : String) (text : List Char) : Option Address :=
  let isSlash := fun (c : Char) => c == '/' || c == '\\'
  match text with
  | a :: b :: rest =>
    if isSlash a && isSlash b then
      let (authority, after) := splitAuthority .file rest
      if authority.isEmpty then some (withoutHost scheme .file after)
      else if isDriveLetter authority then some (withoutHost scheme .file rest)
      else
        (Host.parse? authority).map fun host =>
          { withoutHost scheme .file after with
            host := if host = .domain "localhost" then none else some host }
    else some (withoutHost scheme .file text)
  | _ => some (withoutHost scheme .file text)

def parse? (text : String) : Option Address :=
  match scheme? (cleaned text.toList) with
  | none => none
  | some (scheme, rest) =>
    match SchemeKind.of scheme with
    | .hosted => withAuthority? scheme .hosted (rest.dropWhile fun c => c == '/' || c == '\\')
    | .file => file? scheme rest
    | .unknown =>
      match rest with
      | '/' :: '/' :: rest => withAuthority? scheme .unknown rest
      | _ => some (withoutHost scheme .unknown rest)

/-- What a request for an address names: its path and its query. -/
def target (a : Address) : String :=
  a.path ++ match a.query with
    | some query => "?" ++ query
    | none => ""

end Address

end BrowserAct.Url
