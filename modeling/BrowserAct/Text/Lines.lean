import BrowserAct.Text.Blank

/-!
# Small operations on texts

Splitting, replacing and joining over lists of characters, in the forms the rest of the library
needs.
-/

namespace BrowserAct.Text

/-- The pieces of a text between the occurrences of a character; there is always at least one. -/
def splitOn (separator : Char) : List Char → List (List Char)
  | [] => [[]]
  | c :: rest =>
    match splitOn separator rest with
    | [] => [[c]]
    | piece :: pieces =>
      if c = separator then [] :: piece :: pieces else (c :: piece) :: pieces

/-- Every occurrence of a character replaced by a text. -/
def replaceChar (old : Char) (new : List Char) (text : List Char) : List Char :=
  text.flatMap fun c => if c = old then new else [c]

/-- The rest of a text after a given start, if it starts so. -/
def dropStart? : List Char → List Char → Option (List Char)
  | [], text => some text
  | _ :: _, [] => none
  | p :: ps, c :: rest => if p = c then dropStart? ps rest else none

/-- The part of a text before a given end, if it ends so. -/
def dropEnd? (ending text : List Char) : Option (List Char) :=
  (dropStart? ending.reverse text.reverse).map List.reverse

/-- Every line after the first is indented: a line break is followed by the indent. -/
def indentLines (indent : String) (s : String) : String :=
  String.ofList (replaceChar '\n' ('\n' :: indent.toList) s.toList)

@[simp] theorem dropStart?_append (start rest : List Char) :
    dropStart? start (start ++ rest) = some rest := by
  induction start with
  | nil => rfl
  | cons c r ih => simpa [dropStart?] using ih

end BrowserAct.Text
