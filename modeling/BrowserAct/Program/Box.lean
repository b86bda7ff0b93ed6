import BrowserAct.Decimal.Reader
import BrowserAct.Program.ParseError
import BrowserAct.Text.Lines

/-!
# Boxes

The rectangle of an element on the page, written as four numbers between `<box>` tags.
-/

namespace BrowserAct.Program

open Decimal (Binary64)

/-- A rectangle in pixels of the viewport. -/
structure Box where
  top : Binary64
  left : Binary64
  bottom : Binary64
  right : Binary64
deriving DecidableEq

namespace Box

def inner? (text : List Char) : Option (List Char) :=
  (Text.dropStart? "<box>".toList (Text.trim text)).bind (Text.dropEnd? "</box>".toList)

/-- The box of a text: exactly four numbers between commas, blanks around each ignored. -/
def parse (text : String) : Except ParseError Box :=
  let numbers := (inner? text.toList).bind fun inner =>
    (Text.splitOn ',' inner).mapM fun piece => Decimal.parse? (Text.trim piece)
  match numbers with
  | some [top, left, bottom, right] => .ok ⟨top, left, bottom, right⟩
  | _ => .error (.invalidBox text)

/-- The number half way between two others, their sum being rounded first. -/
def middle (a b : Binary64) : Binary64 :=
  (a.add b).div (.ofInt 2)

/-- The centre as `(x, y)`. -/
def center (box : Box) : Binary64 × Binary64 :=
  (middle box.left box.right, middle box.top box.bottom)

end Box

end BrowserAct.Program
