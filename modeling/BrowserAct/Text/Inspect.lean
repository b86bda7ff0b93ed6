import BrowserAct.Text.Hexadecimal
import BrowserAct.Text.Visible

/-!
# Texts as diagnostics show them

A text between quotes in which everything that would not show is escaped, so that two different
texts never look alike.
-/

namespace BrowserAct.Text

/-- One character of a shown text; `delimiter` is the quote that must be escaped. -/
def inspectChar (delimiter : Char) (c : Char) : List Char :=
  if c.toNat = 0 then ['\\', '0']
  else if c = '\t' then ['\\', 't']
  else if c = '\r' then ['\\', 'r']
  else if c = '\n' then ['\\', 'n']
  else if c = '\\' ∨ c = delimiter then ['\\', c]
  else if isVisible c then [c]
  else '\\' :: 'u' :: '\x7b' :: Hexadecimal.digits c.toNat ++ ['\x7d']

def inspect (s : String) : String :=
  String.ofList ('"' :: s.toList.flatMap (inspectChar '"') ++ ['"'])

def inspectSingle (c : Char) : String :=
  String.ofList ('\'' :: inspectChar '\'' c ++ ['\''])

end BrowserAct.Text
