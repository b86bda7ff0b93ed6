/-!
# Blank characters

The characters with the property `White_Space`, and the removal of blanks from the ends of a text.
-/

namespace BrowserAct.Text

/-- The ranges of code points with the property `White_Space`. -/
def blankRanges : List (Nat × Nat) :=
  [(0x9, 0xd), (0x20, 0x20), (0x85, 0x85), (0xa0, 0xa0), (0x1680, 0x1680), (0x2000, 0x200a),
    (0x2028, 0x2029), (0x202f, 0x202f), (0x205f, 0x205f), (0x3000, 0x3000)]

def isBlank (c : Char) : Bool :=
  blankRanges.any fun (low, high) => decide (low ≤ c.toNat) && decide (c.toNat ≤ high)

def trimStart (text : List Char) : List Char :=
  text.dropWhile isBlank

def trimEnd (text : List Char) : List Char :=
  (text.reverse.dropWhile isBlank).reverse

def trim (text : List Char) : List Char :=
  trimEnd (trimStart text)

def trimString (s : String) : String :=
  String.ofList (trim s.toList)

/-! ## Laws -/

/-- A text that starts and ends with other characters than blanks is left alone. -/
theorem trim_eq_self {text : List Char} (first : text.head?.all (!isBlank ·) = true)
    (last : text.getLast?.all (!isBlank ·) = true) : trim text = text := by
  have keep : ∀ l : List Char, l.head?.all (!isBlank ·) = true → l.dropWhile isBlank = l := by
    intro l h
    cases l with
    | nil => rfl
    | cons c r => simp_all [List.dropWhile]
  rw [trim, trimStart, keep text first, trimEnd, keep text.reverse (by simpa using last)]
  simp

end BrowserAct.Text
