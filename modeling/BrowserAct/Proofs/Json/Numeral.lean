import BrowserAct.Json.Printer
import BrowserAct.Json.Reader

/-!
# Numerals

A number is written as a numeral: a sign or none, digits without leading zeros, and maybe a fraction
and an exponent.

* **`Numeral`** are the parts of a numeral, and **`Numeral.text`** is its text.
* **`lexNumber?_text`** says that a numeral is taken off the front of a text as a whole.
* **`exists_numeral_integer`** and **`exists_numeral_float`** say that all numbers are written as
  numerals.
* **`Numeral.value?_ofInt`** says that whole numbers of 64 bits are read as they are written.
-/

namespace BrowserAct.Json

open Decimal (isDigit digitsValue digitChars)

/-! ## The parts of a numeral -/

/-- A text of digits, at least one. -/
def IsDigits (text : List Char) : Prop :=
  text ≠ [] ∧ ∀ c ∈ text, isDigit c = true

/-- A numeral by its parts; of an exponent there is the sign and the digits. -/
structure Numeral where
  negative : Bool
  whole : List Char
  fraction : Option (List Char)
  exponent : Option (Bool × List Char)
  whole_digits : IsDigits whole
  /-- A zero at the start stands alone. -/
  no_leading_zero : whole.head? = some '0' → whole = ['0']
  fraction_digits : ∀ digits ∈ fraction, IsDigits digits
  exponent_digits : ∀ power ∈ exponent, IsDigits power.2

namespace Numeral

def signText (negative : Bool) : List Char :=
  if negative then ['-'] else []

def fractionText : Option (List Char) → List Char
  | none => []
  | some digits => '.' :: digits

def exponentText : Option (Bool × List Char) → List Char
  | none => []
  | some (negative, digits) => 'e' :: (if negative then '-' else '+') :: digits

def text (n : Numeral) : List Char :=
  signText n.negative ++ n.whole ++ fractionText n.fraction ++ exponentText n.exponent

/-- What holds of the digits and of the signs, the point and the letter holds of every character. -/
theorem forall_mem_text {holds : Char → Prop} (digit : ∀ c, isDigit c = true → holds c)
    (sign : holds '-' ∧ holds '+') (point : holds '.') (letter : holds 'e') (n : Numeral) :
    ∀ c ∈ n.text, holds c := by
  intro c hmem
  rw [text, List.mem_append, List.mem_append, List.mem_append] at hmem
  -- the four parts in their order
  rcases hmem with ((hsign | hwhole) | hfraction) | hexponent
  · rw [signText] at hsign
    split at hsign
    · cases List.mem_singleton.mp hsign
      exact sign.1
    · cases hsign
  · exact digit c (n.whole_digits.2 c hwhole)
  · cases hparts : n.fraction with
    | none =>
      rw [hparts] at hfraction
      cases hfraction
    | some digits =>
      rw [hparts] at hfraction
      rcases List.mem_cons.mp hfraction with rfl | hmem
      · exact point
      · exact digit c ((n.fraction_digits digits hparts).2 c hmem)
  · cases hparts : n.exponent with
    | none =>
      rw [hparts] at hexponent
      cases hexponent
    | some power =>
      obtain ⟨negative, digits⟩ := power
      rw [hparts] at hexponent
      rcases List.mem_cons.mp hexponent with rfl | hmem
      · exact letter
      rcases List.mem_cons.mp hmem with rfl | hmem
      · split
        · exact sign.1
        · exact sign.2
      · exact digit c ((n.exponent_digits (negative, digits) hparts).2 c hmem)

theorem text_ne_nil (n : Numeral) : n.text ≠ [] := by
  simp [text, n.whole_digits.1]

/-- A numeral starts with a digit or a sign. -/
theorem exists_start (n : Numeral) :
    ∃ c after, n.text = c :: after ∧ (isDigit c = true ∨ c = '-') := by
  obtain ⟨nonempty, isDigits⟩ := n.whole_digits
  obtain ⟨d, whole, hwhole⟩ := List.exists_cons_of_ne_nil nonempty
  have hdigit : isDigit d = true := isDigits d (hwhole ▸ List.mem_cons_self)
  cases hnegative : n.negative with
  | true => exact ⟨'-', _, by rw [text, hnegative]; rfl, .inr rfl⟩
  | false => exact ⟨d, _, by rw [text, hnegative, hwhole]; rfl, .inl hdigit⟩

/-- The power of ten that an exponent stands for. -/
def power : Bool × List Char → Int
  | (negative, digits) => if negative then -(digitsValue digits : Int) else digitsValue digits

/-- The number that is read from a numeral. -/
def value? (n : Numeral) : Option Json :=
  numberValue? n.negative n.whole n.fraction (n.exponent.map power)

end Numeral

/-! ## Reading a numeral -/

/-- A text that does not go on with a numeral before it. -/
def EndsNumeral (rest : List Char) : Prop :=
  ∀ c ∈ rest.head?, isDigit c = false ∧ c ≠ '.' ∧ c ≠ 'e' ∧ c ≠ 'E'

/-- Digits are taken up to the first character that is none. -/
theorem takeWhile_digits {digits rest : List Char} (isDigits : ∀ c ∈ digits, isDigit c = true)
    (ends : ∀ c ∈ rest.head?, isDigit c = false) :
    (digits ++ rest).takeWhile isDigit = digits ∧ (digits ++ rest).dropWhile isDigit = rest := by
  rw [List.takeWhile_append_of_pos isDigits, List.dropWhile_append_of_pos isDigits]
  cases rest with
  | nil => simp
  | cons c rest =>
    have hc : isDigit c = false := ends c rfl
    simp [hc]

theorem lexWhole?_append (n : Numeral) {rest : List Char}
    (ends : ∀ c ∈ rest.head?, isDigit c = false) :
    lexWhole? (n.whole ++ rest) = some (n.whole, rest) := by
  obtain ⟨nonempty, isDigits⟩ := n.whole_digits
  have hzero := n.no_leading_zero
  cases hwhole : n.whole with
  | nil => exact absurd hwhole nonempty
  | cons c whole =>
    rw [hwhole] at hzero isDigits
    -- a whole part that starts with a zero has no other digit
    by_cases hc : c = '0'
    · subst hc
      cases hzero rfl
      rfl
    · have hdigit : isDigit c = true := isDigits c List.mem_cons_self
      obtain ⟨htake, hdrop⟩ := takeWhile_digits
        (fun d hmem => isDigits d (List.mem_cons_of_mem c hmem)) ends
      rw [List.cons_append, lexWhole?, if_pos hdigit, htake, hdrop]
      simpa using hc

/-- A fraction is taken as a whole, and one that is missing is not made up. -/
theorem lexFraction?_append {fraction : Option (List Char)} {rest : List Char}
    (isDigits : ∀ digits ∈ fraction, IsDigits digits)
    (ends : ∀ c ∈ rest.head?, isDigit c = false ∧ c ≠ '.') :
    lexFraction? (Numeral.fractionText fraction ++ rest) = some (fraction, rest) := by
  cases fraction with
  | none =>
    rw [Numeral.fractionText, List.nil_append, lexFraction?]
    rintro digits rfl
    exact (ends '.' rfl).2 rfl
  | some digits =>
    obtain ⟨nonempty, isDigits⟩ := isDigits digits rfl
    obtain ⟨htake, hdrop⟩ := takeWhile_digits isDigits fun c hc => (ends c hc).1
    rw [Numeral.fractionText, List.cons_append, lexFraction?, htake, hdrop]
    simp [nonempty]

theorem lexExponent?_append {exponent : Option (Bool × List Char)} {rest : List Char}
    (isDigits : ∀ power ∈ exponent, IsDigits power.2) (ends : EndsNumeral rest) :
    lexExponent? (Numeral.exponentText exponent ++ rest) =
      some (exponent.map Numeral.power, rest) := by
  cases exponent with
  | none =>
    rw [Numeral.exponentText, List.nil_append]
    cases rest with
    | nil => rfl
    | cons c rest =>
      -- what follows does not look like an exponent
      obtain ⟨-, -, hlower, hupper⟩ := ends c rfl
      show (if c = 'e' ∨ c = 'E' then _ else some (none, c :: rest)) = _
      rw [if_neg (by simp [hlower, hupper])]
      rfl
  | some power =>
    obtain ⟨negative, digits⟩ := power
    obtain ⟨nonempty, isDigits⟩ := isDigits (negative, digits) rfl
    obtain ⟨htake, hdrop⟩ := takeWhile_digits isDigits fun c hc => (ends c hc).1
    have hempty : digits.isEmpty = false := by simpa using nonempty
    cases negative <;>
    · simp only [Numeral.exponentText, Bool.false_eq_true, if_true, if_false, List.cons_append,
        lexExponent?, true_or, htake, hdrop, hempty]
      rfl

/-- Where a part of a numeral may be left out, what follows it starts with no digit. -/
theorem head?_exponentText (exponent : Option (Bool × List Char)) {rest : List Char}
    (ends : EndsNumeral rest) :
    ∀ c ∈ (Numeral.exponentText exponent ++ rest).head?, isDigit c = false ∧ c ≠ '.' := by
  cases exponent with
  | none => exact fun c hc => ⟨(ends c hc).1, (ends c hc).2.1⟩
  | some power =>
    intro c hc
    cases hc
    decide

/-- What follows the whole part is no digit. -/
theorem head?_fractionText (fraction : Option (List Char)) (exponent : Option (Bool × List Char))
    {rest : List Char} (ends : EndsNumeral rest) :
    ∀ c ∈ (Numeral.fractionText fraction ++ (Numeral.exponentText exponent ++ rest)).head?,
      isDigit c = false := by
  cases fraction with
  | none => exact fun c hc => (head?_exponentText exponent ends c hc).1
  | some digits =>
    intro c hc
    cases hc
    rfl

/-- A number is read part by part once its sign is taken off. -/
theorem lexNumber?_sign (negative : Bool) {unsigned : List Char}
    (noSign : unsigned.head? ≠ some '-') :
    lexNumber? (Numeral.signText negative ++ unsigned) =
      (lexWhole? unsigned).bind fun (whole, afterWhole) =>
        (lexFraction? afterWhole).bind fun (fraction, afterFraction) =>
          (lexExponent? afterFraction).bind fun (exponent, rest) =>
            (numberValue? negative whole fraction exponent).bind fun value => some (value, rest) := by
  cases negative with
  | true => rfl
  | false =>
    show lexNumber? unsigned = _
    rw [lexNumber?]
    · rfl
    · rintro rest rfl
      exact noSign rfl

/-- **A numeral is taken off the front of a text as a whole.** -/
theorem lexNumber?_text (n : Numeral) {rest : List Char} (ends : EndsNumeral rest) :
    lexNumber? (n.text ++ rest) = n.value?.map (·, rest) := by
  have htext : n.text ++ rest = Numeral.signText n.negative ++
      (n.whole ++ (Numeral.fractionText n.fraction ++ (Numeral.exponentText n.exponent ++ rest))) := by
    simp [Numeral.text]
  have hwhole := lexWhole?_append n (head?_fractionText n.fraction n.exponent ends)
  have hfraction := lexFraction?_append n.fraction_digits (head?_exponentText n.exponent ends)
  have hexponent := lexExponent?_append n.exponent_digits ends
  -- part by part, each ended by what comes next
  rw [htext, lexNumber?_sign, Numeral.value?]
  · simp only [hwhole, hfraction, hexponent, Option.bind_some]
    cases numberValue? n.negative n.whole n.fraction (n.exponent.map Numeral.power) <;> rfl
  -- without a sign the text starts with a digit
  · obtain ⟨nonempty, isDigits⟩ := n.whole_digits
    obtain ⟨c, whole, hcons⟩ := List.exists_cons_of_ne_nil nonempty
    rw [hcons, List.cons_append, List.head?_cons]
    intro same
    cases same
    cases isDigits '-' (hcons ▸ List.mem_cons_self)

/-! ## Numbers as numerals -/

/-- The digits are those of the standard library. -/
theorem isDigit_eq (c : Char) : isDigit c = c.isDigit := by
  rw [isDigit, Char.isDigit]
  rfl

/-- Every natural is written in digits. -/
theorem isDigits_digitChars (n : Nat) : IsDigits (digitChars n) := by
  refine ⟨Nat.toDigits_ne_nil, fun c hmem => ?_⟩
  rw [isDigit_eq]
  exact Nat.isDigit_of_mem_toDigits (by decide) (by decide) hmem

/-- Only zero starts with a zero. -/
theorem head?_digitChars {n : Nat} (positive : 0 < n) : (digitChars n).head? ≠ some '0' := by
  rw [digitChars]
  induction n using Nat.strongRecOn with
  | ind n ih =>
    rw [Nat.toDigits_eq_if (by decide)]
    split
    · intro same
      have hdigit := Nat.digitChar_eq_zero.mp (Option.some.inj same)
      omega
    · have hless : n / 10 < n := by omega
      have hpositive : 0 < n / 10 := by omega
      have hfirst := ih (n / 10) hless hpositive
      obtain ⟨c, rest, hcons⟩ := List.exists_cons_of_ne_nil (Nat.toDigits_ne_nil (n := n / 10) (b := 10))
      rw [hcons] at hfirst ⊢
      exact hfirst

/-- Only zero itself is written with a leading zero. -/
theorem digitChars_no_leading_zero (n : Nat) (zero : (digitChars n).head? = some '0') :
    digitChars n = ['0'] := by
  rcases Nat.eq_zero_or_pos n with rfl | positive
  · rfl
  · exact absurd zero (head?_digitChars positive)

/-- The numeral of an integer. -/
def Numeral.ofInt (n : Int) : Numeral where
  negative := decide (n < 0)
  whole := digitChars n.natAbs
  fraction := none
  exponent := none
  whole_digits := isDigits_digitChars n.natAbs
  no_leading_zero := digitChars_no_leading_zero n.natAbs
  fraction_digits := by simp
  exponent_digits := by simp

/-- An integer is written as its numeral. -/
theorem integerChars_eq_text (n : Int) : integerChars n = (Numeral.ofInt n).text := by
  rw [integerChars, Numeral.text]
  split <;> simp_all [Numeral.ofInt, Numeral.signText, Numeral.fractionText, Numeral.exponentText]

/-- Digits stand for the number they were written from. -/
theorem digitsValue_digitChars (n : Nat) : digitsValue (digitChars n) = n :=
  Nat.ofDigitChars_toDigits (b := 10) (n := n) (by decide) (by decide)

/-- More digits make no smaller number. -/
theorem le_ofDigitChars (digits : List Char) (start : Nat) :
    start ≤ Nat.ofDigitChars 10 digits start := by
  rw [Nat.ofDigitChars_eq_ofDigitChars_zero]
  exact Nat.le_add_right_of_le (Nat.le_mul_of_pos_left start (Nat.pow_pos (by decide)))

/-- **Digits are all gathered** where the number they stand for, after what was gathered before, fits into
64 bits. -/
theorem gathered_of_fits {start : Nat} {digits : List Char}
    (fits : Nat.ofDigitChars 10 digits start < 0x1_0000_0000_0000_0000) :
    Gathered.ofDigits start digits =
      ⟨Nat.ofDigitChars 10 digits start, 0, digits.length⟩ := by
  have hrun (taken : Nat) : digits.foldl Gathered.push ⟨start, 0, taken⟩ =
      ⟨Nat.ofDigitChars 10 digits start, 0, taken + digits.length⟩ := by
    induction digits generalizing start taken with
    | nil => rfl
    | cons c digits ih =>
      have hdigit : 10 * start + digitsValue [c] = 10 * start + (c.toNat - '0'.toNat) := by
        rw [digitsValue, List.foldl_cons, List.foldl_nil, Nat.mul_zero, Nat.zero_add]
      -- the digits left do not make the number smaller, so this much of it fits as well
      have hnext : 10 * start + digitsValue [c] < 0x1_0000_0000_0000_0000 :=
        Nat.lt_of_le_of_lt (hdigit ▸ le_ofDigitChars digits _) fits
      rw [List.foldl_cons, Gathered.push, if_pos ⟨rfl, hnext⟩, hdigit, ih fits, List.length_cons]
      simp only [Gathered.mk.injEq, true_and]
      exact ⟨rfl, by omega⟩
  rw [Gathered.ofDigits, hrun, Nat.zero_add]

/-- **Whole numbers of 64 bits are read as they are written.** -/
theorem Numeral.value?_ofInt {n : Int}
    (fits : -0x8000_0000_0000_0000 ≤ n ∧ n < 0x1_0000_0000_0000_0000) :
    (ofInt n).value? = some (.integer n) := by
  have hdigits : Nat.ofDigitChars 10 (digitChars n.natAbs) 0 = n.natAbs :=
    digitsValue_digitChars n.natAbs
  have hfits : Nat.ofDigitChars 10 (digitChars n.natAbs) 0 < 0x1_0000_0000_0000_0000 := by omega
  have hgathered := gathered_of_fits hfits
  show numberValue? (decide (n < 0)) (digitChars n.natAbs) none none = _
  rw [numberValue?, hgathered, hdigits]
  dsimp only
  rw [if_neg (Nat.lt_irrefl 0)]
  -- the two bounds are those of the signed and of the unsigned integers
  by_cases negative : n < 0
  · have hin : ¬ (n.natAbs = 0 ∨ 0x8000_0000_0000_0000 < n.natAbs) := by omega
    have hvalue : -(n.natAbs : Int) = n := by omega
    rw [decide_eq_true negative, if_neg (by simp), if_neg hin, hvalue]
  · have hvalue : (n.natAbs : Int) = n := by omega
    rw [decide_eq_false negative, Bool.not_false, if_pos rfl, hvalue]

/-! ## Digits with a point -/

theorem isDigits_append {first second : List Char} (isDigits : ∀ c ∈ first, isDigit c = true)
    (isDigits' : ∀ c ∈ second, isDigit c = true) (nonempty : first ++ second ≠ []) :
    IsDigits (first ++ second) :=
  ⟨nonempty, fun c hmem => (List.mem_append.mp hmem).elim (isDigits c) (isDigits' c)⟩

theorem isDigit_zeros (count : Nat) : ∀ c ∈ List.replicate count '0', isDigit c = true := by
  intro c hmem
  rw [List.eq_of_mem_replicate hmem]
  rfl

/-- The first digits, as long as there are some. -/
theorem isDigits_take {digits : List Char} (isDigits : IsDigits digits) {count : Nat}
    (positive : 0 < count) : IsDigits (digits.take count) := by
  refine ⟨?_, fun c hmem => isDigits.2 c (List.mem_of_mem_take hmem)⟩
  have hlength := List.length_pos_iff.mpr isDigits.1
  rw [← List.length_pos_iff, List.length_take]
  omega

theorem isDigits_drop {digits : List Char} (isDigits : IsDigits digits) {count : Nat}
    (less : count < digits.length) : IsDigits (digits.drop count) := by
  refine ⟨?_, fun c hmem => isDigits.2 c (List.mem_of_mem_drop hmem)⟩
  rw [← List.length_pos_iff, List.length_drop]
  omega

theorem head?_take {digits : List Char} {count : Nat} (positive : 0 < count) :
    (digits.take count).head? = digits.head? := by
  obtain ⟨count, rfl⟩ := Nat.exists_eq_add_one.mpr positive
  cases digits <;> rfl

/-- The digits of a number with a point among, after or before them are a numeral without an exponent.
Before the point stand the digits up to there, or a zero. -/
theorem exists_numeral_positional (negative : Bool) {n : Nat} {power : Int}
    (scaled : 0 < n ∨ power = 0) :
    ∃ numeral : Numeral, Numeral.signText negative ++
        Decimal.Layout.positional (digitChars n) power = numeral.text ∧
      numeral.exponent = none ∧
      (numeral.whole.length : Int) ≤ max 1 ((digitChars n).length + power) := by
  have isDigits := isDigits_digitChars n
  have hlength := List.length_pos_iff.mpr isDigits.1
  rw [Decimal.Layout.positional]
  split
  · -- zeros fill the places up to the point, and zero itself needs none
    refine ⟨⟨negative, digitChars n ++ List.replicate power.toNat '0', some ['0'], none,
      isDigits_append isDigits.2 (isDigit_zeros _) (by simp [isDigits.1]), ?_, ?_, by simp⟩, ?_,
      rfl, ?_⟩
    · intro zero
      rw [List.head?_append, Option.or_of_isSome (List.isSome_head?.mpr isDigits.1)] at zero
      have hn : ¬ 0 < n := fun positive => head?_digitChars positive zero
      rw [digitChars_no_leading_zero n zero, scaled.resolve_left hn]
      rfl
    · rintro _ ⟨⟩
      exact ⟨by simp, isDigit_zeros 1⟩
    · simp [Numeral.text, Numeral.fractionText, Numeral.exponentText]
    · rw [List.length_append, List.length_replicate]
      omega
  rename_i before
  have positive : 0 < n := scaled.resolve_right fun zero => before (Int.le_of_eq zero.symm)
  split
  -- the point stands among the digits
  · rename_i among
    refine ⟨⟨negative, (digitChars n).take ((digitChars n).length + power).toNat,
      some ((digitChars n).drop ((digitChars n).length + power).toNat), none,
      isDigits_take isDigits (by omega), ?_, ?_, by simp⟩, ?_, rfl, ?_⟩
    · rw [head?_take (by omega)]
      exact fun zero => absurd zero (head?_digitChars positive)
    · rintro _ ⟨⟩
      exact isDigits_drop isDigits (by omega)
    · simp [Numeral.text, Numeral.fractionText, Numeral.exponentText]
    · rw [List.length_take]
      omega
  -- the point stands before them, with zeros between
  · refine ⟨⟨negative, ['0'],
      some (List.replicate (-((digitChars n).length + power)).toNat '0' ++ digitChars n), none,
      ⟨by simp, isDigit_zeros 1⟩, fun _ => rfl, ?_, by simp⟩, ?_, rfl, Int.le_max_left ..⟩
    · rintro _ ⟨⟩
      exact isDigits_append (isDigit_zeros _) isDigits.2 (by simp [isDigits.1])
    · simp [Numeral.text, Numeral.fractionText, Numeral.exponentText]

/-- And so are the digits with a power of ten, the first of them before the point. -/
theorem exists_numeral_scientific (negative : Bool) (n : Nat) (lead : Int) :
    ∃ numeral : Numeral, Numeral.signText negative ++
        Decimal.Layout.scientific (digitChars n) lead = numeral.text ∧
      numeral.whole ++ numeral.fraction.getD [] = digitChars n ∧ numeral.whole.length = 1 ∧
      numeral.exponent.map Numeral.power = some lead := by
  have isDigits := isDigits_digitChars n
  generalize digitChars n = digits at isDigits
  obtain ⟨first, fraction, rfl⟩ := List.exists_cons_of_ne_nil isDigits.1
  -- one digit before the point, and no point without digits behind it
  refine ⟨⟨negative, [first], if fraction.isEmpty then none else some fraction,
    some (decide (lead < 0), digitChars lead.natAbs), ?_, ?_, ?_, ?_⟩, ?_, ?_, rfl, ?_⟩
  · exact ⟨by simp, fun c hmem => isDigits.2 c (List.mem_of_mem_take (i := 1) hmem)⟩
  · rintro ⟨⟩
    rfl
  · intro digits hmem
    split at hmem
    · cases hmem
    · rename_i nonempty
      cases hmem
      exact ⟨by simpa using nonempty, fun c hmem => isDigits.2 c (List.mem_cons_of_mem first hmem)⟩
  · rintro _ ⟨⟩
    exact isDigits_digitChars _
  · rw [Decimal.Layout.scientific]
    cases fraction <;> by_cases lead < 0 <;>
      simp_all [Numeral.text, Numeral.fractionText, Numeral.exponentText]
  · cases fraction <;> rfl
  · simp only [Option.map_some, Numeral.power, digitsValue_digitChars, decide_eq_true_eq,
      Option.some.injEq]
    split <;> omega

/-! ## The shortest digits of a number -/

/-- Trimming zeros makes neither zero of a number nor a number of zero. -/
theorem trim_scaled (digits : Nat) (power : Int) (scaled : 0 < digits ∨ power = 0) :
    0 < (Decimal.Scaled.trim digits power).digits ∨ (Decimal.Scaled.trim digits power).power = 0 := by
  fun_induction Decimal.Scaled.trim digits power with
  | case1 digits power trimmed ih => exact ih (.inl (by omega))
  | case2 digits power _ => exact scaled

/-- A hit in the interval is above zero. -/
theorem onGrid_positive {interval : Decimal.Binary64.Interval} {power : Int}
    {found : Decimal.Scaled} (hit : interval.onGrid power = some found) : 0 < found.digits := by
  rw [Decimal.Binary64.Interval.onGrid] at hit
  -- whichever neighbour is preferred, neither is taken without digits
  generalize hgrid : (if power < 0 then (interval.value * Nat.pow 10 (-power).toNat, interval.den)
    else (interval.value, interval.den * Nat.pow 10 power.toNat)) = grid at hit
  obtain ⟨n, d⟩ := grid
  dsimp only at hit
  grind

/-- The shortest digits are those of a number above zero, or zero itself. -/
theorem shortest_scaled (x : Decimal.Binary64) : 0 < x.shortest.digits ∨ x.shortest.power = 0 := by
  rw [Decimal.Binary64.shortest]
  refine trim_scaled _ _ ?_
  generalize hgrids : List.findSome? _ _ = found
  cases found with
  | none => exact .inr rfl
  | some found =>
    obtain ⟨power, -, hit⟩ := List.exists_of_findSome?_eq_some hgrids
    exact .inl (onGrid_positive hit)

/-- **A number with a point or an exponent is written as a numeral.** -/
theorem exists_numeral_float (x : Decimal.Binary64) :
    ∃ numeral : Numeral, numberLayout.write x = numeral.text := by
  rw [Decimal.Layout.write, ← Numeral.signText]
  split
  · obtain ⟨numeral, htext, -⟩ := exists_numeral_positional x.isNegative (n := 0) (.inr rfl)
    exact ⟨numeral, htext⟩
  · dsimp only
    split
    · obtain ⟨numeral, htext, -⟩ := exists_numeral_positional x.isNegative (shortest_scaled x)
      exact ⟨numeral, htext⟩
    · obtain ⟨numeral, htext, -⟩ := exists_numeral_scientific x.isNegative x.shortest.digits _
      exact ⟨numeral, htext⟩

theorem exists_numeral_integer (n : Int) : ∃ numeral : Numeral, integerChars n = numeral.text :=
  ⟨.ofInt n, integerChars_eq_text n⟩

end BrowserAct.Json
