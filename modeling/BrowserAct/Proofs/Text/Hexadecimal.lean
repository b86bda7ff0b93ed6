import BrowserAct.Text.Hexadecimal

/-!
# Reading hexadecimal

A text is read as bytes exactly if it is what is written of these bytes, up to the case of its letters.

* **`digitValue?_eq_some_iff`** is one digit, **`decodePairs_eq_ok_iff`** the pairs of digits in the bytes
  of a text.
* **`decode_eq_ok_iff`** is a whole text, of whatever characters.
* **`exists_encode_iff`** says which texts are read at all.
-/

namespace BrowserAct.Text.Hexadecimal

/-! ## Digits -/

/-- Only letters of the small alphabet have another case. -/
theorem toLower_of_large {c : Char} (large : 128 ≤ c.toNat) : c.toLower = c := by
  have hlarge : ¬ (c.val ≥ 'A'.val ∧ c.val ≤ 'Z'.val) := by
    rintro ⟨-, hle⟩
    have hle' : c.toNat ≤ 90 := UInt32.le_iff_toNat_le.mp hle
    omega
  exact dif_neg hlarge

theorem digitChar_small {n : Nat} (h : n < 16) : (digitChar n).toNat < 128 := by
  have table : ∀ n, n < 16 → (digitChar n).toNat < 128 := by decide
  exact table n h

/-- No other character becomes a digit in lower case. -/
theorem toLower_ne_digitChar {c : Char} (large : 128 ≤ c.toNat) {n : Nat} (h : n < 16) :
    c.toLower ≠ digitChar n := by
  intro same
  have hsmall := digitChar_small h
  rw [← same, toLower_of_large large] at hsmall
  omega

/-- A character that is no digit has no value. -/
theorem digitValue?_of_large {c : Char} (large : 128 ≤ c.toNat) : digitValue? c = none := by
  have hbetween (low high : Char) (hhigh : high.toNat < 128) : ¬ (low ≤ c ∧ c ≤ high) := by
    rintro ⟨-, hle⟩
    have hle' : c.toNat ≤ high.toNat := UInt32.le_iff_toNat_le.mp hle
    omega
  rw [digitValue?, if_neg (hbetween '0' '9' (by decide)), if_neg (hbetween 'a' 'f' (by decide)),
    if_neg (hbetween 'A' 'F' (by decide))]

/-- A character has a value exactly if it is the digit of this value, in either case. -/
theorem digitValue?_eq_some_iff {c : Char} {n : Nat} :
    digitValue? c = some n ↔ n < 16 ∧ c.toLower = digitChar n := by
  by_cases hsmall : c.toNat < 128
  · have table : ∀ k, k < 128 → (∀ v, v < 16 →
        (digitValue? (Char.ofNat k) = some v ↔ (Char.ofNat k).toLower = digitChar v)) ∧
          ∀ v ∈ digitValue? (Char.ofNat k), v < 16 := by decide +kernel
    obtain ⟨heach, hbound⟩ := table c.toNat hsmall
    rw [Char.ofNat_toNat] at heach hbound
    constructor
    · intro found
      exact ⟨hbound n found, (heach n (hbound n found)).mp found⟩
    · rintro ⟨hn, hlower⟩
      exact (heach n hn).mpr hlower
  -- the table ends here; all digits are in it
  · have hlarge := Nat.le_of_not_lt hsmall
    rw [digitValue?_of_large hlarge]
    constructor
    · intro found
      cases found
    · rintro ⟨hn, hlower⟩
      exact absurd hlower (toLower_ne_digitChar hlarge hn)

/-! ## Pairs of digits -/

/-- What a byte of a text is in lower case, as a character. -/
def lowered (byte : UInt8) : Char :=
  (Char.ofNat byte.toNat).toLower

theorem encode_cons (b : UInt8) (rest : List UInt8) :
    encode (b :: rest) = digitChar (b.toNat / 16) :: digitChar (b.toNat % 16) :: encode rest :=
  rfl

/-- Two digits for each byte. -/
theorem length_encode (bytes : List UInt8) : (encode bytes).length = 2 * bytes.length := by
  induction bytes with
  | nil => rfl
  | cons b rest ih =>
    rw [encode_cons, List.length_cons, List.length_cons, List.length_cons, ih]
    omega

/-- The two halves of a byte make that byte. -/
theorem ofNat_halves (b : UInt8) : UInt8.ofNat (16 * (b.toNat / 16) + b.toNat % 16) = b := by
  have hhalves : 16 * (b.toNat / 16) + b.toNat % 16 = b.toNat := Nat.div_add_mod _ _
  rw [hhalves, UInt8.ofNat_toNat]

theorem toNat_halves {high low : Nat} (hhigh : high < 16) (hlow : low < 16) :
    (UInt8.ofNat (16 * high + low)).toNat = 16 * high + low :=
  UInt8.toNat_ofNat_of_lt' (by show 16 * high + low < 256; omega)

/-- **The pairs of digits** are read as bytes exactly if, in lower case, they are what is written of
these bytes. -/
theorem decodePairs_eq_ok_iff {position : Nat} {text bytes : List UInt8} :
    decodePairs position text = .ok bytes ↔ text.map lowered = encode bytes := by
  match text with
  | [] =>
    rw [decodePairs, List.map_nil]
    cases bytes <;> simp [encode, encodeByte]
  | [a] =>
    -- a digit that is left over is half a byte
    have hodd (same : [a].map lowered = encode bytes) : False := by
      have hlength := congrArg List.length same
      rw [length_encode, List.length_map, List.length_singleton] at hlength
      omega
    rw [decodePairs]
    constructor
    · intro found
      cases found
    · intro same
      exact (hodd same).elim
  | a :: b :: rest =>
    rw [decodePairs]
    constructor
    · intro found
      split at found
      · cases found
      · cases found
      · rename_i high low hhigh hlow
        obtain ⟨hhigh, ha⟩ := digitValue?_eq_some_iff.mp hhigh
        obtain ⟨hlow, hb⟩ := digitValue?_eq_some_iff.mp hlow
        -- two digits make a byte, and the rest is read on its own
        cases hrest : decodePairs (position + 2) rest with
        | error cause =>
          rw [hrest] at found
          cases found
        | ok later =>
          rw [hrest] at found
          cases found
          rw [List.map_cons, List.map_cons, decodePairs_eq_ok_iff.mp hrest, encode_cons,
            toNat_halves hhigh hlow, lowered, ha, lowered, hb]
          congr 2 <;> congr 1 <;> omega
    · intro same
      cases bytes with
      | nil => cases same
      | cons byte later =>
        rw [List.map_cons, List.map_cons, encode_cons, List.cons.injEq, List.cons.injEq] at same
        obtain ⟨ha, hb, hrest⟩ := same
        have hbyte := byte.toNat_lt
        have hhigh := digitValue?_eq_some_iff.mpr ⟨(by omega : byte.toNat / 16 < 16), ha⟩
        have hlow := digitValue?_eq_some_iff.mpr ⟨(by omega : byte.toNat % 16 < 16), hb⟩
        dsimp only
        rw [hhigh, hlow]
        dsimp only
        rw [decodePairs_eq_ok_iff.mpr hrest, ofNat_halves]
        rfl

/-! ## Texts -/

/-- A small character is one byte, which it is the character of. -/
theorem utf8EncodeChar_of_small {c : Char} (small : c.toNat < 128) :
    String.utf8EncodeChar c = [UInt8.ofNat c.toNat] := by
  rw [String.utf8EncodeChar]
  exact if_pos (Nat.le_of_lt_succ small)

theorem lowered_of_small {c : Char} (small : c.toNat < 128) :
    lowered (UInt8.ofNat c.toNat) = c.toLower := by
  have hbyte : (UInt8.ofNat c.toNat).toNat = c.toNat :=
    UInt8.toNat_ofNat_of_lt' (Nat.lt_trans small (by decide))
  rw [lowered, hbyte, Char.ofNat_toNat]

/-- A byte of another character stays large. -/
theorem lowered_of_large {byte : UInt8} (large : 128 ≤ byte.toNat) : 128 ≤ (lowered byte).toNat := by
  have hvalid : byte.toNat.isValidChar := .inl (Nat.lt_trans byte.toNat_lt (by decide))
  have hbyte : (Char.ofNat byte.toNat).toNat = byte.toNat := by
    rw [Char.ofNat, dif_pos hvalid]
    rfl
  have hlarge : 128 ≤ (Char.ofNat byte.toNat).toNat := Nat.le_trans large (Nat.le_of_eq hbyte.symm)
  rw [lowered, toLower_of_large hlarge]
  exact hlarge

/-- Any other character starts with a byte that is no digit. -/
theorem utf8EncodeChar_of_large {c : Char} (large : 128 ≤ c.toNat) :
    ∃ first others, String.utf8EncodeChar c = first :: others ∧ 128 ≤ (lowered first).toNat := by
  have hfirst (n base : Nat) (hbase : 128 ≤ base) (hbyte : n + base < 256) :
      128 ≤ (lowered (UInt8.ofNat (n + base))).toNat := by
    refine lowered_of_large ?_
    rw [UInt8.toNat_ofNat_of_lt' hbyte]
    omega
  have hmany : ¬ c.val.toNat ≤ 127 := Nat.not_le_of_lt large
  rw [String.utf8EncodeChar, if_neg hmany]
  split
  · exact ⟨_, _, rfl, hfirst _ 192 (by decide) (by omega)⟩
  split
  · exact ⟨_, _, rfl, hfirst _ 224 (by decide) (by omega)⟩
  · exact ⟨_, _, rfl, hfirst _ 240 (by decide) (by omega)⟩

/-- Small characters are in the bytes of a text exactly where they are in the text. -/
theorem map_lowered_eq_iff {text digits : List Char} (small : ∀ d ∈ digits, d.toNat < 128) :
    (text.flatMap String.utf8EncodeChar).map lowered = digits ↔ text.map Char.toLower = digits := by
  induction text generalizing digits with
  | nil => rfl
  | cons c rest ih =>
    rw [List.flatMap_cons, List.map_append, List.map_cons]
    by_cases hsmall : c.toNat < 128
    · rw [utf8EncodeChar_of_small hsmall, List.map_singleton, lowered_of_small hsmall,
        List.singleton_append]
      cases digits with
      | nil => simp
      | cons d digits =>
        rw [List.cons.injEq, List.cons.injEq, ih (List.forall_mem_cons.mp small).2]
    -- neither the character nor its first byte is small, so neither side holds
    · have hlarge := Nat.le_of_not_lt hsmall
      obtain ⟨first, others, hbytes, hfirst⟩ := utf8EncodeChar_of_large hlarge
      rw [hbytes, List.map_cons, List.cons_append]
      cases digits with
      | nil => simp
      | cons d digits =>
        have hd : d.toNat < 128 := (List.forall_mem_cons.mp small).1
        constructor
        · intro same
          rw [(List.cons.inj same).1] at hfirst
          omega
        · intro same
          rw [← (List.cons.inj same).1, toLower_of_large hlarge] at hd
          omega

theorem encode_small (bytes : List UInt8) : ∀ d ∈ encode bytes, d.toNat < 128 := by
  intro d hmem
  obtain ⟨b, -, hdigit⟩ := List.mem_flatMap.mp hmem
  have hb := b.toNat_lt
  simp only [encodeByte, List.mem_cons, List.not_mem_nil, or_false] at hdigit
  rcases hdigit with rfl | rfl <;> exact digitChar_small (by omega)

/-- **A text is read as bytes** exactly if, in lower case, it is what is written of these bytes. -/
theorem decode_eq_ok_iff {text : String} {bytes : List UInt8} :
    decode text = .ok bytes ↔ text.toList.map Char.toLower = encode bytes := by
  have hutf8 : text.toUTF8.data.toList = text.toList.flatMap String.utf8EncodeChar := by
    show text.toByteArray.data.toList = _
    rw [← String.utf8Encode_toList, List.utf8Encode, List.toList_data_toByteArray]
  rw [← map_lowered_eq_iff (encode_small bytes), decode, hutf8]
  -- an odd number of digits is never the text of bytes
  split
  · rename_i hodd
    constructor
    · intro found
      cases found
    · intro same
      have hlength := congrArg List.length same
      rw [length_encode, List.length_map] at hlength
      omega
  · exact decodePairs_eq_ok_iff

/-! ## Texts of digits -/

/-- A digit, in either case. -/
def IsDigit (c : Char) : Prop :=
  ('0' ≤ c ∧ c ≤ '9') ∨ ('a' ≤ c ∧ c ≤ 'f') ∨ ('A' ≤ c ∧ c ≤ 'F')

/-- A digit is one of the sixteen, in either case. -/
theorem isDigit_iff {c : Char} : IsDigit c ↔ ∃ n < 16, c.toLower = digitChar n := by
  have hvalue : IsDigit c ↔ ∃ n, digitValue? c = some n := by
    rw [IsDigit, digitValue?]
    split
    · simp [*]
    split
    · simp [*]
    split
    · simp [*]
    · simp [*]
  simp only [hvalue, digitValue?_eq_some_iff]

/-- What is written is in lower case. -/
theorem map_toLower_encode (bytes : List UInt8) : (encode bytes).map Char.toLower = encode bytes := by
  have table : ∀ n, n < 16 → (digitChar n).toLower = digitChar n := by decide
  induction bytes with
  | nil => rfl
  | cons b rest ih =>
    have hb := b.toNat_lt
    rw [encode_cons, List.map_cons, List.map_cons, ih, table _ (by omega), table _ (by omega)]

/-- **Which texts are read as so many bytes**: those of two digits for each. -/
theorem exists_encode_iff {text : List Char} {n : Nat} :
    (∃ bytes, bytes.length = n ∧ text.map Char.toLower = encode bytes) ↔
      text.length = 2 * n ∧ ∀ c ∈ text, IsDigit c := by
  constructor
  · rintro ⟨bytes, rfl, same⟩
    refine ⟨by rw [← length_encode, ← same, List.length_map], fun c hmem => ?_⟩
    have hlower : c.toLower ∈ encode bytes := same ▸ List.mem_map_of_mem hmem
    obtain ⟨b, -, hdigit⟩ := List.mem_flatMap.mp hlower
    have hb := b.toNat_lt
    simp only [encodeByte, List.mem_cons, List.not_mem_nil, or_false] at hdigit
    rcases hdigit with hdigit | hdigit
    · exact isDigit_iff.mpr ⟨b.toNat / 16, by omega, hdigit⟩
    · exact isDigit_iff.mpr ⟨b.toNat % 16, by omega, hdigit⟩
  · rintro ⟨hlength, digits⟩
    induction n generalizing text with
    | zero =>
      obtain rfl := List.length_eq_zero_iff.mp hlength
      exact ⟨[], rfl, rfl⟩
    | succ n ih =>
      match text with
      | [] => cases hlength
      | [_] =>
        rw [List.length_singleton] at hlength
        omega
      | a :: b :: rest =>
        obtain ⟨ha, digits⟩ := List.forall_mem_cons.mp digits
        obtain ⟨hb, digits⟩ := List.forall_mem_cons.mp digits
        -- two digits at a time, as they are written
        obtain ⟨high, hhigh, ha⟩ := isDigit_iff.mp ha
        obtain ⟨low, hlow, hb⟩ := isDigit_iff.mp hb
        rw [List.length_cons, List.length_cons] at hlength
        obtain ⟨bytes, hbytes, hrest⟩ := ih (by omega) digits
        refine ⟨UInt8.ofNat (16 * high + low) :: bytes, by rw [List.length_cons, hbytes], ?_⟩
        rw [List.map_cons, List.map_cons, encode_cons, toNat_halves hhigh hlow, ha, hb, hrest]
        congr 2 <;> congr 1 <;> omega

end BrowserAct.Text.Hexadecimal
