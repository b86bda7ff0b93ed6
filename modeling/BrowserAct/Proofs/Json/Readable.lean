import BrowserAct.Proofs.Json.Float
import BrowserAct.Proofs.Json.RoundTrip

/-!
# What was read can be read again

A value that came from a text is written as a text that is read again: its numbers are of 64 bits or
finite, its keys are in order, each once, and it is nested no deeper than the reader goes.

* **`Readable`** says so of a value.
* **`Reader.step_readable`** says that the machine keeps to it with every token.
* **`readable_of_parseWithin`** says that what is read of a text is readable.
* **`Readable.exists_object`** says what an object is when it is read again.
-/

namespace BrowserAct.Json

/-! ## Fields in order -/

namespace Fields

/-- Fields in key order, each key once. -/
def Sorted (fields : Fields) : Prop :=
  (fields.map Prod.fst).Pairwise (· < ·)

/-- Keys in strict order do not repeat. -/
theorem Sorted.nodup {fields : Fields} (sorted : fields.Sorted) : (fields.map Prod.fst).Nodup :=
  sorted.imp String.ne_of_lt

/-- What is in a record after a field was set is that field or was there before. -/
theorem mem_insert {fields : Fields} {key : String} {value : Json} {field : String × Json}
    (mem : field ∈ fields.insert key value) : field = (key, value) ∨ field ∈ fields := by
  induction fields with
  | nil => exact .inl (List.mem_singleton.mp mem)
  | cons first rest ih =>
    obtain ⟨k, v⟩ := first
    rw [insert] at mem
    -- the field is set before the first one, in its place, or behind it
    split at mem
    · exact List.mem_cons.mp mem
    split at mem
    · rcases List.mem_cons.mp mem with same | later
      · exact .inl same
      · exact .inr (List.mem_cons_of_mem _ later)
    · rcases List.mem_cons.mp mem with same | later
      · exact .inr (same ▸ List.mem_cons_self)
      · exact (ih later).imp_right (List.mem_cons_of_mem _)

/-- A record is in order where its first key comes first and the rest is in order. -/
theorem sorted_cons {field : String × Json} {fields : Fields} :
    Sorted (field :: fields) ↔ (∀ later ∈ fields, field.1 < later.1) ∧ fields.Sorted := by
  rw [Sorted, List.map_cons, List.pairwise_cons]
  exact and_congr_left' List.forall_mem_map

/-- Setting a key keeps the order. -/
theorem Sorted.insert {fields : Fields} (sorted : fields.Sorted) (key : String) (value : Json) :
    (fields.insert key value).Sorted := by
  induction fields with
  | nil => exact List.pairwise_singleton _ _
  | cons first rest ih =>
    obtain ⟨k, v⟩ := first
    obtain ⟨before, hrest⟩ := sorted_cons.mp sorted
    rw [Fields.insert]
    split
    · rename_i first
      refine sorted_cons.mpr ⟨fun later hmem => ?_, sorted⟩
      rcases List.mem_cons.mp hmem with rfl | hmem
      · exact first
      · exact String.lt_trans first (before later hmem)
    split
    · rename_i same
      subst same
      exact sorted_cons.mpr ⟨before, hrest⟩
    · rename_i notFirst notSame
      -- the key is not the first and not the same, so it comes later
      have hafter : k < key := by
        by_contra notAfter
        exact notSame (String.le_antisymm (String.not_lt.mp notAfter) (String.not_lt.mp notFirst))
      refine sorted_cons.mpr ⟨fun later hmem => ?_, ih hrest⟩
      rcases mem_insert hmem with rfl | hmem
      · exact hafter
      · exact before later hmem

end Fields

/-! ## Readable values -/

/-- A value that can be read back, with the keys in order if it is an object. -/
structure Readable (limit : ℕ) (value : Json) : Prop where
  readBack : ∃ found, value.readBack? limit = some found
  sorted : ∀ fields, value = .object fields → Fields.Sorted fields

/-- Numbers are readable, however deep they stand. -/
theorem IsNumber.readable {value : Json} (number : IsNumber value) (limit : ℕ) :
    Readable limit value := by
  refine ⟨?_, ?_⟩
  · cases value with
    | integer n => exact ⟨.integer n, readBack?_integer number limit⟩
    | float x => exact exists_number number
    | _ => exact number.elim
  · rintro fields rfl
    exact number.elim

section

variable {limit depth : ℕ} (deep : depth < limit)
include deep

/-- An array is readable where its items are, one level deeper. -/
theorem readable_array {items : List Json}
    (readable : ∀ item ∈ items, Readable (limit - (depth + 1)) item) :
    Readable (limit - depth) (.array items) := by
  have hlevel : limit - depth = limit - (depth + 1) + 1 := by omega
  have hitems : ∃ found, readBackItems? items (limit - (depth + 1)) = some found := by
    induction items with
    | nil => exact ⟨[], rfl⟩
    | cons item items ih =>
      obtain ⟨first, readable⟩ := List.forall_mem_cons.mp readable
      obtain ⟨v, hv⟩ := first.readBack
      obtain ⟨found, hfound⟩ := ih readable
      exact ⟨v :: found, by rw [readBackItems?, hv, hfound]; rfl⟩
  obtain ⟨found, hfound⟩ := hitems
  exact ⟨⟨.array found, by rw [hlevel, readBack?, hfound]; rfl⟩, by simp⟩

/-- And an object in key order where its values are. -/
theorem readable_object {fields : Fields} (sorted : fields.Sorted)
    (readable : ∀ field ∈ fields, Readable (limit - (depth + 1)) field.2) :
    Readable (limit - depth) (.object fields) := by
  have hlevel : limit - depth = limit - (depth + 1) + 1 := by omega
  refine ⟨hlevel ▸ exists_readBack_object fun field mem => (readable field mem).readBack, ?_⟩
  rintro _ ⟨⟩
  exact sorted

end

/-! ## Readable tokens -/

/-- What is read as a number is one. -/
theorem isNumber_of_lexNumber? {text rest : List Char} {value : Json}
    (taken : lexNumber? text = some (value, rest)) : IsNumber value := by
  rw [lexNumber?.eq_def] at taken
  split at taken
  obtain ⟨_, -, taken⟩ := Option.bind_eq_some_iff.mp taken
  obtain ⟨_, -, taken⟩ := Option.bind_eq_some_iff.mp taken
  obtain ⟨_, -, taken⟩ := Option.bind_eq_some_iff.mp taken
  obtain ⟨_, found, same⟩ := Option.bind_eq_some_iff.mp taken
  cases same
  exact numberValue?_spec found

/-- A token whose value, if it has one, is readable. -/
def Token.Readable : Token → Prop
  | .scalar value => ∀ limit, Json.Readable limit value
  | _ => True

/-- Every token that is read can be read again. -/
theorem readable_of_lexToken? {text rest : List Char} {token : Token}
    (taken : lexToken? text = some (token, rest)) : token.Readable := by
  rw [lexToken?.eq_def] at taken
  split at taken
  case h_10 =>
    obtain ⟨_, -, same⟩ := Option.map_eq_some_iff.mp taken
    cases same
    trivial
  -- numbers are the only tokens with a condition
  case h_11 =>
    obtain ⟨_, hnumber, same⟩ := Option.map_eq_some_iff.mp taken
    cases same
    exact (isNumber_of_lexNumber? hnumber).readable
  all_goals
    cases taken
    first
      | trivial
      | exact fun _ => ⟨⟨_, rfl⟩, by simp⟩

theorem readable_of_lexRounds {rounds : ℕ} {text : List Char} {tokens : List Token}
    (found : lexRounds rounds text = some tokens) : ∀ token ∈ tokens, token.Readable := by
  induction rounds generalizing text tokens with
  | zero =>
    rw [lexRounds] at found
    split at found <;> cases found
    exact fun _ mem => absurd mem List.not_mem_nil
  | succ rounds ih =>
    rw [lexRounds] at found
    -- only blanks are left, or there is one more token
    split at found
    · cases found
      exact fun _ mem => absurd mem List.not_mem_nil
    · obtain ⟨⟨token, rest⟩, htoken, found⟩ := Option.bind_eq_some_iff.mp found
      obtain ⟨later, hlater, same⟩ := Option.bind_eq_some_iff.mp found
      cases same
      exact List.forall_mem_cons.mpr ⟨readable_of_lexToken? htoken, ih hlater⟩

/-! ## The machine -/

/-- What stands in an open array or object, each value readable where it stands. -/
def Frame.Readable (limit : ℕ) : Frame → Prop
  | .items before => ∀ item ∈ before, Json.Readable limit item
  | .fields before _ => before.Sorted ∧ ∀ field ∈ before, Json.Readable limit field.2

/-- The open arrays and objects, innermost first: none is deeper than the limit. -/
def FramesReadable (limit : ℕ) : List Frame → Prop
  | [] => True
  | frame :: frames => frames.length < limit ∧ frame.Readable (limit - (frames.length + 1)) ∧
      FramesReadable limit frames

/-- A machine that has read readable values only, in arrays and objects that may be open. -/
def Reader.Readable (limit : ℕ) : Reader → Prop
  | .value frames => FramesReadable limit frames
  | .firstItem frames => FramesReadable limit (.items [] :: frames)
  | .firstKey frames => FramesReadable limit (.fields [] "" :: frames)
  | .nextKey before frames => FramesReadable limit (.fields before "" :: frames)
  | .colon before key frames => FramesReadable limit (.fields before key :: frames)
  | .complete v frames => Json.Readable (limit - frames.length) v ∧ FramesReadable limit frames

/-- A value that begins keeps the frames readable: it is a scalar, or it opens one more frame within
the limit. -/
theorem Reader.startValue?_readable {limit : ℕ} {frames : List Frame} {token : Token} {next : Reader}
    (readable : FramesReadable limit frames) (htoken : token.Readable)
    (starts : startValue? limit frames token = some next) : next.Readable limit := by
  cases token with
  | scalar value =>
    cases starts
    exact ⟨htoken _, readable⟩
  | text s =>
    cases starts
    exact ⟨⟨⟨.string s, rfl⟩, by simp⟩, readable⟩
  | openArray =>
    rw [startValue?] at starts
    split at starts <;> cases starts
    rename_i deep
    exact ⟨deep, fun _ mem => absurd mem List.not_mem_nil, readable⟩
  | openObject =>
    rw [startValue?] at starts
    split at starts <;> cases starts
    rename_i deep
    exact ⟨deep, ⟨List.Pairwise.nil, fun _ mem => absurd mem List.not_mem_nil⟩, readable⟩
  | _ => cases starts

/-- An open object with one more field, whatever key is read next. -/
theorem Frame.insert_readable {limit : ℕ} {before : Fields} {key : String} {value : Json} (key' : String)
    (readable : (fields before key).Readable limit) (hvalue : Json.Readable limit value) :
    (fields (before.insert key value) key').Readable limit := by
  refine ⟨readable.1.insert key value, fun field mem => ?_⟩
  rcases Fields.mem_insert mem with rfl | mem
  · exact hvalue
  · exact readable.2 field mem

/-- **One token.** The machine goes on having read readable values only. -/
theorem Reader.step_readable {limit : ℕ} {reader next : Reader} {token : Token}
    (readable : reader.Readable limit) (htoken : token.Readable)
    (steps : reader.step limit token = some next) : next.Readable limit := by
  rw [step.eq_def] at steps
  split at steps
  case h_1 => exact startValue?_readable readable htoken steps
  -- one case for each transition; a bracket that closes makes a value of its frame
  case h_2 =>
    cases steps
    obtain ⟨deep, hitems, hframes⟩ := readable
    exact ⟨readable_array deep hitems, hframes⟩
  case h_3 => exact startValue?_readable readable htoken steps
  case h_4 =>
    cases steps
    obtain ⟨deep, ⟨hsorted, hfields⟩, hframes⟩ := readable
    exact ⟨readable_object deep hsorted hfields, hframes⟩
  case h_5 | h_6 | h_7 =>
    cases steps
    exact readable
  case h_8 =>
    cases steps
    obtain ⟨hvalue, deep, hitems, hframes⟩ := readable
    exact ⟨deep, List.forall_mem_cons.mpr ⟨hvalue, hitems⟩, hframes⟩
  -- a comma or a bracket after a value: the value joins the items read before
  case h_9 =>
    cases steps
    obtain ⟨hvalue, deep, hitems, hframes⟩ := readable
    refine ⟨readable_array deep fun item mem => ?_, hframes⟩
    exact List.forall_mem_cons.mpr ⟨hvalue, hitems⟩ item (List.mem_reverse.mp mem)
  case h_10 =>
    cases steps
    obtain ⟨hvalue, deep, hfields, hframes⟩ := readable
    exact ⟨deep, Frame.insert_readable "" hfields hvalue, hframes⟩
  case h_11 =>
    cases steps
    obtain ⟨hvalue, deep, hfields, hframes⟩ := readable
    obtain ⟨hsorted, hvalues⟩ := Frame.insert_readable "" hfields hvalue
    exact ⟨readable_object deep hsorted hvalues, hframes⟩
  case h_12 => cases steps

/-- **All tokens.** -/
theorem Reader.foldlM_readable {limit : ℕ} {tokens : List Token} {reader final : Reader}
    (readable : reader.Readable limit) (htokens : ∀ token ∈ tokens, token.Readable)
    (run : tokens.foldlM (step limit) reader = some final) : final.Readable limit := by
  induction tokens generalizing reader with
  | nil =>
    cases run
    exact readable
  | cons token tokens ih =>
    obtain ⟨first, htokens⟩ := List.forall_mem_cons.mp htokens
    obtain ⟨next, hnext, run⟩ := Option.bind_eq_some_iff.mp run
    exact ih (step_readable readable first hnext) htokens run

/-- **What is read of a text can be read again.** -/
theorem readable_of_parseWithin {limit : ℕ} {text : List Char} {value : Json}
    (found : parseWithin? limit text = some value) : Readable limit value := by
  obtain ⟨tokens, htokens, found⟩ := Option.bind_eq_some_iff.mp found
  obtain ⟨final, hfinal, found⟩ := Option.bind_eq_some_iff.mp found
  have hstart : (Reader.value []).Readable limit := trivial
  have hreadable := Reader.foldlM_readable hstart (readable_of_lexRounds htokens) hfinal
  rw [Reader.result?.eq_def] at found
  split at found <;> cases found
  exact hreadable.1

/-! ## What is kept -/

/-- A text that stands for a number stands for one that can be written. -/
theorem isNumber_of_number? {text : List Char} {value : Json} (found : number? text = some value) :
    IsNumber value := by
  obtain ⟨⟨_, rest⟩, taken, rfl⟩ := Option.map_eq_some_iff.mp found
  exact isNumber_of_lexNumber? taken

/-- A number is neither an object nor a text. -/
theorem IsNumber.shape {value : Json} (number : IsNumber value) :
    value.isObject = false ∧ value.asString? = none := by
  cases value with
  | integer n => exact ⟨rfl, rfl⟩
  | float x => exact ⟨rfl, rfl⟩
  | _ => exact number.elim

/-- A value read again is an object if it was one, and the same text if it was one. -/
theorem shape_of_readBack {value again : Json} {limit : ℕ}
    (found : value.readBack? limit = some again) :
    again.isObject = value.isObject ∧ again.asString? = value.asString? := by
  rw [readBack?.eq_def] at found
  split at found
  case h_3 | h_4 => exact (isNumber_of_number? found).shape
  case h_7 | h_9 =>
    obtain ⟨_, -, rfl⟩ := Option.map_eq_some_iff.mp found
    exact ⟨rfl, rfl⟩
  case h_6 | h_8 => cases found
  all_goals
    cases found
    exact ⟨rfl, rfl⟩

/-- Two values with the same keys, and the same texts in them. -/
def SameTexts (value again : Json) : Prop :=
  ∀ key, Option.Rel (fun v w => w.asString? = v.asString?) (value.get? key) (again.get? key)

/-- **A readable object is read again as an object**, with the same keys and texts. -/
theorem Readable.exists_object {fields : Fields} {limit : ℕ} (readable : Readable limit (.object fields)) :
    ∃ found, (Json.object fields).readBack? limit = some found ∧ found.isObject = true ∧
      SameTexts (.object fields) found := by
  obtain ⟨whole, hwhole⟩ := readable.readBack
  cases limit with
  | zero => cases hwhole
  | succ limit =>
    obtain ⟨values, hvalues, -⟩ := Option.map_eq_some_iff.mp hwhole
    have heach := readBack_of_mem hvalues
    obtain ⟨found, hfound, isObject, hget⟩ :=
      Json.exists_object (readable.sorted fields rfl).nodup heach
    refine ⟨found, hfound, isObject, fun key => ?_⟩
    rw [hget]
    -- a key is there on both sides or on neither
    cases hkey : (Json.object fields).get? key with
    | none => exact .none
    | some value =>
      obtain ⟨again, hagain⟩ := heach (key, value) (Fields.mem_of_get? hkey)
      rw [Option.bind_some, hagain]
      exact .some (shape_of_readBack hagain).2

/-- A field of a readable value can be read for itself. -/
theorem Readable.field {value : Json} {limit : ℕ} (readable : Readable (limit + 1) value)
    (key : String) : ∃ found, (value.field key).readBack? limit = some found := by
  rw [Json.field]
  cases hkey : value.get? key with
  | none => exact ⟨.null, rfl⟩
  | some inner =>
    cases value with
    | object fields =>
      obtain ⟨whole, hwhole⟩ := readable.readBack
      obtain ⟨values, hvalues, -⟩ := Option.map_eq_some_iff.mp hwhole
      exact readBack_of_mem hvalues (key, inner) (Fields.mem_of_get? hkey)
    | _ => cases hkey

/-- A built object has fields in order, all of which it was built of. -/
theorem exists_ofFields (fields : List (String × Json)) :
    ∃ sorted : Fields, ofFields fields = .object sorted ∧ sorted.Sorted ∧
      ∀ field ∈ sorted, field ∈ fields := by
  -- the invariant of setting field by field: in order, and nothing but fields that were given
  have hset (start later : Fields) (sorted : start.Sorted) :
      (later.foldl (fun sorted kv => Fields.insert sorted kv.1 kv.2) start).Sorted ∧
        ∀ field ∈ later.foldl (fun sorted kv => Fields.insert sorted kv.1 kv.2) start,
          field ∈ start ∨ field ∈ later := by
    induction later generalizing start with
    | nil => exact ⟨sorted, fun _ mem => .inl mem⟩
    | cons first later ih =>
      obtain ⟨hsorted, hmem⟩ := ih _ (sorted.insert first.1 first.2)
      refine ⟨hsorted, fun field mem => ?_⟩
      rcases hmem field mem with mem | mem
      · rcases Fields.mem_insert mem with rfl | mem
        · exact .inr List.mem_cons_self
        · exact .inl mem
      · exact .inr (List.mem_cons_of_mem _ mem)
  obtain ⟨hsorted, hmem⟩ := hset [] fields List.Pairwise.nil
  exact ⟨_, rfl, hsorted, fun field mem => (hmem field mem).resolve_left List.not_mem_nil⟩

/-- A built object is readable where its values can be read, one level deeper. -/
theorem readable_ofFields {fields : List (String × Json)} {limit : ℕ}
    (readable : ∀ field ∈ fields, ∃ found, field.2.readBack? limit = some found) :
    Readable (limit + 1) (ofFields fields) := by
  obtain ⟨sorted, hfields, hsorted, hmem⟩ := exists_ofFields fields
  rw [hfields]
  refine ⟨exists_readBack_object fun field mem => readable field (hmem field mem), ?_⟩
  rintro _ ⟨⟩
  exact hsorted

end BrowserAct.Json
