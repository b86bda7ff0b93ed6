import BrowserAct.Proofs.Json.Readable

/-!
# Values that come back from their own text

A value is kept in one form: integers of 64 bits, the keys of an object in order, each once. In this form
it comes back from its own text as it was, if it is nested no deeper than the reader goes and its
numbers with a fraction or an exponent do.

* **`Standard`** is that form, **`depth`** how deep a value is nested.
* **`ofFields_of_sorted`** says that fields in order make the object they are the fields of.
* **`standard_ofFields`** says that objects are built in that form.
* **`parse?_compress_of_standard`** says that such a value comes back, **`parse?_compress_eq_self_iff`**
  that no other value does.
* **`exists_readBack_of_depth`** says that other values are at least read, if they are nested no deeper.
-/

namespace BrowserAct.Json

/-! ## Standard values -/

mutual

/-- How deep the arrays and objects of a value are nested. -/
def depth : Json → Nat
  | .array items => depthItems items + 1
  | .object fields => depthFields fields + 1
  | _ => 0

def depthItems : List Json → Nat
  | [] => 0
  | item :: items => max item.depth (depthItems items)

def depthFields : List (String × Json) → Nat
  | [] => 0
  | (_, value) :: fields => max value.depth (depthFields fields)

end

/-- A number with a fraction or an exponent that is read as it was written. -/
def ReadsBack (x : Decimal.Binary64) : Prop :=
  number? (numberLayout.write x) = some (.float x)

mutual

/-- A value in the form in which values are kept. -/
def Standard : Json → Prop
  | .integer n => -0x8000_0000_0000_0000 ≤ n ∧ n < 0x1_0000_0000_0000_0000
  | .float x => ReadsBack x
  | .array items => StandardItems items
  | .object fields => Fields.Sorted fields ∧ StandardFields fields
  | _ => True

def StandardItems : List Json → Prop
  | [] => True
  | item :: items => item.Standard ∧ StandardItems items

def StandardFields : List (String × Json) → Prop
  | [] => True
  | (_, value) :: fields => value.Standard ∧ StandardFields fields

end

mutual

/-- A value that there can be: its integers have 64 bits, and its other numbers are finite. -/
def Representable : Json → Prop
  | .integer n => IsNumber (.integer n)
  | .float x => IsNumber (.float x)
  | .array items => RepresentableItems items
  | .object fields => RepresentableFields fields
  | _ => True

def RepresentableItems : List Json → Prop
  | [] => True
  | item :: items => item.Representable ∧ RepresentableItems items

def RepresentableFields : List (String × Json) → Prop
  | [] => True
  | (_, value) :: fields => value.Representable ∧ RepresentableFields fields

end

/-! ## Fields in order -/

/-- A key after all others is set behind them. -/
theorem Fields.insert_of_last {fields : Fields} {key : String}
    (last : ∀ field ∈ fields, field.1 < key) (value : Json) :
    fields.insert key value = fields ++ [(key, value)] := by
  induction fields with
  | nil => rfl
  | cons first rest ih =>
    obtain ⟨k, v⟩ := first
    obtain ⟨hfirst, hrest⟩ := List.forall_mem_cons.mp last
    rw [insert_cons_of_gt hfirst, ih hrest]
    rfl

/-- Fields that are set in order stay as they are. -/
theorem ofFields_of_sorted {fields : Fields} (sorted : fields.Sorted) :
    ofFields fields = .object fields := by
  -- the invariant of setting fields in order: each goes behind all that were set before
  have hset (before later : Fields) (sorted : Fields.Sorted (before ++ later)) :
      later.foldl (fun sorted kv => Fields.insert sorted kv.1 kv.2) before = before ++ later := by
    induction later generalizing before with
    | nil => rw [List.foldl_nil, List.append_nil]
    | cons field later ih =>
      have hlast : ∀ other ∈ before, other.1 < field.1 := by
        intro other hmem
        rw [Fields.Sorted, List.map_append, List.map_cons, List.pairwise_append] at sorted
        exact sorted.2.2 other.1 (List.mem_map_of_mem hmem) field.1 List.mem_cons_self
      rw [List.append_cons] at sorted ⊢
      rw [List.foldl_cons, Fields.insert_of_last hlast]
      exact ih _ sorted
  rw [ofFields, hset [] fields sorted]
  rfl

theorem standardFields_iff {fields : Fields} :
    StandardFields fields ↔ ∀ field ∈ fields, field.2.Standard := by
  induction fields with
  | nil => exact ⟨fun _ => List.forall_mem_nil _, fun _ => trivial⟩
  | cons field fields ih => rw [StandardFields, ih, List.forall_mem_cons]

theorem depthFields_le_iff {fields : Fields} {limit : Nat} :
    depthFields fields ≤ limit ↔ ∀ field ∈ fields, field.2.depth ≤ limit := by
  induction fields with
  | nil => exact ⟨fun _ => List.forall_mem_nil _, fun _ => Nat.zero_le _⟩
  | cons field fields ih => rw [depthFields, Nat.max_le, ih, List.forall_mem_cons]

theorem standard_string (text : String) (limit : Nat) :
    (string text).Standard ∧ (string text).depth ≤ limit :=
  ⟨trivial, Nat.zero_le _⟩

/-- An object that is built of standard values is standard, and one level deeper than they are. -/
theorem standard_ofFields {fields : List (String × Json)} {limit : Nat}
    (standard : ∀ field ∈ fields, field.2.Standard ∧ field.2.depth ≤ limit) :
    (ofFields fields).Standard ∧ (ofFields fields).depth ≤ limit + 1 := by
  obtain ⟨sorted, hfields, hsorted, hmem⟩ := exists_ofFields fields
  rw [hfields]
  exact ⟨⟨hsorted, standardFields_iff.mpr fun field mem => (standard field (hmem field mem)).1⟩,
    Nat.succ_le_succ (depthFields_le_iff.mpr fun field mem => (standard field (hmem field mem)).2)⟩

/-! ## Coming back -/

mutual

/-- **A standard value is read as it is**, with as many levels as it is deep. -/
theorem readBack?_of_standard (j : Json) (standard : j.Standard) {limit : Nat}
    (within : j.depth ≤ limit) : j.readBack? limit = some j := by
  match j, limit with
  | .null, _ => rfl
  | .bool _, _ => rfl
  | .integer n, limit => exact readBack?_integer standard limit
  | .float x, _ => exact standard
  | .string _, _ => rfl
  | .array items, 0 => cases within
  -- each level uses up one of the limit
  | .array items, limit + 1 =>
    rw [readBack?, readBackItems?_of_standard items standard (Nat.le_of_succ_le_succ within)]
    rfl
  | .object fields, 0 => cases within
  | .object fields, limit + 1 =>
    rw [readBack?, readBackFields?_of_standard fields standard.2 (Nat.le_of_succ_le_succ within),
      Option.map_some, ofFields_of_sorted standard.1]

/-- Standard items are read back as they are. -/
theorem readBackItems?_of_standard (items : List Json) (standard : StandardItems items) {limit : Nat}
    (within : depthItems items ≤ limit) : readBackItems? items limit = some items := by
  match items with
  | [] => rfl
  | item :: items =>
    obtain ⟨hitem, hitems⟩ := Nat.max_le.mp within
    rw [readBackItems?, readBack?_of_standard item standard.1 hitem,
      readBackItems?_of_standard items standard.2 hitems]
    rfl

theorem readBackFields?_of_standard (fields : List (String × Json)) (standard : StandardFields fields)
    {limit : Nat} (within : depthFields fields ≤ limit) :
    readBackFields? fields limit = some fields := by
  match fields with
  | [] => rfl
  | (key, value) :: fields =>
    obtain ⟨hvalue, hfields⟩ := Nat.max_le.mp within
    rw [readBackFields?, readBack?_of_standard value standard.1 hvalue,
      readBackFields?_of_standard fields standard.2 hfields]
    rfl

end

mutual

/-- **A value that there can be is read as one**, with as many levels as it is deep. -/
theorem exists_readBack_of_depth (j : Json) (representable : j.Representable) {limit : Nat}
    (within : j.depth ≤ limit) : ∃ found, j.readBack? limit = some found := by
  match j, limit with
  | .null, _ => exact ⟨.null, rfl⟩
  | .bool b, _ => exact ⟨.bool b, rfl⟩
  | .integer n, limit => exact ⟨.integer n, readBack?_integer representable limit⟩
  | .float x, _ => exact exists_number representable
  | .string s, _ => exact ⟨.string s, rfl⟩
  | .array items, 0 => cases within
  -- each level uses up one of the limit
  | .array items, limit + 1 =>
    obtain ⟨found, hfound⟩ :=
      exists_readBackItems_of_depth items representable (Nat.le_of_succ_le_succ within)
    exact ⟨.array found, by rw [readBack?, hfound]; rfl⟩
  | .object fields, 0 => cases within
  | .object fields, limit + 1 =>
    obtain ⟨found, hfound⟩ :=
      exists_readBackFields_of_depth fields representable (Nat.le_of_succ_le_succ within)
    exact ⟨ofFields found, by rw [readBack?, hfound]; rfl⟩

/-- Items that can be written are read back within their depth. -/
theorem exists_readBackItems_of_depth (items : List Json) (representable : RepresentableItems items)
    {limit : Nat} (within : depthItems items ≤ limit) :
    ∃ found, readBackItems? items limit = some found := by
  match items with
  | [] => exact ⟨[], rfl⟩
  | item :: items =>
    obtain ⟨hitem, hitems⟩ := Nat.max_le.mp within
    obtain ⟨value, hvalue⟩ := exists_readBack_of_depth item representable.1 hitem
    obtain ⟨values, hvalues⟩ := exists_readBackItems_of_depth items representable.2 hitems
    exact ⟨value :: values, by rw [readBackItems?, hvalue, hvalues]; rfl⟩

theorem exists_readBackFields_of_depth (fields : List (String × Json))
    (representable : RepresentableFields fields) {limit : Nat} (within : depthFields fields ≤ limit) :
    ∃ found, readBackFields? fields limit = some found := by
  match fields with
  | [] => exact ⟨[], rfl⟩
  | (key, value) :: fields =>
    obtain ⟨hvalue, hfields⟩ := Nat.max_le.mp within
    obtain ⟨again, hagain⟩ := exists_readBack_of_depth value representable.1 hvalue
    obtain ⟨values, hvalues⟩ := exists_readBackFields_of_depth fields representable.2 hfields
    exact ⟨(key, again) :: values, by rw [readBackFields?, hagain, hvalues]; rfl⟩

end

/-! ## Nothing else comes back -/

/-- Reading back changes no key. -/
theorem map_fst_of_readBackFields {fields values : Fields} {limit : Nat}
    (found : readBackFields? fields limit = some values) :
    values.map Prod.fst = fields.map Prod.fst := by
  induction fields generalizing values with
  | nil =>
    cases found
    rfl
  | cons field fields ih =>
    obtain ⟨v, -, found⟩ := Option.bind_eq_some_iff.mp found
    obtain ⟨later, hlater, rfl⟩ := Option.map_eq_some_iff.mp found
    rw [List.map_cons, List.map_cons, ih hlater]

mutual

/-- **A value that is read as it is** is standard, and no deeper than the levels it is read with. -/
theorem standard_of_readBack (j : Json) {limit : Nat} (same : j.readBack? limit = some j) :
    j.Standard ∧ j.depth ≤ limit := by
  match j, limit with
  | .null, _ => exact ⟨trivial, Nat.zero_le _⟩
  | .bool _, _ => exact ⟨trivial, Nat.zero_le _⟩
  | .integer _, _ => exact ⟨isNumber_of_number? same, Nat.zero_le _⟩
  | .float _, _ => exact ⟨same, Nat.zero_le _⟩
  | .string _, _ => exact ⟨trivial, Nat.zero_le _⟩
  | .array _, 0 => cases same
  | .array items, limit + 1 =>
    obtain ⟨values, hvalues, hsame⟩ := Option.map_eq_some_iff.mp same
    cases hsame
    obtain ⟨standard, within⟩ := standardItems_of_readBack items hvalues
    exact ⟨standard, Nat.succ_le_succ within⟩
  | .object _, 0 => cases same
  | .object fields, limit + 1 =>
    obtain ⟨values, hvalues, hsame⟩ := Option.map_eq_some_iff.mp same
    -- what is built is in order, and the fields that were read have the keys of those built from them
    obtain ⟨built, hbuilt, hsorted, -⟩ := exists_ofFields values
    cases hbuilt.symm.trans hsame
    have hvaluesSorted : Fields.Sorted values := by
      rw [Fields.Sorted, map_fst_of_readBackFields hvalues]
      exact hsorted
    rw [ofFields_of_sorted hvaluesSorted] at hsame
    cases hsame
    obtain ⟨standard, within⟩ := standardFields_of_readBack fields hvalues
    exact ⟨⟨hsorted, standard⟩, Nat.succ_le_succ within⟩

/-- Items that come back as they were are standard. -/
theorem standardItems_of_readBack (items : List Json) {limit : Nat}
    (same : readBackItems? items limit = some items) :
    StandardItems items ∧ depthItems items ≤ limit := by
  match items with
  | [] => exact ⟨trivial, Nat.zero_le _⟩
  | item :: items =>
    obtain ⟨v, hv, same⟩ := Option.bind_eq_some_iff.mp same
    obtain ⟨later, hlater, hsame⟩ := Option.map_eq_some_iff.mp same
    cases hsame
    obtain ⟨hitem, hdepth⟩ := standard_of_readBack item hv
    obtain ⟨hitems, hdepths⟩ := standardItems_of_readBack items hlater
    exact ⟨⟨hitem, hitems⟩, Nat.max_le.mpr ⟨hdepth, hdepths⟩⟩

theorem standardFields_of_readBack (fields : List (String × Json)) {limit : Nat}
    (same : readBackFields? fields limit = some fields) :
    StandardFields fields ∧ depthFields fields ≤ limit := by
  match fields with
  | [] => exact ⟨trivial, Nat.zero_le _⟩
  | (key, value) :: fields =>
    obtain ⟨v, hv, same⟩ := Option.bind_eq_some_iff.mp same
    obtain ⟨later, hlater, hsame⟩ := Option.map_eq_some_iff.mp same
    cases hsame
    obtain ⟨hvalue, hdepth⟩ := standard_of_readBack value hv
    obtain ⟨hfields, hdepths⟩ := standardFields_of_readBack fields hlater
    exact ⟨⟨hvalue, hfields⟩, Nat.max_le.mpr ⟨hdepth, hdepths⟩⟩

end

/-- **The values that come back from their text** are the standard ones that are nested no deeper than
is read. -/
theorem parse?_compress_eq_self_iff {j : Json} :
    parse? j.compress = some j ↔ j.Standard ∧ j.depth ≤ nestingLimit := by
  rw [parse?_compress]
  constructor
  · exact standard_of_readBack j
  · rintro ⟨standard, within⟩
    exact readBack?_of_standard j standard within

/-- **A standard value comes back from its text**, if it is nested no deeper than is read. -/
theorem parse?_compress_of_standard {j : Json} (standard : j.Standard)
    (within : j.depth ≤ nestingLimit) : parse? j.compress = some j :=
  parse?_compress_eq_self_iff.mpr ⟨standard, within⟩

end BrowserAct.Json
