import BrowserAct.Decimal.Binary64

/-!
# JSON values

A number is either an integer or a binary64 number, as its text said: `1` and `1.0` are two values.
The fields of an object are a list in the order in which they are printed; `Json.ofFields` builds
the usual form, sorted by key with each key once.
-/

namespace BrowserAct

/-- A JSON value. -/
inductive Json where
  | null
  | bool (b : Bool)
  | integer (n : Int)
  | float (x : Decimal.Binary64)
  | string (s : String)
  | array (items : List Json)
  | object (fields : List (String × Json))
deriving Inhabited

namespace Json

abbrev Fields := List (String × Json)

namespace Fields

def get? : Fields → String → Option Json
  | [], _ => none
  | (k, v) :: rest, key => if k = key then some v else get? rest key

/-- The fields with one key set, kept in key order. -/
def insert : Fields → String → Json → Fields
  | [], key, value => [(key, value)]
  | (k, v) :: rest, key, value =>
    if key < k then (key, value) :: (k, v) :: rest
    else if key = k then (key, value) :: rest
    else (k, v) :: insert rest key value

theorem insert_nil (key : String) (value : Json) : insert [] key value = [(key, value)] := rfl

/-- A key before all others becomes the first. -/
theorem insert_cons_of_lt {key first : String} (before : key < first) (value other : Json)
    (rest : Fields) :
    insert ((first, other) :: rest) key value = (key, value) :: (first, other) :: rest :=
  if_pos before

/-- A key after the first is set among the others. -/
theorem insert_cons_of_gt {key first : String} (after : first < key) (value other : Json)
    (rest : Fields) :
    insert ((first, other) :: rest) key value = (first, other) :: insert rest key value := by
  have notBefore : ¬ key < first := fun before => String.lt_irrefl _ (String.lt_trans before after)
  have notSame : key ≠ first := by
    rintro rfl
    exact String.lt_irrefl _ after
  rw [insert, if_neg notBefore, if_neg notSame]

theorem mem_of_get? {fields : Fields} {key : String} {value : Json}
    (found : fields.get? key = some value) : (key, value) ∈ fields := by
  induction fields with
  | nil => cases found
  | cons first rest ih =>
    obtain ⟨k, v⟩ := first
    rw [get?] at found
    split at found
    · rename_i same
      cases same
      cases found
      exact List.mem_cons_self
    · exact List.mem_cons_of_mem _ (ih found)

/-- Where no key is given twice each has the value that it is given with. -/
theorem get?_eq_some_iff {fields : Fields} (distinct : (fields.map Prod.fst).Nodup) {key : String}
    {value : Json} : fields.get? key = some value ↔ (key, value) ∈ fields := by
  refine ⟨mem_of_get?, fun given => ?_⟩
  induction fields with
  | nil => cases given
  | cons first rest ih =>
    obtain ⟨k, v⟩ := first
    obtain ⟨hfirst, hrest⟩ := List.nodup_cons.mp distinct
    rw [get?]
    rcases List.mem_cons.mp given with same | later
    · cases same
      exact if_pos rfl
    · -- the first key is another one, since this one comes later
      have hother : k ≠ key := by
        rintro rfl
        exact hfirst (List.mem_map.mpr ⟨(k, value), later, rfl⟩)
      rw [if_neg hother]
      exact ih hrest later

/-- Setting a key sets that key. -/
theorem get?_insert_self (fields : Fields) (key : String) (value : Json) :
    (insert fields key value).get? key = some value := by
  induction fields with
  | nil => simp [insert, get?]
  | cons kv rest ih =>
    obtain ⟨k, v⟩ := kv
    rw [insert]
    split
    · simp [get?]
    · split
      · simp [get?]
      · rename_i h
        simp [get?, Ne.symm h, ih]

/-- Setting a key leaves every other key alone. -/
theorem get?_insert_of_ne (fields : Fields) {key other : String} (value : Json)
    (h : other ≠ key) : (insert fields key value).get? other = fields.get? other := by
  induction fields with
  | nil => simp [insert, get?, Ne.symm h]
  | cons kv rest ih =>
    obtain ⟨k, v⟩ := kv
    rw [insert]
    split
    · simp [get?, Ne.symm h]
    · split
      · rename_i e
        subst e
        simp [get?, Ne.symm h]
      · simp [get?, ih]

end Fields

/-- An object of the given fields in key order; of a repeated key the last value counts. -/
def ofFields (fields : List (String × Json)) : Json :=
  .object (fields.foldl (fun (sorted : Fields) kv => sorted.insert kv.1 kv.2) [])

/-- An object of the given fields, those without a value left out. -/
def ofPresent (fields : List (String × Option Json)) : Json :=
  ofFields (fields.filterMap fun (key, value?) => value?.map (key, ·))

/-! ## Looking inside -/

/-- The value of a key, if the value is an object that has it. -/
def get? : Json → String → Option Json
  | .object fields, key => Fields.get? fields key
  | _, _ => none

/-- The value of a key, null if there is none. -/
def field (j : Json) (key : String) : Json :=
  (j.get? key).getD .null

/-- A field with some value other than null is there. -/
theorem field_eq_iff {j value : Json} {name : String} (notNull : value ≠ .null) :
    j.field name = value ↔ j.get? name = some value := by
  rw [field]
  cases j.get? name with
  | none =>
    constructor
    · intro same
      exact (notNull same.symm).elim
    · intro found
      cases found
  | some found => simp

/-! ### The fields of a built object -/

theorem get?_foldl_insert_of_not_mem {fields : List (String × Json)} {key : String}
    (absent : key ∉ fields.map Prod.fst) (start : Fields) :
    (fields.foldl (fun sorted kv => Fields.insert sorted kv.1 kv.2) start).get? key =
      start.get? key := by
  induction fields generalizing start with
  | nil => rfl
  | cons kv rest ih =>
    rw [List.map_cons, List.mem_cons, not_or] at absent
    rw [List.foldl_cons, ih absent.2, Fields.get?_insert_of_ne start kv.2 absent.1]

/-- A key that comes last, or whose later entries are of other keys, has the value given to it. -/
theorem get?_ofFields_append (before : List (String × Json)) {after : List (String × Json)}
    {key : String} (value : Json) (absent : key ∉ after.map Prod.fst) :
    (ofFields (before ++ (key, value) :: after)).get? key = some value := by
  rw [ofFields, List.foldl_append, List.foldl_cons]
  show Fields.get? _ key = some value
  rw [get?_foldl_insert_of_not_mem absent, Fields.get?_insert_self]

/-- The first key of an object has the value given to it, if it is not given again. -/
theorem get?_ofFields_cons {fields : List (String × Json)} {key : String} (value : Json)
    (absent : key ∉ fields.map Prod.fst) :
    (ofFields ((key, value) :: fields)).get? key = some value :=
  get?_ofFields_append [] value absent

/-- The same for an object of which fields may be left out. -/
theorem get?_ofPresent_append (before : List (String × Option Json))
    {after : List (String × Option Json)} {key : String} (value : Json)
    (absent : key ∉ after.map Prod.fst) :
    (ofPresent (before ++ (key, some value) :: after)).get? key = some value := by
  rw [ofPresent, List.filterMap_append, List.filterMap_cons]
  refine get?_ofFields_append _ value fun present => absent ?_
  obtain ⟨⟨name, found⟩, mem, rfl⟩ := List.mem_map.mp present
  obtain ⟨⟨given, given?⟩, mem, eq⟩ := List.mem_filterMap.mp mem
  cases given? with
  | none => simp at eq
  | some v =>
    simp only [Option.map_some, Option.some.injEq, Prod.mk.injEq] at eq
    rw [← eq.1]
    exact List.mem_map_of_mem mem

theorem get?_ofPresent_cons {fields : List (String × Option Json)} {key : String} (value : Json)
    (absent : key ∉ fields.map Prod.fst) :
    (ofPresent ((key, some value) :: fields)).get? key = some value :=
  get?_ofPresent_append [] value absent

def asString? : Json → Option String
  | .string s => some s
  | _ => none

theorem asString?_eq_some_iff {j : Json} {text : String} :
    j.asString? = some text ↔ j = .string text := by
  cases j <;> simp [asString?]

/-- Texts are only found in fields that are there. -/
theorem asString?_field_eq_some_iff {j : Json} {name text : String} :
    (j.field name).asString? = some text ↔ j.get? name = some (.string text) := by
  have notNull : Json.string text ≠ .null := by simp
  rw [asString?_eq_some_iff, field_eq_iff notNull]

/-- The text of a string, the empty text of anything else. -/
def stringOrEmpty (j : Json) : String :=
  j.asString?.getD ""

def asArray? : Json → Option (List Json)
  | .array items => some items
  | _ => none

def asBool? : Json → Option Bool
  | .bool b => some b
  | _ => none

def isObject : Json → Bool
  | .object _ => true
  | _ => false

def isNull : Json → Bool
  | .null => true
  | _ => false

def asInt64? : Json → Option Int
  | .integer n => if -0x8000_0000_0000_0000 ≤ n ∧ n < 0x8000_0000_0000_0000 then some n else none
  | _ => none

def asNat64? : Json → Option Nat
  | .integer n => if 0 ≤ n ∧ n < 0x1_0000_0000_0000_0000 then some n.toNat else none
  | _ => none

def asFloat? : Json → Option Decimal.Binary64
  | .integer n => some (.ofInt n)
  | .float x => some x
  | _ => none

end Json

end BrowserAct
