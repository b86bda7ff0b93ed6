import BrowserAct.Proofs.Json.Lexer

/-!
# Reading a rendered value

A value is read back from its own text, as far as a text says what it was: numbers are read from their
numerals, and the fields of an object are set one after the other.

* **`readBack?`** is what is read of the text of a value.
* **`run_render`** takes the machine over the text of a value: whatever stood before it and whatever
  follows, the value is complete after it.
* **`parseWithin?_render`** says that this is the value of the text.
* **`exists_object`** says that an object is read field by field.
-/

namespace BrowserAct.Json

open Decimal (isDigit)

/-! ## What is read of a text -/

mutual

/-- What is read of the text of a value, with arrays and objects at most `limit` deep. -/
def readBack? : Json → Nat → Option Json
  | .null, _ => some .null
  | .bool b, _ => some (.bool b)
  | .integer n, _ => number? (integerChars n)
  | .float x, _ => number? (numberLayout.write x)
  | .string s, _ => some (.string s)
  | .array _, 0 => none
  | .array items, limit + 1 => (readBackItems? items limit).map .array
  | .object _, 0 => none
  | .object fields, limit + 1 => (readBackFields? fields limit).map ofFields

def readBackItems? : List Json → Nat → Option (List Json)
  | [], _ => some []
  | item :: items, limit =>
    (item.readBack? limit).bind fun v => (readBackItems? items limit).map (v :: ·)

def readBackFields? : List (String × Json) → Nat → Option Fields
  | [], _ => some []
  | (key, value) :: fields, limit =>
    (value.readBack? limit).bind fun v => (readBackFields? fields limit).map ((key, v) :: ·)

end

/-- An integer of 64 bits is read back as it is. -/
theorem readBack?_integer {n : Int}
    (fits : -0x8000_0000_0000_0000 ≤ n ∧ n < 0x1_0000_0000_0000_0000) (limit : Nat) :
    (integer n).readBack? limit = some (.integer n) := by
  rw [readBack?, integerChars_eq_text, number?_text, Numeral.value?_ofInt fits]

mutual

/-- What is read within some levels is read within more. -/
theorem readBack?_mono (j : Json) {limit : Nat} {value : Json} (found : j.readBack? limit = some value) :
    j.readBack? (limit + 1) = some value := by
  match j, limit with
  | .null, _ => exact found
  | .bool _, _ => exact found
  | .integer _, _ => exact found
  | .float _, _ => exact found
  | .string _, _ => exact found
  | .array items, 0 => cases found
  | .array items, limit + 1 =>
    obtain ⟨values, hvalues, rfl⟩ := Option.map_eq_some_iff.mp found
    rw [readBack?, readBackItems?_mono items hvalues]
    rfl
  | .object fields, 0 => cases found
  | .object fields, limit + 1 =>
    obtain ⟨values, hvalues, rfl⟩ := Option.map_eq_some_iff.mp found
    rw [readBack?, readBackFields?_mono fields hvalues]
    rfl

/-- Items that are read back within a limit are read back within a higher one. -/
theorem readBackItems?_mono (items : List Json) {limit : Nat} {values : List Json}
    (found : readBackItems? items limit = some values) :
    readBackItems? items (limit + 1) = some values := by
  match items with
  | [] => exact found
  | item :: items =>
    obtain ⟨v, hv, found⟩ := Option.bind_eq_some_iff.mp found
    obtain ⟨later, hlater, rfl⟩ := Option.map_eq_some_iff.mp found
    rw [readBackItems?, readBack?_mono item hv, readBackItems?_mono items hlater]
    rfl

theorem readBackFields?_mono (fields : List (String × Json)) {limit : Nat} {values : Fields}
    (found : readBackFields? fields limit = some values) :
    readBackFields? fields (limit + 1) = some values := by
  match fields with
  | [] => exact found
  | (key, value) :: fields =>
    obtain ⟨v, hv, found⟩ := Option.bind_eq_some_iff.mp found
    obtain ⟨later, hlater, rfl⟩ := Option.map_eq_some_iff.mp found
    rw [readBackFields?, readBack?_mono value hv, readBackFields?_mono fields hlater]
    rfl

end

/-! ## The machine on a text -/

/-- Enters all tokens of a text. -/
def run (limit : Nat) (reader : Reader) (text : List Char) : Option Reader :=
  (lex text).bind fun tokens => tokens.foldlM (Reader.step limit) reader

/-- The machine takes the first token of a text and then the rest. -/
theorem run_cons {c : Char} {after rest : List Char} {token : Token} (visible : isSpace c = false)
    (taken : lexToken? (c :: after) = some (token, rest)) (limit : Nat) (reader : Reader) :
    run limit reader (c :: after) =
      (reader.step limit token).bind fun next => run limit next rest := by
  rw [run, lex_cons visible taken]
  -- where the rest cannot be cut into tokens nothing is read, whatever the token does
  cases hrest : lex rest with
  | none =>
    have hnone (next : Reader) : run limit next rest = none := by
      rw [run, hrest]
      rfl
    simp only [hnone, Option.map_none, Option.bind_none]
    cases reader.step limit token <;> rfl
  | some tokens =>
    have hsome (next : Reader) : run limit next rest = tokens.foldlM (Reader.step limit) next := by
      rw [run, hrest]
      rfl
    simp only [hsome]
    rfl

/-- And takes nothing of a text that starts with no token. -/
theorem run_eq_none {c : Char} {after : List Char} (visible : isSpace c = false)
    (refused : lexToken? (c :: after) = none) (limit : Nat) (reader : Reader) :
    run limit reader (c :: after) = none := by
  rw [run, lex_eq_none visible refused]
  rfl

variable {limit : Nat} {reader : Reader} {frames : List Frame} {rest : List Char}

/-- A machine that waits for a value, and if need be for the end of an array. -/
def AwaitsValue (limit : Nat) (reader : Reader) (frames : List Frame) : Prop :=
  ∀ token, token ≠ .closeArray →
    reader.step limit token = Reader.startValue? limit frames token

/-- A machine that waits for a key, and if need be for the end of an object. -/
def AwaitsKey (limit : Nat) (reader : Reader) (before : Fields) (frames : List Frame) : Prop :=
  ∀ key, reader.step limit (.text key) = some (.colon before key frames)

/-- After a comma or a colon a value is awaited. -/
theorem awaitsValue_value (frames : List Frame) : AwaitsValue limit (.value frames) frames :=
  fun _ _ => rfl

/-- After an opening bracket too, in a frame of its own. -/
theorem awaitsValue_firstItem (frames : List Frame) :
    AwaitsValue limit (.firstItem frames) (.items [] :: frames) := by
  intro token open_
  cases token with
  | closeArray => exact (open_ rfl).elim
  | _ => rfl

/-- After an opening brace a key is awaited. -/
theorem awaitsKey_firstKey (frames : List Frame) : AwaitsKey limit (.firstKey frames) [] frames :=
  fun _ => rfl

theorem awaitsKey_nextKey (before : Fields) (frames : List Frame) :
    AwaitsKey limit (.nextKey before frames) before frames :=
  fun _ => rfl

/-- A quoted text is one token. -/
theorem run_quote (limit : Nat) (reader : Reader) (text : String) (rest : List Char) :
    run limit reader (quote text.toList ++ rest) =
      (reader.step limit (.text text)).bind fun next => run limit next rest := by
  have htoken := lexToken?_quote text.toList rest
  rw [String.ofList_toList] at htoken
  exact run_cons rfl htoken limit reader

/-- A number does not start with a blank. -/
theorem isSpace_of_start {c : Char} (starts : isDigit c = true ∨ c = '-') : isSpace c = false := by
  cases hspace : isSpace c with
  | false => rfl
  | true =>
    simp only [isSpace, Bool.or_eq_true, beq_iff_eq] at hspace
    rcases hspace with ((rfl | rfl) | rfl) | rfl <;> exact absurd starts (by decide)

/-- A numeral is one token, or none where it is too large. -/
theorem run_numeral (awaits : AwaitsValue limit reader frames) (n : Numeral)
    (ends : EndsNumeral rest) :
    run limit reader (n.text ++ rest) =
      (number? n.text).bind fun value => run limit (.complete value frames) rest := by
  -- a numeral is one token as long as what follows does not go on with it
  have htoken := lexToken?_numeral n ends
  obtain ⟨c, after, htext, starts⟩ := n.exists_start
  have hvisible := isSpace_of_start starts
  rw [htext, List.cons_append] at htoken ⊢
  cases hnumber : number? (c :: after) with
  | none =>
    rw [hnumber] at htoken
    exact run_eq_none hvisible htoken limit reader
  | some value =>
    rw [hnumber] at htoken
    have hscalar : Token.scalar value ≠ .closeArray := by simp
    rw [run_cons hvisible htoken, awaits _ hscalar]
    rfl

/-- A name of a value is one token. -/
theorem run_scalar (awaits : AwaitsValue limit reader frames) {c : Char} {after : List Char}
    {value : Json} (visible : isSpace c = false)
    (taken : lexToken? (c :: after) = some (.scalar value, rest)) :
    run limit reader (c :: after) = run limit (.complete value frames) rest := by
  have hscalar : Token.scalar value ≠ .closeArray := by simp
  rw [run_cons visible taken, awaits _ hscalar]
  rfl

/-- What opens an array or object is refused where no more levels are left. -/
theorem run_open (awaits : AwaitsValue limit reader frames) {c : Char} {token : Token}
    {opened : Reader} (visible : isSpace c = false) (taken : lexToken? (c :: rest) = some (token, rest))
    (opens : token ≠ .closeArray ∧
      Reader.startValue? limit frames token = if frames.length < limit then some opened else none) :
    run limit reader (c :: rest) =
      if frames.length < limit then run limit opened rest else none := by
  rw [run_cons visible taken, awaits token opens.1, opens.2]
  split <;> rfl

/-! ## Values -/

theorem endsNumeral_cons {c : Char} (mark : isDigit c = false ∧ c ≠ '.' ∧ c ≠ 'e' ∧ c ≠ 'E')
    (rest : List Char) : EndsNumeral (c :: rest) := by
  rintro d ⟨⟩
  exact mark

/-- A mark after which the machine goes on. -/
theorem run_mark {c : Char} {token : Token} {next : Reader} (visible : isSpace c = false)
    (taken : lexToken? (c :: rest) = some (token, rest))
    (steps : reader.step limit token = some next) :
    run limit reader (c :: rest) = run limit next rest := by
  rw [run_cons visible taken, steps, Option.bind_some]

/-- A key with its colon. -/
theorem run_key {before : Fields} (awaits : AwaitsKey limit reader before frames) (key : String) :
    run limit reader (quote key.toList ++ ':' :: rest) =
      run limit (.value (.fields before key :: frames)) rest := by
  rw [run_quote, awaits key, Option.bind_some]
  exact run_mark rfl rfl rfl

/-- The text after an item: the end of the array, or a comma and the other items. -/
def afterItem (items : List Json) (rest : List Char) : List Char :=
  if items.isEmpty then ']' :: rest else ',' :: (renderItems items ++ rest)

theorem renderItems_cons (item : Json) (items : List Json) (rest : List Char) :
    renderItems (item :: items) ++ rest = item.render ++ afterItem items rest := by
  cases items <;> simp [renderItems, afterItem]

theorem afterItem_of_ne_nil {items : List Json} (more : items ≠ []) (rest : List Char) :
    afterItem items rest = ',' :: (renderItems items ++ rest) := by
  rw [afterItem, List.isEmpty_eq_false_iff.mpr more, if_neg Bool.false_ne_true]

theorem endsNumeral_afterItem (items : List Json) (rest : List Char) :
    EndsNumeral (afterItem items rest) := by
  cases items <;> exact endsNumeral_cons (by decide) _

/-- The text after a field: the end of the object, or a comma and the other fields. -/
def afterField (fields : Fields) (rest : List Char) : List Char :=
  if fields.isEmpty then '\x7d' :: rest else ',' :: (renderFields fields ++ rest)

theorem renderFields_cons (key : String) (value : Json) (fields : Fields) (rest : List Char) :
    renderFields ((key, value) :: fields) ++ rest =
      quote key.toList ++ ':' :: (value.render ++ afterField fields rest) := by
  cases fields <;> simp [renderFields, afterField]

theorem afterField_of_ne_nil {fields : Fields} (more : fields ≠ []) (rest : List Char) :
    afterField fields rest = ',' :: (renderFields fields ++ rest) := by
  rw [afterField, List.isEmpty_eq_false_iff.mpr more, if_neg Bool.false_ne_true]

theorem endsNumeral_afterField (fields : Fields) (rest : List Char) :
    EndsNumeral (afterField fields rest) := by
  cases fields <;> exact endsNumeral_cons (by decide) _

mutual

/-- **The machine on the text of a value.** -/
theorem run_render (j : Json) {limit : Nat} {reader : Reader} {frames : List Frame} {rest : List Char}
    (awaits : AwaitsValue limit reader frames) (ends : EndsNumeral rest) :
    run limit reader (j.render ++ rest) =
      (j.readBack? (limit - frames.length)).bind fun value => run limit (.complete value frames) rest := by
  match j with
  | .null => exact run_scalar awaits rfl rfl
  | .bool true => exact run_scalar awaits rfl rfl
  | .bool false => exact run_scalar awaits rfl rfl
  | .integer n =>
    obtain ⟨numeral, htext⟩ := exists_numeral_integer n
    rw [render, readBack?, htext]
    exact run_numeral awaits numeral ends
  | .float x =>
    obtain ⟨numeral, htext⟩ := exists_numeral_float x
    rw [render, readBack?, htext]
    exact run_numeral awaits numeral ends
  | .string s =>
    have htext : Token.text s ≠ .closeArray := by simp
    rw [render, run_quote, awaits _ htext]
    rfl
  | .array items =>
    rw [render, List.cons_append, run_open awaits rfl rfl ⟨by simp, rfl⟩]
    split
    -- a frame is opened, and the level it takes is gone for the items
    · rename_i deep
      obtain ⟨left, hleft⟩ := Nat.exists_eq_add_one.mpr (Nat.sub_pos_of_lt deep)
      have hinner : limit - (frames.length + 1) = left := by omega
      rw [hleft, readBack?, Option.bind_map]
      by_cases hnone : items = []
      · subst hnone
        exact run_mark rfl rfl rfl
      · rw [run_renderItems items hnone (awaitsValue_firstItem frames), hinner]
        rfl
    · rename_i deep
      rw [Nat.sub_eq_zero_of_le (Nat.le_of_not_lt deep)]
      rfl
  | .object fields =>
    rw [render, List.cons_append, run_open awaits rfl rfl ⟨by simp, rfl⟩]
    split
    -- and the same with fields
    · rename_i deep
      obtain ⟨left, hleft⟩ := Nat.exists_eq_add_one.mpr (Nat.sub_pos_of_lt deep)
      have hinner : limit - (frames.length + 1) = left := by omega
      rw [hleft, readBack?, Option.bind_map]
      by_cases hnone : fields = []
      · subst hnone
        exact run_mark rfl rfl rfl
      · rw [run_renderFields fields hnone (awaitsKey_firstKey frames), hinner]
        rfl
    · rename_i deep
      rw [Nat.sub_eq_zero_of_le (Nat.le_of_not_lt deep)]
      rfl

/-- The machine on the items of an array, after those that stand before them. -/
theorem run_renderItems (items : List Json) (nonempty : items ≠ []) {limit : Nat} {reader : Reader}
    {frames : List Frame} {before : List Json} {rest : List Char}
    (awaits : AwaitsValue limit reader (.items before :: frames)) :
    run limit reader (renderItems items ++ rest) =
      (readBackItems? items (limit - (frames.length + 1))).bind fun values =>
        run limit (.complete (.array (before.reverse ++ values)) frames) rest := by
  match items, nonempty with
  | item :: items, _ =>
    rw [renderItems_cons, run_render item awaits (endsNumeral_afterItem items rest), readBackItems?]
    show ((item.readBack? (limit - (frames.length + 1))).bind fun _ => _) = _
    cases item.readBack? (limit - (frames.length + 1)) with
    | none => rfl
    | some value =>
      -- the last item is closed, any other is followed by a comma
      by_cases hnone : items = []
      · subst hnone
        show run limit _ (']' :: rest) = run limit _ rest
        rw [← List.reverse_cons]
        exact run_mark rfl rfl rfl
      · show run limit _ (afterItem items rest) = _
        rw [afterItem_of_ne_nil hnone, run_mark rfl rfl rfl,
          run_renderItems items hnone (awaitsValue_value _)]
        cases readBackItems? items (limit - (frames.length + 1)) with
        | none => rfl
        | some values => simp

/-- The machine on the fields of an object, after those that were set before. -/
theorem run_renderFields (fields : List (String × Json)) (nonempty : fields ≠ []) {limit : Nat}
    {reader : Reader} {frames : List Frame} {before : Fields} {rest : List Char}
    (awaits : AwaitsKey limit reader before frames) :
    run limit reader (renderFields fields ++ rest) =
      (readBackFields? fields (limit - (frames.length + 1))).bind fun values =>
        run limit (.complete (.object
          (values.foldl (fun sorted kv => Fields.insert sorted kv.1 kv.2) before)) frames) rest := by
  match fields, nonempty with
  | (key, value) :: fields, _ =>
    rw [renderFields_cons, run_key awaits,
      run_render value (awaitsValue_value _) (endsNumeral_afterField fields rest), readBackFields?]
    show ((value.readBack? (limit - (frames.length + 1))).bind fun _ => _) = _
    cases value.readBack? (limit - (frames.length + 1)) with
    | none => rfl
    | some found =>
      -- a key that was written before is replaced, as the fields are put in order
      by_cases hnone : fields = []
      · subst hnone
        exact run_mark rfl rfl rfl
      · show run limit _ (afterField fields rest) = _
        rw [afterField_of_ne_nil hnone, run_mark rfl rfl rfl,
          run_renderFields fields hnone (awaitsKey_nextKey _ _)]
        cases readBackFields? fields (limit - (frames.length + 1)) with
        | none => rfl
        | some values => rfl

end

/-- **A value is read back from its text.** -/
theorem parseWithin?_render (limit : Nat) (j : Json) :
    parseWithin? limit j.render = j.readBack? limit := by
  have hawaits : AwaitsValue limit (.value []) [] := awaitsValue_value []
  have hends : EndsNumeral [] := by simp [EndsNumeral]
  have hrun := run_render j hawaits hends
  have hparse : parseWithin? limit j.render = (run limit (.value []) j.render).bind Reader.result? := by
    rw [run, Option.bind_assoc]
    rfl
  rw [List.append_nil] at hrun
  rw [hparse, hrun]
  show ((j.readBack? limit).bind fun value => some (.complete value [])).bind Reader.result? = _
  cases j.readBack? limit <;> rfl

theorem parse?_compress (j : Json) : parse? j.compress = j.readBack? nestingLimit := by
  rw [parse?, compress, String.toList_ofList, parseWithin?_render]

/-! ## Objects that were read back -/

theorem Fields.get?_of_not_mem {fields : Fields} {key : String} (absent : key ∉ fields.map Prod.fst) :
    Fields.get? fields key = none := by
  induction fields with
  | nil => rfl
  | cons field fields ih =>
    rw [List.map_cons, List.mem_cons, not_or] at absent
    rw [Fields.get?, if_neg (Ne.symm absent.1), ih absent.2]

/-- Where every field is read back, all are. -/
theorem exists_readBackFields {fields : Fields} {limit : Nat}
    (readable : ∀ field ∈ fields, ∃ value, field.2.readBack? limit = some value) :
    ∃ found, readBackFields? fields limit = some found := by
  induction fields with
  | nil => exact ⟨[], rfl⟩
  | cons field fields ih =>
    obtain ⟨key, value⟩ := field
    obtain ⟨⟨v, hv⟩, readable⟩ := List.forall_mem_cons.mp readable
    obtain ⟨found, hfound⟩ := ih readable
    exact ⟨(key, v) :: found, by rw [readBackFields?, hv, hfound]; rfl⟩

/-- And where all are read back, every one is. -/
theorem readBack_of_mem {fields found : Fields} {limit : Nat}
    (readBack : readBackFields? fields limit = some found) :
    ∀ field ∈ fields, ∃ value, field.2.readBack? limit = some value := by
  induction fields generalizing found with
  | nil => simp
  | cons field fields ih =>
    obtain ⟨key, value⟩ := field
    obtain ⟨v, hv, readBack⟩ := Option.bind_eq_some_iff.mp readBack
    obtain ⟨later, hlater, -⟩ := Option.map_eq_some_iff.mp readBack
    exact List.forall_mem_cons.mpr ⟨⟨v, hv⟩, ih hlater⟩

/-- Each field is read back for itself. -/
theorem get?_foldl_of_readBack {fields found : Fields} {limit : Nat}
    (distinct : (fields.map Prod.fst).Nodup) (readBack : readBackFields? fields limit = some found)
    (start : Fields) (key : String) :
    Fields.get? (found.foldl (fun sorted kv => Fields.insert sorted kv.1 kv.2) start) key =
      ((Fields.get? fields key).bind (·.readBack? limit)).or (Fields.get? start key) := by
  induction fields generalizing found start with
  | nil =>
    cases readBack
    rfl
  | cons field fields ih =>
    obtain ⟨name, value⟩ := field
    obtain ⟨absent, distinct⟩ := List.nodup_cons.mp distinct
    obtain ⟨v, hv, readBack⟩ := Option.bind_eq_some_iff.mp readBack
    obtain ⟨later, hlater, rfl⟩ := Option.map_eq_some_iff.mp readBack
    rw [List.foldl_cons, ih distinct hlater, Fields.get?]
    by_cases same : name = key
    · subst same
      rw [Fields.get?_of_not_mem absent, Fields.get?_insert_self, if_pos rfl, Option.bind_some, hv]
      rfl
    · rw [if_neg same, Fields.get?_insert_of_ne start v (Ne.symm same)]

theorem exists_readBack_object {fields : Fields} {limit : Nat}
    (readable : ∀ field ∈ fields, ∃ value, field.2.readBack? limit = some value) :
    ∃ found, (Json.object fields).readBack? (limit + 1) = some found := by
  obtain ⟨values, hvalues⟩ := exists_readBackFields readable
  refine ⟨ofFields values, ?_⟩
  rw [readBack?, hvalues]
  rfl

/-- **An object whose fields can be read**, each given once, is read field by field. -/
theorem exists_object {fields : Fields} {limit : Nat} (distinct : (fields.map Prod.fst).Nodup)
    (readable : ∀ field ∈ fields, ∃ value, field.2.readBack? limit = some value) :
    ∃ found, (Json.object fields).readBack? (limit + 1) = some found ∧ found.isObject = true ∧
      ∀ key, found.get? key = ((Json.object fields).get? key).bind (·.readBack? limit) := by
  obtain ⟨found, hfound⟩ := exists_readBack_object readable
  obtain ⟨values, hvalues, rfl⟩ := Option.map_eq_some_iff.mp hfound
  refine ⟨ofFields values, hfound, rfl, fun key => ?_⟩
  have hget := get?_foldl_of_readBack distinct hvalues [] key
  rwa [Fields.get?, Option.or_none] at hget

end BrowserAct.Json
