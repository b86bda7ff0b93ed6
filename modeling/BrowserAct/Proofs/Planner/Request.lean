import BrowserAct.Planner.Request
import BrowserAct.Proofs.Json.RoundTrip

/-!
# Requests as they are read

A request is sent as a text. Whoever can read the text of an observation can read that of a request with
the observation, which lies one level deeper, and each field of the request is read for itself.

* **`Observation.Shows`** says what is read of an observation, and **`Observation.exists_observed`** when
  it can be read.
* **`Request.rel_text`** is the text of a request, and **`Request.exists_task`** the task in it.
-/

namespace BrowserAct.Planner

open Json (parseWithin? parseWithin?_render)

namespace Observation

/-! ## Observations -/

/-- Numbers of 64 bits, and no dimension given twice. -/
structure Sound (o : Observation) : Prop where
  fits : ∀ n ∈ o.timestampMs :: o.dimensions.map Prod.snd,
    -0x8000_0000_0000_0000 ≤ n ∧ n < 0x1_0000_0000_0000_0000
  distinct : (o.dimensions.map Prod.fst).Nodup

/-- What is read of an observation shows each of its fields. -/
structure Shows (o : Observation) (observed : Json) : Prop where
  activeUrl : observed.get? "activeURL" = some (.string o.activeUrl)
  screenshot : observed.get? "screenshotBase64" = some (.string o.screenshot)
  simplifiedDom : observed.get? "simplifiedDOM" = some (.string o.simplifiedDom)
  userAgent : observed.get? "userAgent" = some (.string o.userAgent)
  timestamp : o.Sound → observed.get? "timestamp_ms" = some (.integer o.timestampMs)
  dimensions : o.Sound → ∃ dimensions, observed.get? "browserDimensions" = some dimensions ∧
    ∀ key value, dimensions.get? key = some value ↔ ∃ n, value = .integer n ∧ (key, n) ∈ o.dimensions
  boxes : ∃ limit boxes, parseWithin? limit o.boxesJson.render = some boxes ∧
    observed.get? "idToBboxMap" = some boxes

variable {o : Observation} {limit : Nat}

/-- The dimensions are read as they are. -/
theorem dimensions_of_readBack (sound : o.Sound) {dimensions : Json}
    (readBack : (Json.object (o.dimensions.map fun (key, n) => (key, .integer n))).readBack? limit =
      some dimensions) (key : String) (value : Json) :
    dimensions.get? key = some value ↔ ∃ n, value = .integer n ∧ (key, n) ∈ o.dimensions := by
  let fields : Json.Fields := o.dimensions.map fun (key, n) => (key, .integer n)
  -- each name is written once, so none replaces another when it is read
  have hdistinct : (fields.map Prod.fst).Nodup := by
    rw [List.map_map]
    exact sound.distinct
  have hread {n : Int} (given : (key, n) ∈ o.dimensions) (levels : Nat) :
      (Json.integer n).readBack? levels = some (.integer n) :=
    Json.readBack?_integer
      (sound.fits n (List.mem_cons_of_mem _ (List.mem_map_of_mem given))) levels
  cases limit with
  | zero => cases readBack
  | succ left =>
    obtain ⟨values, hvalues, -⟩ := Option.map_eq_some_iff.mp readBack
    obtain ⟨found, hfound, -, hget⟩ := Json.exists_object hdistinct (Json.readBack_of_mem hvalues)
    cases hfound.symm.trans readBack
    rw [hget, Option.bind_eq_some_iff]
    constructor
    · rintro ⟨written, hwritten, hvalue⟩
      obtain ⟨⟨name, n⟩, hmem, hsame⟩ := List.mem_map.mp (Json.Fields.mem_of_get? hwritten)
      cases hsame
      rw [hread hmem] at hvalue
      exact ⟨n, (Option.some.inj hvalue).symm, hmem⟩
    · rintro ⟨n, rfl, hmem⟩
      refine ⟨.integer n, ?_, hread hmem left⟩
      exact (Json.Fields.get?_eq_some_iff hdistinct).mpr (List.mem_map.mpr ⟨(key, n), hmem, rfl⟩)

/-- **What is read of an observation** shows it. -/
theorem shows_of_readBack {observed : Json} (readBack : o.toJson.readBack? limit = some observed) :
    o.Shows observed := by
  cases limit with
  | zero => cases readBack
  | succ left =>
    obtain ⟨values, hvalues, -⟩ := Option.map_eq_some_iff.mp readBack
    have heach := Json.readBack_of_mem hvalues
    obtain ⟨found, hfound, -, hget⟩ := Json.exists_object (by simp) heach
    cases hfound.symm.trans readBack
    -- the two fields that are values of their own are read back by themselves
    obtain ⟨dimensions, hdimensions⟩ := heach _ (List.mem_cons_of_mem _ List.mem_cons_self)
    obtain ⟨boxes, hboxes⟩ := heach ("idToBboxMap", o.boxesJson) (by simp)
    refine ⟨by rw [hget]; rfl, by rw [hget]; rfl, by rw [hget]; rfl, by rw [hget]; rfl,
      fun sound => ?_, fun sound => ⟨dimensions, ?_, dimensions_of_readBack sound hdimensions⟩,
      left, boxes, by rw [parseWithin?_render, hboxes], ?_⟩
    · rw [hget]
      exact Json.readBack?_integer (sound.fits _ List.mem_cons_self) left
    · rw [hget]
      exact hdimensions
    · rw [hget]
      exact hboxes

/-- A page with one box. -/
example :
    let page : Observation := ⟨"https://shop.example", [("windowHeight", 900)],
      [("7", .object [("x", .integer 1)])], "AAAA", "<a/>", 17, "browser"⟩
    parseWithin? 3 page.toJson.render = some page.toJson := by
  intro page
  rw [parseWithin?_render]
  cbv

end Observation

/-! ## Requests -/

namespace Request

/-- No field is given twice. -/
theorem fields_distinct (r : Request) : (r.fields.map Prod.fst).Nodup := by
  rw [fields]
  cases r.refusal <;> cases r.isInitial <;> simp

/-- What is read of an observation has levels left for its parts. -/
theorem exists_levels {o : Observation} {limit : Nat} {observed : Json}
    (readable : o.toJson.readBack? limit = some observed) :
    ∃ left boxes, limit = left + 2 ∧ o.boxesJson.readBack? (left + 2) = some boxes := by
  cases limit with
  | zero => cases readable
  | succ limit =>
    obtain ⟨found, hfound, -⟩ := Option.map_eq_some_iff.mp readable
    have heach := Json.readBack_of_mem hfound
    -- the dimensions of the browser and the boxes of the page are objects
    obtain ⟨dimensions, hdimensions⟩ := heach _ (List.mem_cons_of_mem _ List.mem_cons_self)
    obtain ⟨boxes, hboxes⟩ := heach ("idToBboxMap", o.boxesJson) (by simp)
    cases limit with
    | zero => cases hdimensions
    | succ left => exact ⟨left, boxes, rfl, Json.readBack?_mono _ hboxes⟩

/-- The task has two levels. -/
theorem exists_task (r : Request) (left : Nat) :
    ∃ task, r.taskJson.readBack? (left + 2) = some task ∧
      task.get? "id" = some (.string r.actId) ∧ task.get? "task" = some (.string r.prompt) ∧
      task.get? "planningModelServerHost" = some (.string r.endpointName) := by
  obtain ⟨task, htask, -, hget⟩ : ∃ task, r.taskJson.readBack? (left + 2) = some task ∧
      task.isObject = true ∧
      ∀ key, task.get? key = (r.taskJson.get? key).bind (·.readBack? (left + 1)) := by
    refine Json.exists_object (by simp) ?_
    simp only [List.forall_mem_cons]
    exact ⟨⟨_, rfl⟩, ⟨_, rfl⟩, ⟨_, rfl⟩, ⟨_, rfl⟩, ⟨_, rfl⟩, ⟨_, rfl⟩, by simp⟩
  exact ⟨task, htask, by rw [hget]; rfl, by rw [hget]; rfl, by rw [hget]; rfl⟩

/-- Where an observation can be read, all fields of a request with it can. -/
theorem fields_readable (r : Request) {limit : Nat} {observed : Json}
    (readable : r.observation.toJson.readBack? limit = some observed) :
    ∀ field ∈ r.fields, ∃ value, field.2.readBack? limit = some value := by
  obtain ⟨left, boxes, rfl, hboxes⟩ := exists_levels readable
  obtain ⟨task, htask, -⟩ := r.exists_task left
  rw [fields]
  refine List.forall_mem_append.mpr ⟨List.forall_mem_append.mpr ⟨?_, ?_⟩, ?_⟩
  · simp only [List.forall_mem_cons]
    exact ⟨⟨_, rfl⟩, ⟨boxes, hboxes⟩, ⟨observed, readable⟩, ⟨_, rfl⟩, ⟨_, rfl⟩, by simp⟩
  · cases r.refusal with
    | none => simp
    | some refusal => exact List.forall_mem_singleton.mpr ⟨_, rfl⟩
  · split
    · exact List.forall_mem_singleton.mpr ⟨task, htask⟩
    · simp

/-- **The text of a request** is read exactly where that of its observation is, one level less deep. -/
theorem rel_text (r : Request) (limit : Nat) :
    Option.Rel (fun observed decoded => decoded.isObject = true ∧
        r.observation.toJson.readBack? limit = some observed ∧
        ∀ key, decoded.get? key = (r.toJson.get? key).bind (·.readBack? limit))
      (parseWithin? limit r.observation.toJson.render) (parseWithin? (limit + 1) r.text.toList) := by
  rw [text, Json.compress, String.toList_ofList, parseWithin?_render, parseWithin?_render]
  cases hobserved : r.observation.toJson.readBack? limit with
  | some observed =>
    obtain ⟨decoded, hdecoded, isObject, hget⟩ :=
      Json.exists_object r.fields_distinct (r.fields_readable hobserved)
    rw [toJson, hdecoded]
    exact .some ⟨isObject, rfl, hget⟩
  -- the request holds the observation, so it cannot be read without it
  | none =>
    cases hdecoded : r.toJson.readBack? (limit + 1) with
    | none => exact .none
    | some decoded =>
      obtain ⟨found, hfound, -⟩ := Option.map_eq_some_iff.mp hdecoded
      obtain ⟨observed, readable⟩ :=
        Json.readBack_of_mem hfound ("observation", r.observation.toJson) (by simp [fields])
      rw [hobserved] at readable
      cases readable

end Request

end BrowserAct.Planner
