import BrowserAct.Planner.Endpoint
import BrowserAct.Proofs.Json.Standard
import BrowserAct.Proofs.Planner.Request

/-!
# Steps as they are recorded

A step goes through three hands: the request is written, the endpoint reads it again and makes a record
of what was asked and answered, and the step is built from the record. What comes out is what was shown
to the planner and what it answered.

* **`Request.exists_read`** is what the endpoint reads of a request.
* **`Endpoint.Carries`** is a body with a program, and **`Endpoint.carries_of_readProgram`** says that
  programs are taken from these bodies only.
* **`Act.Step.ofMessage_recordOf`** is the step of a record.
* **`Endpoint.step_recorded`** puts them together.
-/

namespace BrowserAct

/-! ## Requests that are read again -/

namespace Planner

/-- **A request that is nested no deeper than is read** is read with its picture and its address. -/
theorem Request.exists_read (r : Request) (representable : r.observation.toJson.Representable)
    (within : r.toJson.depth ≤ Json.nestingLimit) :
    ∃ request, Json.parse? r.text = some request ∧
      request.field "screenshotBase64" = .string r.observation.screenshot ∧
      (request.field "observation").field "activeURL" = .string r.observation.activeUrl := by
  -- the observation is one level less deep
  have hdepth : r.observation.toJson.depth ≤ 126 :=
    Json.depthFields_le_iff.mp (Nat.le_of_succ_le_succ within) ("observation", r.observation.toJson)
      (by simp [fields])
  obtain ⟨observed, hobserved⟩ := Json.exists_readBack_of_depth _ representable hdepth
  have hrel := r.rel_text 126
  rw [Json.parseWithin?_render, hobserved] at hrel
  cases hrequest : Json.parseWithin? (126 + 1) r.text.toList with
  | none =>
    rw [hrequest] at hrel
    cases hrel
  | some request =>
    rw [hrequest] at hrel
    obtain ⟨-, -, hget⟩ := Option.rel_some_some.mp hrel
    have hscreenshot : request.get? "screenshotBase64" = some (.string r.observation.screenshot) := by
      rw [hget]
      rfl
    have hobservation : request.get? "observation" = some observed := by
      rw [hget, ← hobserved]
      rfl
    refine ⟨request, hrequest, ?_, ?_⟩
    · rw [Json.field, hscreenshot]
      rfl
    · rw [Json.field, Json.field, hobservation, Option.getD_some,
        (Observation.shows_of_readBack hobserved).activeUrl]
      rfl

end Planner

/-! ## Steps of records -/

namespace Act.Step

/-- A path into a message goes on in what the first key has. -/
theorem textAt_cons {message inner : Json} {key : String} (found : message.get? key = some inner)
    (path : List String) : textAt message (key :: path) = textAt inner path := by
  unfold textAt
  rw [List.foldlM_cons, found]
  rfl

theorem textAt_cons_of_none {message : Json} {key : String} (absent : message.get? key = none)
    (path : List String) : textAt message (key :: path) = "" := by
  unfold textAt
  rw [List.foldlM_cons, absent]
  rfl

open Planner.Endpoint (recordOf)

variable (act : Act) (request response : Json) (seconds : Decimal.Binary64)

/-- What is recorded as output is the answer. -/
theorem textAt_output (path : List String) :
    textAt (recordOf act request response seconds) ("output" :: path) = textAt response path :=
  textAt_cons (Json.get?_ofFields_append [("input", _)] response (by simp)) path

/-- The picture is that of the request. -/
theorem textAt_screenshot :
    textAt (recordOf act request response seconds) ["input", "screenshot"] =
      (request.field "screenshotBase64").stringOrEmpty := by
  rw [recordOf, textAt_cons (Json.get?_ofFields_cons _ (by simp)),
    textAt_cons (Json.get?_ofPresent_cons _ (by simp))]
  rfl

theorem textAt_prompt :
    textAt (recordOf act request response seconds) ["input", "prompt"] = act.request.prompt := by
  rw [recordOf, textAt_cons (Json.get?_ofFields_cons _ (by simp))]
  exact textAt_cons
    (Json.get?_ofPresent_append [("screenshot", _)] (.string act.request.prompt) (by simp)) []

/-- The address is found under the second of its spellings. -/
theorem activeUrlOf_recordOf :
    activeUrlOf (recordOf act request response seconds) =
      ((request.field "observation").field "activeURL").stringOrEmpty := by
  have hmetadata (key : String) :
      textAt (recordOf act request response seconds) ["input", "metadata", key] =
        textAt (.ofFields [("activeUrl", (request.field "observation").field "activeURL")]) [key] := by
    rw [recordOf, textAt_cons (Json.get?_ofFields_cons _ (by simp))]
    exact textAt_cons
      (Json.get?_ofPresent_append [("screenshot", _), ("prompt", _)]
        (.ofFields [("activeUrl", (request.field "observation").field "activeURL")]) (by simp)) [key]
  unfold activeUrlOf
  -- the record has no `activeURL`, the spelling that is looked for first
  rw [hmetadata, hmetadata, textAt_cons_of_none rfl, if_pos rfl, textAt_cons rfl]
  rfl

/-- **The step of a record** has what was asked and what was answered. -/
theorem ofMessage_recordOf {image url source : String}
    (screenshot : request.field "screenshotBase64" = .string image)
    (address : (request.field "observation").field "activeURL" = .string url)
    (program : response.get? "rawProgramBody" = some (.string source)) (hasImage : image ≠ "")
    (hasProgram : source ≠ "") (now : Moment) :
    ∃ step, ofMessage (recordOf act request response seconds) now = .ok step ∧ step.image = image ∧
      step.activeUrl = url ∧ step.prompt = act.request.prompt ∧ step.program = source ∧
      step.requestId = (response.field "requestId").stringOrEmpty := by
  have himage : textAt (recordOf act request response seconds) ["input", "screenshot"] = image := by
    rw [textAt_screenshot, screenshot]
    rfl
  have hurl : activeUrlOf (recordOf act request response seconds) = url := by
    rw [activeUrlOf_recordOf, address]
    rfl
  have hprogram : textAt (recordOf act request response seconds) ["output", "rawProgramBody"] =
      source := by
    rw [textAt_output, textAt_cons program]
    rfl
  -- the identifier may be missing, which is the same as an empty one
  have hrequestId : textAt response ["requestId"] = (response.field "requestId").stringOrEmpty := by
    unfold Json.field
    cases hfound : response.get? "requestId" with
    | none => exact textAt_cons_of_none hfound []
    | some value => exact textAt_cons hfound []
  rw [ofMessage, himage, hprogram, if_neg hasImage, if_neg hasProgram]
  refine ⟨_, rfl, rfl, hurl, textAt_prompt act request response seconds, rfl, ?_⟩
  rw [textAt_output, hrequestId]

end Act.Step

/-! ## What the endpoint answers -/

namespace Planner.Endpoint

/-- A body with the text of a plan response in which there is a program. -/
structure Carries (body : String) (response : Json) (source : String) : Prop where
  plan : ∃ parsed text, Json.parse? body = some parsed ∧
    parsed.get? "actuationPlanResponse" = some (.string text) ∧ Json.parse? text = some response
  program : response.get? "rawProgramBody" = some (.string source)

/-- A body that is no JSON carries nothing, as an empty one would. -/
theorem carries_iff {body : String} {response : Json} {source : String} :
    Carries body response source ↔
      ∃ text, (((Json.parse? body).getD .null).field "actuationPlanResponse").asString? = some text ∧
        Json.parse? text = some response ∧
        (response.field "rawProgramBody").asString? = some source := by
  simp only [Json.asString?_field_eq_some_iff]
  constructor
  · rintro ⟨⟨parsed, text, hparsed, htext, hresponse⟩, program⟩
    refine ⟨text, ?_, hresponse, program⟩
    rw [hparsed]
    exact htext
  · rintro ⟨text, htext, hresponse, program⟩
    -- a body that cannot be read has no such field
    cases hparsed : Json.parse? body with
    | none =>
      rw [hparsed] at htext
      cases htext
    | some parsed =>
      rw [hparsed] at htext
      exact ⟨⟨parsed, text, hparsed, htext, hresponse⟩, program⟩

/-- A body carries one program at most. -/
theorem Carries.unique {body : String} {response response' : Json} {source source' : String}
    (carries : Carries body response source) (carries' : Carries body response' source') :
    response = response' ∧ source = source' := by
  obtain ⟨text, htext, hresponse, hsource⟩ := carries_iff.mp carries
  obtain ⟨text', htext', hresponse', hsource'⟩ := carries_iff.mp carries'
  cases htext.symm.trans htext'
  cases hresponse.symm.trans hresponse'
  cases hsource.symm.trans hsource'
  exact ⟨rfl, rfl⟩

/-- A body that carries a program is read as that program. -/
theorem readProgram_of_carries {body : String} {response : Json} {source : String}
    (carries : Carries body response source) (act : Act) (request : Json)
    (seconds : Decimal.Binary64) :
    readProgram act request body seconds =
      .ok (.program source (recordOf act request response seconds)) := by
  obtain ⟨text, htext, hresponse, hsource⟩ := carries_iff.mp carries
  simp only [readProgram, htext, hresponse, hsource]

/-- **Programs are taken from such bodies**, and from no others. -/
theorem carries_of_readProgram {act : Act} {request : Json} {body : String}
    {seconds : Decimal.Binary64} {answer : Answer}
    (answered : readProgram act request body seconds = .ok answer) :
    ∃ response source, Carries body response source := by
  -- each of the three looks at the body may find nothing, and then there is no answer
  cases htext : (((Json.parse? body).getD .null).field "actuationPlanResponse").asString? with
  | none =>
    simp only [readProgram, htext] at answered
    cases answered
  | some text =>
    cases hresponse : Json.parse? text with
    | none =>
      simp only [readProgram, htext, hresponse] at answered
      cases answered
    | some response =>
      cases hsource : (response.field "rawProgramBody").asString? with
      | none =>
        simp only [readProgram, htext, hresponse, hsource] at answered
        cases answered
      | some source =>
        exact ⟨response, source, carries_iff.mpr ⟨text, htext, hresponse, hsource⟩⟩

/-- A request that can be read is answered by what was received. -/
theorem step_of_received {e : Endpoint} {act : Act} {text : String} {request : Json} {post : Post}
    {send : Post → Reply} {status : Nat} {body : String} {seconds : Decimal.Binary64}
    (parsed : Json.parse? text = some request) (posted : e.post act text = .ok post)
    (received : send post = .received status body seconds) :
    e.step act text send = readResponse act request status body seconds := by
  simp only [step, parsed, posted, received]

/-- **The step that is recorded is the step that happened.** Whatever was received, a request of numbers
that there can be, nested no deeper than is read,

* fails with the service, exactly if the status says so, and with the payload of that status and body;
* else has a program, exactly if the body carries one, and no answer at all if it does not.

And the step of the record of a program has the picture and the address of the observation, the prompt
of the act, and the program and the id of the response. -/
theorem step_recorded {e : Endpoint} {act : Act} {r : Request} {post : Post} {send : Post → Reply}
    {status : Nat} {body : String} {seconds : Decimal.Binary64}
    (hasImage : r.observation.screenshot ≠ "")
    (representable : r.observation.toJson.Representable)
    (within : r.toJson.depth ≤ Json.nestingLimit) (posted : e.post act r.text = .ok post)
    (received : send post = .received status body seconds) :
    (∀ payload, e.step act r.text send = .ok (.failed payload) ↔
      400 ≤ status ∧ payload = serviceFailure status ((Json.parse? body).getD .null)) ∧
    (∀ source, (∃ record, e.step act r.text send = .ok (.program source record)) ↔
      status < 400 ∧ ∃ response, Carries body response source) ∧
    ((∃ error, e.step act r.text send = .error error) ↔
      status < 400 ∧ ∀ response source, ¬ Carries body response source) ∧
    ∀ source record, e.step act r.text send = .ok (.program source record) → source ≠ "" →
      ∀ now, ∃ response step, Carries body response source ∧
        Act.Step.ofMessage record now = .ok step ∧ step.image = r.observation.screenshot ∧
        step.activeUrl = r.observation.activeUrl ∧ step.prompt = act.request.prompt ∧
        step.program = source ∧ step.requestId = (response.field "requestId").stringOrEmpty := by
  obtain ⟨request, hparsed, hscreenshot, haddress⟩ := r.exists_read representable within
  rw [step_of_received hparsed posted received, readResponse]
  by_cases failed : 400 ≤ status
  · -- then the body decides nothing but what the payload says
    rw [if_pos failed]
    simp [failed, Nat.not_lt.mpr failed, eq_comm]
  · rw [if_neg failed]
    have below : status < 400 := Nat.lt_of_not_le failed
    -- below that, the body decides alone
    by_cases carried : ∃ response source, Carries body response source
    · obtain ⟨response, source, carries⟩ := carried
      rw [readProgram_of_carries carries]
      refine ⟨fun payload => by simp [failed], fun source' => ⟨?_, ?_⟩, ⟨?_, ?_⟩, ?_⟩
      · rintro ⟨record, same⟩
        cases same
        exact ⟨below, response, carries⟩
      · rintro ⟨-, response', carries'⟩
        obtain ⟨-, rfl⟩ := carries.unique carries'
        exact ⟨_, rfl⟩
      · rintro ⟨error, same⟩
        cases same
      · rintro ⟨-, none⟩
        exact absurd carries (none response source)
      -- the record is made of the request and of the answer, and a step can be made of it
      · intro source' record same hasProgram now
        cases same
        obtain ⟨step, recorded⟩ := Act.Step.ofMessage_recordOf act request response seconds
          hscreenshot haddress carries.program hasImage hasProgram now
        exact ⟨response, step, carries, recorded⟩
    · cases hanswer : readProgram act request body seconds with
      | ok answer => exact absurd (carries_of_readProgram hanswer) carried
      | error error =>
        have none (response : Json) (source : String) : ¬ Carries body response source :=
          fun carries => carried ⟨response, source, carries⟩
        simp [none, below, failed]

/-! ### A program of one statement -/

namespace Shop

def endpoint : Endpoint :=
  ⟨"https://shop.example/step", "key"⟩

def act : Act :=
  .new "act-1" ⟨"buy socks", "session-1", "planner-1", none, 3, default⟩ 0

def request : Request :=
  ⟨act.id, act.request.prompt, act.request.endpointName,
    ⟨"https://shop.example/socks", [("windowHeight", 900)], [("7", .object [("x", .integer 1)])],
      "AAAA", "<a/>", 17, "browser"⟩, true, none⟩

def plan : Json :=
  .object [("rawProgramBody", .string "return;"), ("requestId", .string "request-1")]

def body : String :=
  (Json.object [("actuationPlanResponse", .string plan.compress)]).compress

/-- The body carries a program and an identifier. -/
theorem exists_carries : ∃ response, Carries body response "return;" ∧
    (response.field "requestId").stringOrEmpty = "request-1" := by
  obtain ⟨response, hread, -, hget⟩ : ∃ found, plan.readBack? 127 = some found ∧
      found.isObject = true ∧ ∀ key, found.get? key = (plan.get? key).bind (·.readBack? 126) := by
    refine Json.exists_object (by simp) ?_
    simp only [List.forall_mem_cons]
    exact ⟨⟨_, rfl⟩, ⟨_, rfl⟩, by simp⟩
  have hplan : Json.parse? plan.compress = some response := (Json.parse?_compress plan).trans hread
  refine ⟨response, ⟨⟨_, plan.compress, Json.parse?_compress _, rfl, hplan⟩, ?_⟩, ?_⟩
  · rw [hget]
    rfl
  · rw [Json.field, hget]
    rfl

/-- The request can be posted. -/
theorem exists_post : ∃ post, endpoint.post act request.text = .ok post := by
  have haddress : (Url.Address.parse? endpoint.url).isSome = true := by decide +kernel
  have hkey : isHeaderValue endpoint.apiKey = true := by decide
  obtain ⟨address, found⟩ := Option.isSome_iff_exists.mp haddress
  rw [post, found]
  exact ⟨_, if_pos hkey⟩

end Shop

/-- A program is handed on, and its step is recorded. -/
theorem step_recorded_shop :
    let send : Post → Reply := fun _ => .received 200 Shop.body (.ofInt 1)
    ∃ record step,
      Shop.endpoint.step Shop.act Shop.request.text send = .ok (.program "return;" record) ∧
      Act.Step.ofMessage record 0 = .ok step ∧ step.image = "AAAA" ∧
      step.activeUrl = "https://shop.example/socks" ∧ step.prompt = "buy socks" ∧
      step.program = "return;" ∧ step.requestId = "request-1" := by
  intro send
  obtain ⟨post, posted⟩ := Shop.exists_post
  have received : send post = .received 200 Shop.body (.ofInt 1) := rfl
  have hasImage : Shop.request.observation.screenshot ≠ "" := by decide
  have representable : Shop.request.observation.toJson.Representable := by
    simp [Shop.request, Observation.toJson, Observation.boxesJson, Json.Representable,
      Json.RepresentableFields, Json.IsNumber]
  have within : Shop.request.toJson.depth ≤ Json.nestingLimit := by decide
  obtain ⟨-, hprogram, -, hstep⟩ := step_recorded hasImage representable within posted received
  obtain ⟨response, carries, hid⟩ := Shop.exists_carries
  obtain ⟨record, hrecord⟩ := (hprogram "return;").mpr ⟨by decide, response, carries⟩
  obtain ⟨_, step, carries', hof, himage, hurl, hprompt, hsource, hrequestId⟩ :=
    hstep "return;" record hrecord (by decide) 0
  -- a body carries one answer only
  obtain ⟨rfl, -⟩ := carries.unique carries'
  exact ⟨record, step, hrecord, hof, himage, hurl, hprompt, hsource, hrequestId.trans hid⟩

end Planner.Endpoint

end BrowserAct
