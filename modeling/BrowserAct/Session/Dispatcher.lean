import BrowserAct.Dispatch.Extension.Page
import BrowserAct.Dispatch.Extension.Prompt
import BrowserAct.Dispatch.Planned

/-!
# Dispatchers

A session hands its acts to a dispatcher, whichever it is. No answer means that the run is not over
within the bound that the dispatcher was given.
-/

namespace BrowserAct.Session

variable {σ : Type}

/-- What carries out the acts of a session, in a world of type `σ`. -/
structure Dispatcher (σ : Type) where
  dispatch : Act → Course σ → Option (Act.Outcome × Act × Course σ)
  settle : String → Option Duration → Course σ → Option (Except Act.Failure Unit × Course σ)
  goToUrl : String → String → Option Duration → Course σ →
    Option (Except Act.Failure Unit × Course σ)
  /-- What the world does while the session pauses. -/
  pause : Duration → σ → Reaction σ Unit

/-- A world in which nothing happens during a pause. -/
def noMove (_ : Duration) (world : σ) : Reaction σ Unit :=
  { answer := (), world }

namespace Dispatcher

def planned (site : Dispatch.Planned.Site σ) (settings : Dispatch.Planned.Settings)
    (pause : Duration → σ → Reaction σ Unit := noMove) : Dispatcher σ where
  dispatch act c :=
    let (outcome, r) := Dispatch.Planned.dispatch site settings act c
    some (outcome, r.act, r.course)
  settle sessionId timeout c := some (Dispatch.Planned.settle site settings sessionId timeout c)
  goToUrl url sessionId timeout c :=
    some (Dispatch.Planned.goToUrl site settings url sessionId timeout c)
  pause := pause

open Dispatch.Extension (Surface Settings Link) in
/-- The dispatcher that goes through the browser extension; each wait is bounded. -/
def extension (surface : Surface σ) (settings : Settings) (fuel : Nat)
    (pause : Duration → σ → Reaction σ Unit := noMove) : Dispatcher (Link σ) where
  dispatch act c :=
    (Dispatch.Extension.dispatch surface settings fuel act c).map fun (outcome, r) =>
      (outcome, r.act, r.course)
  settle := Dispatch.Extension.settlePage surface settings fuel
  goToUrl := Dispatch.Extension.goToUrl surface settings fuel
  pause d link := (pause d link.surface).lift fun surface => { link with surface }

end Dispatcher

end BrowserAct.Session
