import BrowserAct.Dispatch.Extension.Link
import BrowserAct.Dispatch.Failure

/-!
# Pages through the extension

Outside any act the extension is asked for a settled page, and the browser is sent to an address. A
page that does not settle in time is taken as it is.
-/

namespace BrowserAct.Dispatch.Extension

open Channel (Binding)

variable {σ : Type}

def pollPage (surface : Surface σ) (settings : Settings) (c : Course (Link σ)) :
    Course (Link σ) :=
  let (messages, c) := fetch surface settings c
  rebind c (Binding.handleAllAlone settings.key c.world.binding messages)

/-- Polls until the bound page has settled or a deadline has come. -/
def untilSettled (surface : Surface σ) (settings : Settings) (fuel : Nat) (deadline : Moment)
    (c : Course (Link σ)) : Option Unit × Course (Link σ) :=
  Course.repeatUntil
    (fun c =>
      if c.world.binding.pageSettled? = some true ∨ deadline ≤ c.now then some () else none)
    (pollPage surface settings) fuel c

def pageFailure (sessionId : String) (cause : Channel.Error) : Act.Failure :=
  sessionFailure .client sessionId cause.message

def postSettle (surface : Surface σ) (settings : Settings) (sessionId : String)
    (timeout : Duration) (c : Course (Link σ)) : Course (Link σ) :=
  let n := c.world.settleCount
  let message := Channel.Message.settle (settings.settleIds n) settings.apiKey
    settings.service.apiUri sessionId (timeout / 1_000_000_000)
  post surface settings message { c with world := { c.world with settleCount := n + 1 } }

def settlePage (surface : Surface σ) (settings : Settings) (fuel : Nat) (sessionId : String)
    (timeout : Option Duration) (c : Course (Link σ)) :
    Option (Except Act.Failure Unit × Course (Link σ)) :=
  let timeout := timeout.getD settings.timings.settleTimeout
  match installKey surface settings c with
  | (.error cause, c) => some (.error (pageFailure sessionId cause), c)
  | (.ok _, c) =>
    match c.world.binding.bindPage sessionId false with
    | .error cause => some (.error (pageFailure sessionId cause), c)
    | .ok binding =>
      let c := postSettle surface settings sessionId timeout (rebind c binding)
      let deadline := c.now + settings.timings.ackTimeout + timeout
      match untilSettled surface settings fuel deadline c with
      | (none, _) => none
      | (some _, c) => some (.ok (), rebind c .idle)

/-- Sends the browser to an address and waits for the page to settle. -/
def goToUrl (surface : Surface σ) (settings : Settings) (fuel : Nat) (url sessionId : String)
    (timeout : Option Duration) (c : Course (Link σ)) :
    Option (Except Act.Failure Unit × Course (Link σ)) :=
  let c := c.log (.navigated url)
  match await c (surface.navigate c.now url) with
  | (.error cause, c) => some (.error (pageFailure sessionId cause), c)
  | (.ok _, c) => settlePage surface settings fuel sessionId timeout c

end BrowserAct.Dispatch.Extension
