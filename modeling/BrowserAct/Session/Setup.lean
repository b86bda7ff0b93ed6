import BrowserAct.Planner.Endpoint
import BrowserAct.Session.Client
import BrowserAct.Session.Logging

/-!
# Setting up a session

A session is set up from a configuration: first what every session needs is checked, then what its
dispatcher needs, and only that.

* **`Config.setUp`** is the client and the settings of its dispatcher.
-/

namespace BrowserAct.Session

/-- The settings of a dispatcher that plans its acts at an endpoint. -/
structure PlanningSetup where
  settings : Dispatch.Planned.Settings
  endpoint : Planner.Endpoint
  connectTimeout : Duration
  readTimeout : Duration

namespace Config

/-- The settings of a dispatcher that plans its acts in a way of its own. -/
def plannedSettings (c : Config) (trace : Trace) : Except ConfigError Dispatch.Planned.Settings := do
  return { service := c.service, trace, settleTimeout := ← c.planning.settleDuration }

/-- The settings of a dispatcher that plans its acts at an endpoint. -/
def planningSetup (c : Config) (apiKey : String) (trace : Trace) :
    Except ConfigError PlanningSetup := do
  let connectTimeout ← c.planning.connectDuration
  let readTimeout ← c.planning.readDuration
  let endpoint ← match Planner.Endpoint.of c.service apiKey with
    | .ok endpoint => .ok endpoint
    | .error e => .error (.unusableEndpoint e.message)
  return { settings := ← c.plannedSettings trace, endpoint, connectTimeout, readTimeout }

/-- The settings of the link to the browser extension; its key, its nonces and its ids are given. -/
def extensionSettings (c : Config) (apiKey : String) (trace : Trace)
    (credentials : Option Channel.AwsCredentials) (key : Channel.Key)
    (nonces : Nat → Cipher.Gcm.Nonce) (settleIds : Nat → String) :
    Except ConfigError Dispatch.Extension.Settings := do
  return {
    service := c.service, apiKey, credentials, key, nonces, settleIds
    timings := ← c.extension.timings, retry := c.retry, trace }

def asConfig {α : Type} : Except ConfigError α → Except Error α
  | .ok a => .ok a
  | .error cause => .error (.config cause)

def asInput {α : Type} : Except InputError α → Except Error α
  | .ok a => .ok a
  | .error cause => .error (.input cause)

/-- Sets up a session: its client, and the settings of its dispatcher, which depend on the key and the
trace. -/
def setUp {δ : Type} (c : Config) (sessionId : String) (actIds : Nat → String)
    (environment : Option String) (dispatcher : String → Trace → Except ConfigError δ) :
    Except Error (Client × δ) := do
  let apiKey ← asConfig c.requireApiKey
  asInput (checkApiKey apiKey)
  asInput (checkParameter "endpoint_name" c.endpointName)
  let quiet := c.logging.isQuiet (c.logging.filter environment)
  let trace : Trace := ⟨sessionId, quiet⟩
  let dispatcher ← asConfig (dispatcher apiKey trace)
  let delay ← asConfig c.rateLimitRetry.delayDuration
  let client : Client :=
    { trace, endpointName := c.endpointName, retry := ⟨c.rateLimitRetry.tries, delay⟩
      terminal := c.terminal, actIds }
  return (client, dispatcher)

end Config

end BrowserAct.Session
