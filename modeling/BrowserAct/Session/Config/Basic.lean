import BrowserAct.Decimal.Binary64
import BrowserAct.Dispatch.Extension.Link
import BrowserAct.Session.Config.Error
import BrowserAct.Text.Blank

/-!
# Configurations

All that can be set for a session, with its defaults. Times are set in seconds and become durations
only where they are used, so a bad one is found only there.
-/

namespace BrowserAct.Session

open Decimal (Binary64)

def seconds (digits : Nat) (power : Int) : Binary64 :=
  .ofDecimal false digits power

/-- How much is logged. -/
structure LogSettings where
  /-- A level or a filter. -/
  level : String := "info"
  /-- Whether progress dots are left out. -/
  quiet : Bool := false
deriving DecidableEq

/-- The timings of the link to the browser extension. -/
structure ExtensionSettings where
  pollInterval : Binary64 := seconds 1 (-1)
  ackTimeout : Binary64 := seconds 30 0
  retryDelay : Binary64 := seconds 2 0
  retryTries : Nat := 5
  settleTimeout : Binary64 := seconds 15 0
deriving DecidableEq

/-- The timings of planning. -/
structure PlanningSettings where
  settleTimeout : Binary64 := seconds 180 0
  connectTimeout : Binary64 := seconds 30 0
  readTimeout : Binary64 := seconds 300 0
deriving DecidableEq

/-- Whether whole acts are tried again when a rate limit is reached. -/
structure RetrySettings where
  /-- The number of attempts, the first included. -/
  tries : Nat := 2
  delay : Binary64 := seconds 5 0
deriving DecidableEq

def defaultEndpoint : String := "alpha-sunshine"

/-- A configuration. -/
structure Config where
  apiKey : Option String := none
  service : Service := .prod
  endpointName : String := defaultEndpoint
  /-- Whether the session runs in a terminal. -/
  terminal : Bool := true
  /-- Whether a prompt that is not accepted is posted again. -/
  retry : Bool := true
  logging : LogSettings := {}
  extension : ExtensionSettings := {}
  planning : PlanningSettings := {}
  rateLimitRetry : RetrySettings := {}
deriving DecidableEq

/-! ## Durations -/

/-- The duration nearest to a number of seconds, a half going to the even neighbour. There is none
below zero, and none of `2 ^ 64` seconds or more. -/
def durationOf? (seconds : Binary64) : Option Duration :=
  if !seconds.isFinite || (seconds.isNegative && !seconds.isZero) then none
  else
    let (num, den) := seconds.ratio
    if num < den * 0x1_0000_0000_0000_0000 then some (Binary64.roundHalfEven (num * 1_000_000_000) den) else none

def durationOf (field : String) (seconds : Binary64) : Except ConfigError Duration :=
  match durationOf? seconds with
  | some d => .ok d
  | none => .error (.badDuration field)

/-- The timings of the link to the browser extension. -/
def ExtensionSettings.timings (s : ExtensionSettings) :
    Except ConfigError Dispatch.Extension.Timings := do
  if s.retryTries = 0 then throw .noTries
  let pollInterval ← durationOf "extension.poll_interval_s" s.pollInterval
  let ackTimeout ← durationOf "extension.ack_timeout_s" s.ackTimeout
  let retryDelay ← durationOf "extension.retry_delay_s" s.retryDelay
  let settleTimeout ← durationOf "extension.settle_timeout_s" s.settleTimeout
  return { pollInterval, ackTimeout, retryDelay, retryTries := s.retryTries, settleTimeout }

namespace PlanningSettings

def settleDuration (s : PlanningSettings) : Except ConfigError Duration :=
  durationOf "custom.settle_timeout_s" s.settleTimeout

def connectDuration (s : PlanningSettings) : Except ConfigError Duration :=
  durationOf "custom.connect_timeout_s" s.connectTimeout

def readDuration (s : PlanningSettings) : Except ConfigError Duration :=
  durationOf "custom.read_timeout_s" s.readTimeout

end PlanningSettings

def RetrySettings.delayDuration (s : RetrySettings) : Except ConfigError Duration :=
  durationOf "rate_limit_retry.delay_s" s.delay

/-! ## The key -/

namespace Config

/-- The environment can give a key, which then counts; a blank one counts for nothing. -/
def withKeyFrom (c : Config) (environment : Option String) : Config :=
  match environment.map Text.trimString with
  | none => c
  | some "" => c
  | some key => { c with apiKey := some key }

/-- The key, which has to be given. -/
def requireApiKey (c : Config) : Except ConfigError String :=
  match c.apiKey with
  | none => .error .missingApiKey
  | some "" => .error .missingApiKey
  | some key => .ok key

end Config

/-! ## Checks -/

example : durationOf? (seconds 15 (-10)) = some 1 := by decide +kernel
example : durationOf? (seconds 25 (-10)) = some 3 := by decide +kernel
example : durationOf? (seconds 0x1_0000_0000_0000_0000 0) = none := by decide +kernel

end BrowserAct.Session
