import BrowserAct.Act.Timestamp
import BrowserAct.Url.Address

/-!
# Checks of what users ask for

What a user asks for is checked before an act is created. Each check either passes or says what is
wrong.
-/

namespace BrowserAct.Session

/-- Why a request is refused. -/
inductive InputError where
  | promptLength (length : Nat)
  | timeout (duration : Duration)
  | stepLimit (count : Nat)
  | apiKeyLength
  | parameterLength (field : String)
  /-- The schema asked for is none. -/
  | schema
  | url
deriving DecidableEq

/-! ## Limits -/

def maxPromptLength : Nat := 10000
def minTimeoutSeconds : Nat := 2
def maxTimeoutSeconds : Nat := 1800

def stepCountLimit : Nat := 100

def apiKeyLength : Nat := 36

/-- The first length in bytes that is too large for a parameter. -/
def parameterLimit : Nat := 2048

def InputError.message : InputError → String
  | .promptLength length =>
    "Prompt length must be between 1 and 10000 characters inclusive. Current length: "
      ++ toString length
  | .timeout _ =>
    "Timeout must be between " ++ toString minTimeoutSeconds ++ " and "
      ++ toString maxTimeoutSeconds
  | .stepLimit _ => "max_steps must be less than " ++ toString stepCountLimit
  | .apiKeyLength => "Invalid API key length"
  | .parameterLength field => field ++ " exceeds max length of " ++ toString parameterLimit
  | .schema => "Schema provided isn't a valid jsonschema: not a schema"
  | .url => "URL provided is invalid. Did you include http:// or https:// ?"

/-! ## Checks -/

def ensure {ε : Type} (condition : Bool) (error : ε) : Except ε Unit :=
  if condition then .ok () else .error error

/-- A prompt has at least one character and not too many. -/
def checkPrompt (prompt : String) : Except InputError Unit :=
  ensure (1 ≤ prompt.length && prompt.length ≤ maxPromptLength) (.promptLength prompt.length)

/-- The time allowed is within bounds, if it is limited. -/
def checkTimeout : Option Duration → Except InputError Unit
  | none => .ok ()
  | some d =>
    ensure (minTimeoutSeconds * 1_000_000_000 ≤ d && d ≤ maxTimeoutSeconds * 1_000_000_000) (.timeout d)

/-- The number of steps allowed is below the limit, if it is given. -/
def checkStepLimit : Option Nat → Except InputError Unit
  | none => .ok ()
  | some count => ensure (count < stepCountLimit) (.stepLimit count)

def checkApiKey (key : String) : Except InputError Unit :=
  ensure (key.utf8ByteSize = apiKeyLength) .apiKeyLength

def checkParameter (field value : String) : Except InputError Unit :=
  ensure (value.utf8ByteSize < parameterLimit) (.parameterLength field)

/-- An address is absolute, and names a host unless it is a file. -/
def checkUrl (url : String) : Except InputError Unit :=
  match Url.Address.parse? url with
  | some address => ensure (address.scheme = "file" || address.host.isSome) .url
  | none => .error .url

/-! ## Laws -/

@[simp] theorem ensure_eq_ok {ε : Type} {condition : Bool} {error : ε} :
    ensure condition error = .ok () ↔ condition = true := by
  unfold ensure
  split <;> simp_all

end BrowserAct.Session
