import BrowserAct.Session.Config.Basic
import BrowserAct.Yaml.Scalar

/-!
# Reading configurations

The same configuration can be written in two formats. A format says how the values of each kind are
written in it; what settings there are is said once.

* **`Config.read?`** reads a configuration in any format.
* **`Config.load`** reads a file.
-/

namespace BrowserAct.Session

open Decimal (Binary64)

/-- How values are written in a format, whose values have type `ν`. -/
structure Format (ν : Type) where
  text? : ν → Option String
  /-- A text, or an explicit nothing. -/
  optionalText? : ν → Option (Option String)
  flag? : ν → Option Bool
  natural? : ν → Option Nat
  number? : ν → Option Binary64
  service? : ν → Option Service
  /-- The value of each of the given keys, where it has one. -/
  parts? : List String → ν → Option (List (Option ν))

/-! ## JSON -/

/-- The parts of an object by their keys, or of an array by their places. -/
def jsonParts? (keys : List String) : Json → Option (List (Option Json))
  | .object fields => some (keys.map (Json.Fields.get? fields))
  | .array items =>
    if items.length ≤ keys.length then
      some (items.map some ++ List.replicate (keys.length - items.length) none)
    else none
  | _ => none

def Format.json : Format Json where
  text? := Json.asString?
  optionalText?
    | .null => some none
    | .string text => some (some text)
    | _ => none
  flag? := Json.asBool?
  natural? := Json.asNat64?
  number? := Json.asFloat?
  service? := Service.ofJson?
  parts? := jsonParts?

/-! ## YAML -/

/-- The value of a key, if there is one; nothing if there are several. -/
def uniqueField? (fields : List (String × Yaml.Node)) (key : String) :
    Option (Option Yaml.Node) :=
  match fields.filter (·.1 == key) with
  | [] => some none
  | [(_, value)] => some (some value)
  | _ => none

/-- The fields of a mapping by their keys, all of which are scalars. -/
def yamlParts? (keys : List String) : Yaml.Node → Option (List (Option Yaml.Node))
  | .mapping fields _ => do
    let fields ← fields.mapM fun (key, value) => key.text?.map (·, value)
    keys.mapM (uniqueField? fields)
  | node => if node.isUnwritten then some (keys.map fun _ => none) else none

/-- The service that a scalar names by its text, or by its tag. -/
def yamlService? (node : Yaml.Node) : Option Service :=
  match node with
  | .scalar text _ none => Service.ofName? text
  | .scalar _ _ (some tag) =>
    let name := match tag.toList with
      | '!' :: name => String.ofList name
      | _ => tag
    if node.isNothing then Service.ofName? name else none
  | _ => none

def Format.yaml : Format Yaml.Node where
  text? := Yaml.Node.text?
  optionalText? node := do
    if ← node.isNull? then return none
    return some (← node.text?)
  flag? node := (node.valueText? "bool").bind Yaml.boolOf?
  natural? node := (node.valueText? "int").bind Yaml.naturalOf?
  number? node := (node.valueText? "float").bind Yaml.floatOf?
  service? := yamlService?
  parts? := yamlParts?

/-! ## Settings -/

variable {ν : Type}

/-- The value of a setting, or its default. -/
def readOr {α : Type} (read : ν → Option α) (default : α) : Option ν → Option α
  | none => some default
  | some value => read value

def Format.count? (f : Format ν) (value : ν) : Option Nat :=
  (f.natural? value).filter (· < 0x1_0000_0000)

def LogSettings.read? (f : Format ν) (value : ν) : Option LogSettings := do
  let base : LogSettings := {}
  match ← f.parts? ["level", "quiet"] value with
  | [level, quiet] => return ⟨← readOr f.text? base.level level, ← readOr f.flag? base.quiet quiet⟩
  | _ => none

def ExtensionSettings.read? (f : Format ν) (value : ν) : Option ExtensionSettings := do
  let base : ExtensionSettings := {}
  match ← f.parts?
      ["poll_interval_s", "ack_timeout_s", "retry_delay_s", "retry_tries", "settle_timeout_s"]
      value with
  | [poll, ack, delay, tries, settle] =>
    return ⟨← readOr f.number? base.pollInterval poll, ← readOr f.number? base.ackTimeout ack,
      ← readOr f.number? base.retryDelay delay, ← readOr f.count? base.retryTries tries,
      ← readOr f.number? base.settleTimeout settle⟩
  | _ => none

def PlanningSettings.read? (f : Format ν) (value : ν) : Option PlanningSettings := do
  let base : PlanningSettings := {}
  match ← f.parts? ["settle_timeout_s", "connect_timeout_s", "read_timeout_s"] value with
  | [settle, connect, read] =>
    return ⟨← readOr f.number? base.settleTimeout settle,
      ← readOr f.number? base.connectTimeout connect, ← readOr f.number? base.readTimeout read⟩
  | _ => none

def RetrySettings.read? (f : Format ν) (value : ν) : Option RetrySettings := do
  let base : RetrySettings := {}
  match ← f.parts? ["tries", "delay_s"] value with
  | [tries, delay] =>
    return ⟨← readOr f.count? base.tries tries, ← readOr f.number? base.delay delay⟩
  | _ => none

namespace Config

def keys : List String :=
  ["api_key", "backend", "endpoint_name", "tty", "retry", "logging", "extension", "custom",
    "rate_limit_retry"]

def read? (f : Format ν) (value : ν) : Option Config := do
  let base : Config := {}
  match ← f.parts? keys value with
  | [apiKey, service, endpointName, terminal, retry, logging, extension, planning, limit] =>
    return {
      apiKey := ← readOr f.optionalText? base.apiKey apiKey
      service := ← readOr f.service? base.service service
      endpointName := ← readOr f.text? base.endpointName endpointName
      terminal := ← readOr f.flag? base.terminal terminal
      retry := ← readOr f.flag? base.retry retry
      logging := ← readOr (LogSettings.read? f) base.logging logging
      extension := ← readOr (ExtensionSettings.read? f) base.extension extension
      planning := ← readOr (PlanningSettings.read? f) base.planning planning
      rateLimitRetry := ← readOr (RetrySettings.read? f) base.rateLimitRetry limit }
  | _ => none

/-! ## Files -/

def ofText (text : String) : Except ConfigError Config := do
  if Text.trimString text = "" then throw .empty
  let some document := Yaml.Node.document? text.toList | throw (.malformed "not YAML")
  let some config := read? .yaml (document.getD .empty) | throw (.malformed "not a configuration")
  if Text.trimString config.endpointName = "" then throw .blankEndpoint
  return config

end Config

/-- What a path leads to. -/
inductive ConfigFile where
  | missing (path : String)
  /-- Something that cannot be read, such as a directory. -/
  | unreadable (detail : String)
  | bytes (content : ByteArray)

def Config.load : ConfigFile → Except ConfigError Config
  | .missing path => .error (.notFound path)
  | .unreadable detail => .error (.unreadable detail)
  | .bytes content =>
    match String.fromUTF8? content with
    | some text => ofText text
    | none => .error (.unreadable "stream did not contain valid UTF-8")

end BrowserAct.Session
