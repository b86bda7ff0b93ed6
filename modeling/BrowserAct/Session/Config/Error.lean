/-!
# What can be wrong with a configuration
-/

namespace BrowserAct.Session

/-- Why there is no configuration. -/
inductive ConfigError where
  | notFound (path : String)
  | empty
  | malformed (detail : String)
  | blankEndpoint
  | missingApiKey
  | noTries
  /-- A setting is no length of time. -/
  | badDuration (field : String)
  | unusableEndpoint (detail : String)
  | unreadable (detail : String)
deriving DecidableEq

namespace ConfigError

/-- What is wrong with a setting, for the causes that are about a setting. -/
def invalid (detail : String) : String :=
  "Invalid config: " ++ detail

def message : ConfigError → String
  | .notFound path => "Config file not found: " ++ path
  | .empty => "Config file is empty"
  | .malformed detail => "Invalid YAML: " ++ detail
  | .blankEndpoint => invalid "endpoint_name cannot be empty"
  | .missingApiKey => invalid "Config missing required field: api_key (or set NOVA_ACT_API_KEY)"
  | .noTries => invalid "extension.retry_tries must be at least 1"
  | .badDuration field => invalid (field ++ " must be a non-negative number of seconds")
  | .unusableEndpoint detail => invalid detail
  | .unreadable detail => "IO error: " ++ detail

end ConfigError

end BrowserAct.Session
