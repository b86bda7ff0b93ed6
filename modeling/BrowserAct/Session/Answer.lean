import BrowserAct.Act.Result
import BrowserAct.Json.Reader

/-!
# Answers of a wanted form

An act can be asked to answer in the form of a schema. The schema goes into the prompt, and what comes
back is looked at as JSON.
-/

namespace BrowserAct

def Session.promptWithSchema (prompt : String) (schema : Json) : String :=
  prompt ++ ", format output with jsonschema: " ++ schema.compress

/-- A result with what is known of its response as JSON: whether it is JSON, its value, and whether that
is accepted. An empty response is no JSON. -/
def Act.Result.withForm (r : Act.Result) (accepts : Json → Bool) : Act.Result :=
  match (r.response.filter (· != "")).bind Json.parse? with
  | some value =>
    { r with parsed := some value, validJson := some true, matchesSchema := some (accepts value) }
  | none => { r with parsed := none, validJson := some false, matchesSchema := some false }

end BrowserAct
