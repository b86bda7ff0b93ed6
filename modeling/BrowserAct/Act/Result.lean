import BrowserAct.Act.Failure
import BrowserAct.Json.Printer

/-!
# Results of acts

What a successful act gives back: its response, and, where a schema was asked for, the response as
a JSON value and what is known of it.
-/

namespace BrowserAct.Act

/-- What a successful act gives back. -/
structure Result where
  metadata : Metadata
  response : Option String
  parsed : Option Json
  validJson : Option Bool
  matchesSchema : Option Bool

abbrev Outcome := Except Failure Result

namespace Result

/-- A result about which nothing was asked but its response. -/
def of (response : Option String) (metadata : Metadata) : Result :=
  ⟨metadata, response, none, none, none⟩

def showOption : Option String → String
  | some text => text
  | none => "None"

def showBool (b : Bool) : String :=
  if b then "true" else "false"

def render (r : Result) : String :=
  "ActResult(\n"
    ++ "    response = " ++ showOption r.response ++ "\n"
    ++ "    parsed_response = " ++ showOption (r.parsed.map Json.compress) ++ "\n"
    ++ "    valid_json = " ++ showOption (r.validJson.map showBool) ++ "\n"
    ++ "    matches_schema = " ++ showOption (r.matchesSchema.map showBool) ++ "\n"
    ++ "    metadata = " ++ r.metadata.renderNested ++ "\n"
    ++ ")"

end Result

end BrowserAct.Act
