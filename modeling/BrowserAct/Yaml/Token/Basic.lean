/-!
# Tokens of YAML

Besides its marks and scalars, a YAML text holds tokens that are not written: indentation opens and
closes blocks, and a scalar becomes a key by the colon after it.
-/

namespace BrowserAct.Yaml

/-- How a scalar is written. -/
inductive Style where
  | plain
  | quoted
  | literal
  | folded
deriving DecidableEq

/-- A token. -/
inductive Token where
  /-- The version of the format. -/
  | version (major minor : Nat)
  /-- A handle, and the start of the tags that it stands for. -/
  | tagHandle (handle start : String)
  | documentStart
  | documentEnd
  | blockSequence
  | blockMapping
  | blockEnd
  | flowSequence
  | flowSequenceEnd
  | flowMapping
  | flowMappingEnd
  | flowEntry
  | blockEntry
  | key
  | value
  | aliasOf (name : String)
  | anchor (name : String)
  /-- A tag, with the handle that its start depends on. -/
  | tag (handle ending : String)
  | scalar (text : String) (style : Style)
deriving DecidableEq

end BrowserAct.Yaml
