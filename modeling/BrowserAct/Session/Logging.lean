import BrowserAct.Session.Config.Basic

/-!
# How much is logged

The environment can give a filter, which then counts. Filters that hide the trace make a session
quiet.
-/

namespace BrowserAct.Session.LogSettings

def filter (s : LogSettings) (environment : Option String) : String :=
  match environment.map Text.trimString with
  | none => s.level
  | some "" => s.level
  | some filter => filter

/-- Whether a session shows no progress dots under a filter. -/
def isQuiet (s : LogSettings) (filter : String) : Bool :=
  s.quiet || ["warn", "error", "off"].contains (filter.map Char.toLower)

/-- Installs the filter that counts, unless one is installed already: whether it was, and the filter
that is installed then. -/
def install (s : LogSettings) (environment : Option String) : Option String → Bool × String
  | none => (true, s.filter environment)
  | some installed => (false, installed)

end BrowserAct.Session.LogSettings
