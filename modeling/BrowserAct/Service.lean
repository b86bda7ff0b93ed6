import BrowserAct.Json.Basic

/-!
# Where acts are planned

The service that plans acts runs behind an address of its own, and users get their keys at another.
-/

namespace BrowserAct

/-- The addresses of a service. -/
structure Service where
  apiUri : String
  keygenUri : String
deriving DecidableEq

namespace Service

def prod : Service :=
  ⟨"https://nova.amazon.com/agent", "https://nova.amazon.com/act"⟩

/-- The service that identifies its users by role and not by key. -/
def helios : Service :=
  ⟨"https://helios.nova.amazon.com", "https://nova.amazon.com/act"⟩

def isHelios (s : Service) : Bool :=
  decide (s = helios)

def ofName? (name : String) : Option Service :=
  if name = "prod" then some prod else if name = "helios" then some helios else none

/-- The service that a setting names: its name, or an object whose only key is the name and holds
null. -/
def ofJson? : Json → Option Service
  | .string name => ofName? name
  | .object [(name, .null)] => ofName? name
  | _ => none

end Service

end BrowserAct
