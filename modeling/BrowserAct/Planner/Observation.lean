import BrowserAct.Json.Basic

/-!
# Observations

What the planner is shown of a page before each step.
-/

namespace BrowserAct.Planner

/-- The state of a page. The dimensions and boxes are in key order. -/
structure Observation where
  activeUrl : String
  dimensions : List (String × Int)
  boxes : Json.Fields
  screenshot : String
  simplifiedDom : String
  timestampMs : Int
  userAgent : String

namespace Observation

def boxesJson (o : Observation) : Json :=
  .object o.boxes

def toJson (o : Observation) : Json :=
  .object
    [("activeURL", .string o.activeUrl),
      ("browserDimensions", .object (o.dimensions.map fun (key, n) => (key, .integer n))),
      ("idToBboxMap", o.boxesJson),
      ("screenshotBase64", .string o.screenshot),
      ("simplifiedDOM", .string o.simplifiedDom),
      ("timestamp_ms", .integer o.timestampMs),
      ("userAgent", .string o.userAgent)]

end Observation

end BrowserAct.Planner
