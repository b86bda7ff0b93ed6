import BrowserAct.Text.Lines

/-!
# The agent trace

The lines by which users follow an act: each starts with a mark of its session, and the programs of
the agent are shown whole.
-/

namespace BrowserAct

/-- How the trace of a session is written. -/
structure Trace where
  sessionId : String
  /-- A quiet session shows no progress dots. -/
  quiet : Bool
deriving DecidableEq

namespace Trace

/-- The mark of a session: the start of its id. -/
def mark (t : Trace) : String :=
  String.ofList (t.sessionId.toList.take 4) ++ "> "

def line (t : Trace) (text : String) : String :=
  t.mark ++ text

/-- A program as the trace shows it; its further lines are marked too. -/
def showProgram (t : Trace) (source : String) : String :=
  t.mark ++ String.ofList (Text.replaceChar '\n' "\n>> ".toList source.toList)

/-- The lines that a program adds to the trace; an empty program adds none. -/
def programLines (t : Trace) (source : String) : List String :=
  if source = "" then [] else [t.showProgram source]

end Trace

/-- Shows a dot every so many ticks while an act is running. -/
structure Progress where
  frequency : Nat
  count : Nat
  enabled : Bool
deriving DecidableEq

namespace Progress

/-- Progress that has not ticked yet. A frequency of zero counts as one. -/
def start (frequency : Nat) (enabled : Bool) : Progress :=
  ⟨max frequency 1, 0, enabled⟩

/-- One tick: whether a dot is shown. -/
def tick (p : Progress) : Bool × Progress :=
  if !p.enabled then (false, p)
  else if p.count + 1 < p.frequency then (false, { p with count := p.count + 1 })
  else (true, { p with count := 0 })

end Progress

/-- The progress of a session; a quiet one shows no dots. -/
def Trace.progress (t : Trace) (frequency : Nat) : Progress :=
  .start frequency (!t.quiet)

end BrowserAct
