/-
MachineSpec.Trace — the lines that running machines report.

A machine reports in three grains: its life (start, stop, enter, exit and
transit), its steps, and its messages. Each grain is switched on by itself.
-/

namespace MachineSpec

/-- Which grains of a machine's trace are switched on. -/
structure TraceFlags where
  life : Bool
  steps : Bool
  messages : Bool
deriving DecidableEq, Repr

/-- A line of the trace. An empty detail leaves no dash behind. -/
def traceLine (machine action detail : String) : String :=
  machine ++ ": " ++ action ++ if detail = "" then "" else " - " ++ detail

end MachineSpec
