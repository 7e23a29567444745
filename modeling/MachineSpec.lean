import MachineSpec.Main
import MachineSpec.Trace
import MachineSpec.Table.Generate
import MachineSpec.Engine.Lifecycle
import MachineSpec.Compiler
import MachineSpec.Scenario.Report
import MachineSpec.Proofs.Lifecycle
import MachineSpec.Proofs.Calls
import MachineSpec.Proofs.History
import MachineSpec.Proofs.Halting
import MachineSpec.Proofs.Redirection
import MachineSpec.Proofs.Activation
import MachineSpec.Proofs.Refinement
import MachineSpec.Proofs.Escalation
import MachineSpec.Proofs.Typing
import MachineSpec.Proofs.Completeness
import MachineSpec.Proofs.Lockstep
import MachineSpec.Proofs.Recognition
import MachineSpec.Proofs.Spacing
import MachineSpec.Proofs.Printing
import MachineSpec.Proofs.Closure
import MachineSpec.Proofs.Designation
import MachineSpec.Proofs.Routing
import MachineSpec.Proofs.Occupancy
import MachineSpec.Proofs.Inactivity
import MachineSpec.Proofs.Seeding
import MachineSpec.Proofs.Residue
import MachineSpec.Proofs.Agreement
import MachineSpec.Proofs.Readiness
import MachineSpec.Proofs.Indifference
import MachineSpec.Proofs.Diagnosis
import MachineSpec.Proofs.Composition
import MachineSpec.Proofs.Coverage
import MachineSpec.Proofs.Distribution
import MachineSpec.Proofs.Exploration
import MachineSpec.Proofs.Pace
import MachineSpec.Proofs.Refusal
import MachineSpec.Proofs.Names
import MachineSpec.Proofs.Instantiation
import MachineSpec.Proofs.Lookahead
import MachineSpec.Proofs.Viability
import MachineSpec.Proofs.Resolution
import MachineSpec.Proofs.Reentry
import MachineSpec.Proofs.Polling
import MachineSpec.Proofs.Intake
import MachineSpec.Proofs.Spelling
import MachineSpec.Proofs.Misdirection
import MachineSpec.Proofs.Summons
import MachineSpec.Proofs.Succession
import MachineSpec.Proofs.Narration
import MachineSpec.Proofs.Likeness
import MachineSpec.Proofs.Listing
import MachineSpec.Proofs.Quotation
import MachineSpec.Proofs.Drawing
import MachineSpec.Proofs.Locality
