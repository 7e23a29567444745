/-
MachineSpec.Engine.Lifecycle — the operations of a machine.

A machine is fresh, started, stepped any number of times, and stopped, after which it is
fresh again. It may also be created with data in its slot: then it runs at once, and the
entry of the data is deferred to the next operation that needs it.

An operation takes the data out of the slot before its first request, and puts data back
when it succeeds. If it fails the slot stays empty: the machine is halted, and only
`stop` and `reset` change that.
-/
import MachineSpec.Engine.Step

namespace MachineSpec

/-- What can be said of the state of a machine: its tag, its class and its data. -/
structure Snapshot where
  tag : String
  kind : Class
  data : Value
deriving Repr

namespace Snapshot

/-- The snapshot as a value. -/
def value (snapshot : Snapshot) : Value := .active snapshot.tag snapshot.kind snapshot.data

/-- Whether a snapshot shows the state that a tag or a class points out. -/
def isState (snapshot : Snapshot) : Designator → Bool
  | .cls kind => snapshot.kind.same kind
  | .text tag => snapshot.tag == tag

end Snapshot

namespace Table

open Operation

/-! ## 1. Creation -/

/-- Refuses data that a machine cannot start with. -/
def checkInitial (table : Table) (data : Value) : Except Error Unit :=
  match table.block? table.machine.initial.tag with
  | none => .error (.noBlock table.machine.initial.tag)
  | some block =>
    if data.isA block.kind then .ok ()
    else .error (.wrongStart table.name block.state.text block.kind.name data.kind.name)

/-- The slot of a new machine. With data it runs at once and has the entry before it. -/
def create (table : Table) (data : Value) : Except Error Slot :=
  if data.isNull then .ok (Slot.fresh table)
  else do
    table.checkInitial data
    return ⟨table.machine.initial.tag, data, true, true⟩

/-! ## 2. Looking -/

/-- The state of a machine. -/
def peek (table : Table) (slot : Slot) : Except Error Snapshot :=
  match table.block? slot.tag with
  | none => .error (.noBlock slot.tag)
  | some block => .ok ⟨slot.tag, block.kind, slot.data⟩

/-- Whether a machine is in a state that the designator points out. -/
def isState (table : Table) (slot : Slot) (target : Designator) : Except Error Bool := do
  let tags ← table.tagsFor target
  return tags.contains slot.tag

/-- A machine in words, given the name of its class. -/
def describe (table : Table) (className : String) (slot : Slot) : String :=
  let state := ((table.block? slot.tag).map (·.state.text)).getD slot.tag
  let status := if slot.running then "running" else "stopped"
  "<" ++ className ++ " " ++ state ++ " (" ++ status ++ ")>"

/-! ## 3. Running -/

/-- Puts a tag and data into the slot. -/
def settle (entry : Entry) : Operation Unit :=
  change fun slot => { slot with tag := entry.tag, data := entry.data }

/-- Takes the data out of the slot, which must not be empty. -/
def takeData (table : Table) : Operation Value := do
  let slot ← slot
  if !slot.running || slot.data.isNull then refuse (.empty table.name)
  else do
    change fun slot => { slot with data := .null }
    return slot.data

/-- Empties the slot, without a line in the trace. -/
def reset (table : Table) : Operation Unit := change fun _ => Slot.fresh table

/-- Starts the machine with data of its initial state. -/
def start (table : Table) (data : Value) : Operation Unit := do
  if (← slot).running then refuse (.alreadyRunning table.name)
  else do
    ofExcept (table.checkInitial data)
    change fun slot =>
      { slot with running := true, pending := false, tag := table.machine.initial.tag }
    let block ← table.block table.machine.initial.tag
    let entry ← table.enter block data false
    settle entry
    table.reportLife "Start" table.machine.initial.text

/-- Makes up for the entry of the data that the machine was created with, and tells whether it led
    into another state. -/
def enterPending (table : Table) : Operation Bool := do
  if (← slot).pending then do
    change fun slot => { slot with pending := false }
    let block ← table.block (← slot).tag
    let data ← table.takeData
    let entry ← table.enter block data true
    settle entry
    return entry.tag != block.tag
  else return false

/-- One step, or the pending entry alone if it fails into the error state. -/
def step (table : Table) : Operation Unit := do
  if ← table.enterPending then return ()
  else do
    let data ← table.takeData
    let block ← table.block (← slot).tag
    let entry ← table.run block data
    settle entry

/-- Stops the machine and returns a snapshot. A halted machine is reset. -/
def stop (table : Table) : Operation Snapshot := do
  let _ ← table.enterPending
  let slot ← slot
  if slot.running && slot.data.isNull then do
    table.reset
    refuse (.empty table.name)
  else do
    let data ← table.takeData
    table.reportLife "Stop" ""
    let block ← table.block (← Operation.slot).tag
    let entry ← table.retire block data
    table.reset
    let last ← table.block entry.tag
    return ⟨entry.tag, last.kind, entry.data⟩

/-! ## 4. Messages -/

/-- The channels of a machine, which must have some declared. -/
def requireChannels (table : Table) (channels : Option Channels) : Operation Channels :=
  match channels with
  | some channels => return channels
  | none => refuse (.noMessages table.name)

/-- The channel of the active state among those selected, and the data to go with it. -/
def activeChannel (table : Table) (found : List (String × Channel)) (target : Designator)
    (rejected : Value) : Operation (Channel × Value) := do
  let active ← ofExcept (table.peek (← slot))
  match found.lookup active.tag with
  | some channel =>
    if active.data.isNull then refuse (.notActive target.name rejected)
    else return (channel, active.data)
  | none => refuse (.notActive target.name rejected)

/-- Delivers a message into the active state. -/
def push (table : Table) (channels : Option Channels) (target : Designator) (message : Value) :
    Operation Unit := do
  let channels ← table.requireChannels channels
  let _ ← table.enterPending
  let found ← ofExcept (channels.select table .push target (.cls message.kind))
  let (channel, data) ← table.activeChannel found target message
  table.reportMessage "Push"
    (channel.message.payload.text ++ " to " ++ channel.message.target.text)
  let _ ← demand (.deliver channel data message)

/-- Asks the active state for a message; `null` is the answer of a state that has none. -/
def poll (table : Table) (channels : Option Channels) (target payload : Designator) :
    Operation Value := do
  let channels ← table.requireChannels channels
  let _ ← table.enterPending
  let found ← ofExcept (channels.select table .poll target payload)
  let (channel, data) ← table.activeChannel found target .null
  let message ← demand (.produce channel data)
  if message.isNull then return message
  else do
    table.reportMessage "Poll"
      (channel.message.payload.text ++ " from " ++ channel.message.target.text)
    return message

end Table

end MachineSpec
