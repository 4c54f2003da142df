import RvSim.Exec.Decoded

/-!
# The reference core

The architectural baseline: one instruction is fetched, decoded, executed and retired per cycle,
and a busy bus makes the core repeat the access it was in.

## Main definitions

* `beginCycle`: the counters and interrupt lines at the start of a cycle, for both cores
* `ReferenceCore`, `ReferenceCore.stepCycle`
-/

namespace RvSim

/-- Minimal per-cycle status returned by a processor. -/
structure CpuCycle where
  retiredInstructions : U64
  stalled : Bool
  deriving DecidableEq, Repr

variable {β : Type} [Bus β]

/-- The start of a cycle: count it, read the time, and sample the interrupt lines. -/
def beginCycle (state : HartState) (bus : β) : HartState :=
  let csrs := state.csrs.incrementCycle
  let csrs := match Bus.machineTime bus with
    | some time => csrs.setTime time
    | none => csrs.incrementTime
  { state with csrs := csrs.syncInterrupts (Bus.pendingInterrupts bus) }

/-- A simple architectural reference model that retires one instruction per cycle. -/
structure ReferenceCore where
  resetVector : U32
  cycle : U64
  state : HartState
  pageWalker : PageWalker
  pendingDecoded : Option DecodedInstruction
  lastResult : ExecutionResult
  deriving DecidableEq

namespace ReferenceCore

def new (resetVector : U32) : ReferenceCore where
  resetVector := resetVector
  cycle := 0
  state := .new resetVector
  pageWalker := .default
  pendingDecoded := none
  lastResult := {}

/-- What the fetch of the instruction at `pc` gives. -/
inductive Fetched
  | instruction (decoded : DecodedInstruction)
  | stall
  | trap (trap : Trap)
  deriving DecidableEq, Repr

/-- Translate `pc`, fetch the word there and decode it. -/
def fetchDecoded (state : HartState) (walker : PageWalker) (bus : β) :
    Except CpuError Fetched × PageWalker × β :=
  let pc := state.pc
  match walker.translate bus state.csrs state.privilege pc .instruction with
  | (.ok (.physicalAddress physicalAddress), walker, bus) =>
    match Bus.fetch32 bus (physicalAddress.setWidth 64) with
    | (.ok raw, bus) =>
      match decode raw pc with
      | .ok decoded => (.ok (.instruction decoded), walker, bus)
      | .error _ => (.ok (.trap (.exception (.illegalInstruction raw))), walker, bus)
    | (.error (.busy _), bus) => (.ok .stall, walker, bus)
    | (.error error, bus) =>
      match mapBusErrorToTrap error pc .instruction with
      | some trap => (.ok (.trap trap), walker, bus)
      | none => (.error (.bus error), walker, bus)
  | (.ok .stall, walker, bus) => (.ok .stall, walker, bus)
  | (.ok (.fault trap), walker, bus) => (.ok (.trap trap), walker, bus)
  | (.error error, walker, bus) => (.error (.bus error), walker, bus)

/-- The end of a cycle that executes `decoded`. -/
def executeStep (core : ReferenceCore) (walker : PageWalker) (bus : β)
    (decoded : DecodedInstruction) : Except CpuError CpuCycle × ReferenceCore × β :=
  match executeDecoded core.state walker bus decoded with
  | (.ok result, state, pageWalker, bus) =>
    let pending := result.retired == 0 && result.trap.isNone
    (.ok { retiredInstructions := result.retired, stalled := result.retired == 0 },
      { core with
        state := { state with csrs := state.csrs.incrementInstret result.retired }
        pageWalker
        pendingDecoded := if pending then some decoded else none
        lastResult := result },
      bus)
  | (.error error, state, pageWalker, bus) =>
    (.error error, { core with state, pageWalker }, bus)

def stalledCycle : CpuCycle := { retiredInstructions := 0, stalled := true }

/-- The interrupt a cycle takes. -/
def interrupt (core : ReferenceCore) (bus : β) : Option Interrupt :=
  if core.pendingDecoded.isNone && !Bus.isBusy bus then
    core.state.csrs.pendingInterrupt core.state.privilege
  else none

/-- The cycle after its start: interrupt, halted hart, fetch and execution, in this order. -/
def instructionStep (core : ReferenceCore) (bus : β) :
    Except CpuError CpuCycle × ReferenceCore × β :=
  match core.interrupt bus with
  | some interrupt =>
    let (state, lastResult) := applyTrap core.state (.interrupt interrupt) core.state.pc
    (.ok stalledCycle, { core with state, lastResult }, bus)
  | none =>
    if core.state.halted then (.ok stalledCycle, core, bus)
    else
      match core.pendingDecoded with
      | some decoded => core.executeStep core.pageWalker bus decoded
      | none =>
        match fetchDecoded core.state core.pageWalker bus with
        | (.ok (.instruction decoded), walker, bus) => core.executeStep walker bus decoded
        | (.ok .stall, pageWalker, bus) =>
          (.ok stalledCycle, { core with pageWalker, lastResult := { memoryAccess := true } }, bus)
        | (.ok (.trap trap), pageWalker, bus) =>
          let (state, lastResult) := applyTrap core.state trap core.state.pc
          (.ok stalledCycle, { core with state, pageWalker, lastResult }, bus)
        | (.error error, pageWalker, bus) => (.error error, { core with pageWalker }, bus)

def stepCycle (core : ReferenceCore) (bus : β) : Except CpuError CpuCycle × ReferenceCore × β :=
  { core with cycle := core.cycle + 1, state := beginCycle core.state bus }.instructionStep bus

end ReferenceCore

end RvSim
