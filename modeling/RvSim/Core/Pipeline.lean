import RvSim.Core.Reference
import RvSim.Pipeline.Stages

/-!
# The pipeline core

One cycle of the five-stage in-order pipeline. The stages run in the source's order (write-back,
interrupt, memory, execute, decode, fetch) on the local variables of `step_cycle`, gathered in
`StepLocals`; `current` is the latch set at the start of the cycle.

## Main definitions

* `PipelineCore`, `PipelineCore.forwardedOperand`
* `StepLocals` and its stages: `writeBackStage` .. `fetchStage`
* `PipelineCore.stepCycle`
-/

namespace RvSim

/-- A five-stage in-order pipeline with explicit latches and hazard handling. -/
structure PipelineCore where
  resetVector : U32
  cycle : U64
  frontEndPc : U32
  state : HartState
  pageWalker : PageWalker
  translationBarrier : Bool
  predictor : BimodalPredictor
  latches : PipelineLatches
  structuralHazards : StructuralHazardPolicy
  lastCommit : Option CommitEvent
  lastResult : ExecutionResult
  deriving DecidableEq

namespace PipelineCore

def new (resetVector : U32) : PipelineCore where
  resetVector := resetVector
  cycle := 0
  frontEndPc := resetVector
  state := .new resetVector
  pageWalker := .default
  translationBarrier := false
  predictor := .standard
  latches := {}
  structuralHazards := {}
  lastCommit := none
  lastResult := {}

/-- The operand EX reads: from EX/MEM, else from MEM/WB, else as latched in ID. -/
def forwardedOperand (source : Option RegIndex) (latchedValue : U32)
    (exMemPayload : Option ExMemPayload) (memWbPayload : Option MemWbPayload) : U32 :=
  match source with
  | none => latchedValue
  | some source =>
    if source = 0 then 0
    else
      let fromExMem := exMemPayload.bind fun payload =>
        if payload.decoded.rd = some source ∧ ExStage.writesBack payload.decoded then
          payload.writebackValue
        else none
      let fromMemWb := memWbPayload.bind fun payload =>
        if payload.decoded.rd = some source then payload.writebackValue else none
      (fromExMem.or fromMemWb).getD latchedValue

end PipelineCore

/-- The value EX gets for a source whose latched value is `latchedValue`. -/
def PipelineLatches.operand (current : PipelineLatches) (source : Option RegIndex)
    (latchedValue : U32) : U32 :=
  PipelineCore.forwardedOperand source latchedValue current.exMem current.memWb

/-- The payload ID leaves for EX. -/
def IdExPayload.of (payload : IfIdPayload) (decoded : DecodedInstruction)
    (registers : RegisterFile) : IdExPayload where
  decoded := decoded
  rs1Value := registers.read (decoded.rs1.getD 0)
  rs2Value := registers.read (decoded.rs2.getD 0)
  predictedPc := payload.predictedPc
  predictedTaken := payload.predictedTaken

def isTranslationBarrierPayload (decoded : DecodedInstruction) (csrWrite : Option CsrWrite) :
    Bool :=
  decoded.kind == .system .sfenceVma || csrWrite.any (·.address == .satp)

def requiresCsrSerialization (decoded : DecodedInstruction) : Bool :=
  decoded.kind.isCsr || decoded.kind.isXret

def hasInFlightCsrInstruction (current : PipelineLatches) : Bool :=
  current.idEx.any (·.decoded.kind.isCsr) || current.exMem.any (·.decoded.kind.isCsr)
    || current.memWb.any (·.decoded.kind.isCsr)

/-- The local variables of `step_cycle`, with the parts of the core and the bus it updates. -/
@[ext]
structure StepLocals (β : Type) where
  state : HartState
  pageWalker : PageWalker
  predictor : BimodalPredictor
  bus : β
  next : PipelineLatches := {}
  nextFrontEndPc : U32
  retiredInstructions : U64 := 0
  fetchStalled : Bool := false
  decodeStalled : Bool := false
  flushed : Bool := false
  trapResult : Option ExecutionResult := none
  commit : Option CommitEvent := none
  memoryWait : Bool := false
  translationBarrier : Bool

namespace StepLocals

variable {β : Type}

/-- Enter a trap: the stages after this one are flushed and fetch goes on at the vector. -/
def takeTrap (l : StepLocals β) (trap : Trap) (pc : U32) : StepLocals β :=
  let (state, result) := applyTrap l.state trap pc
  { l with
    state, trapResult := some result, nextFrontEndPc := state.pc, flushed := true }

def writeBackStage (l : StepLocals β) (current : PipelineLatches) : StepLocals β :=
  match current.memWb with
  | none => l
  | some payload =>
    let (commit, state, pageWalker) := WbStage.writeBack l.state l.pageWalker payload
    { l with
      state, pageWalker
      commit := some commit
      retiredInstructions := l.retiredInstructions + 1
      translationBarrier :=
        if isTranslationBarrierPayload payload.decoded payload.csrWrite then false
        else l.translationBarrier }

/-- The operands and the instruction EX executes in this cycle, if it executes one. -/
def executeCall (l : StepLocals β) (current : PipelineLatches) :
    Option (IdExPayload × U32 × U32) :=
  if !l.flushed && !l.memoryWait && !l.translationBarrier then
    current.idEx.map fun payload =>
      (payload, current.operand payload.decoded.rs1 payload.rs1Value,
        current.operand payload.decoded.rs2 payload.rs2Value)
  else none

/-- The predictor after a resolved instruction: only branches train it. -/
def trainedPredictor (predictor : BimodalPredictor) (decoded : DecodedInstruction)
    (outcome : ExecuteOutcome) : BimodalPredictor :=
  match decoded.kind with
  | .branch _ => predictor.update decoded.pc (outcome.nextPc != decoded.pc + 4)
  | _ => predictor

def executeStage (l : StepLocals β) (current : PipelineLatches) : StepLocals β :=
  match l.executeCall current with
  | none => l
  | some (payload, rs1Value, rs2Value) =>
    match ExStage.execute payload.decoded rs1Value rs2Value l.state.privilege l.state.csrs with
    | .advance outcome =>
      let predictor := trainedPredictor l.predictor payload.decoded outcome
      let serializing := isTranslationBarrierPayload payload.decoded outcome.csrWrite
      let next := { l.next with exMem := some (.of payload.decoded outcome) }
      if serializing || detectBranchFlush payload.predictedPc outcome.nextPc then
        { l with
          predictor, next, flushed := true, nextFrontEndPc := outcome.nextPc
          translationBarrier := serializing || l.translationBarrier }
      else { l with predictor, next }
    | .trap trap => l.takeTrap trap payload.decoded.pc

/-- Whether ID stalls the decoded instruction for a load or a CSR instruction ahead of it. -/
def decodeHazard (current : PipelineLatches) (decoded : DecodedInstruction) : Bool :=
  let loadUseHazard := current.idEx.any fun producer =>
    ExStage.isLoad producer.decoded
      && detectRawHazard producer.decoded.rd decoded.rs1 decoded.rs2
  let csrHazard := requiresCsrSerialization decoded && hasInFlightCsrInstruction current
  loadUseHazard || csrHazard

def decodeStage (l : StepLocals β) (current : PipelineLatches) : StepLocals β :=
  if !l.flushed && !l.memoryWait && !l.translationBarrier then
    match current.ifId with
    | none => l
    | some payload =>
      match decode payload.raw payload.pc with
      | .ok decoded =>
        if decodeHazard current decoded then
          { l with decodeStalled := true, next := { l.next with ifId := some payload } }
        else
          { l with next := { l.next with idEx := some (.of payload decoded l.state.registers) } }
      | .error _ => l.takeTrap (.exception (.illegalInstruction payload.raw)) payload.pc
  else if !l.flushed && !l.memoryWait && l.translationBarrier then
    { l with
      fetchStalled := true
      decodeStalled := current.ifId.isSome
      next := { l.next with ifId := current.ifId, idEx := current.idEx } }
  else l

variable [Bus β]

/-- The interrupt a running cycle takes after write-back, if it takes one. -/
def takenInterrupt (l : StepLocals β) : Option Interrupt :=
  if !l.translationBarrier && !Bus.isBusy l.bus then
    l.state.csrs.pendingInterrupt l.state.privilege
  else none

def interruptStage (l : StepLocals β) : StepLocals β :=
  match l.takenInterrupt with
  | some interrupt => l.takeTrap (.interrupt interrupt) l.state.pc
  | none => l

/-- A stage that may fail keeps the locals it leaves behind. -/
abbrev Stage (β : Type) := Except (BusError × StepLocals β) (StepLocals β)

def memoryStage (unifiedMemory : Bool) (l : StepLocals β) (current : PipelineLatches) : Stage β :=
  if l.flushed then .ok l
  else
    match current.exMem with
    | none => .ok l
    | some payload =>
      let fetchStalled := fetchBlockedByMemoryAccess unifiedMemory
        (ExStage.usesMemory payload.decoded)
      match MemStage.access l.bus l.pageWalker l.state.csrs l.state.privilege payload with
      | (.ok (.advance payload), pageWalker, bus) =>
        .ok { l with
          pageWalker, bus, fetchStalled
          next := { l.next with memWb := some payload } }
      | (.ok (.stall payload), pageWalker, bus) =>
        .ok { l with
          pageWalker, bus
          memoryWait := true
          fetchStalled := true
          decodeStalled := current.ifId.isSome
          next := { l.next with
            exMem := some payload, idEx := current.idEx, ifId := current.ifId } }
      | (.ok (.trap trap), pageWalker, bus) =>
        .ok ({ l with pageWalker, bus, fetchStalled }.takeTrap trap payload.decoded.pc)
      | (.error error, pageWalker, bus) => .error (error, { l with pageWalker, bus, fetchStalled })

/-- The tail of a cycle in which IF makes no attempt to fetch. -/
def skipFetch (l : StepLocals β) : StepLocals β :=
  if l.flushed then { l with next := { l.next with ifId := none, idEx := none } } else l

/-- Whether IF attempts a fetch. -/
def fetches (l : StepLocals β) : Bool :=
  !l.flushed && !l.memoryWait && !l.decodeStalled && !l.fetchStalled && !l.translationBarrier

def fetchStage (l : StepLocals β) : Stage β :=
  if l.fetches then
    match IfStage.fetch l.bus l.pageWalker l.state.csrs l.state.privilege l.nextFrontEndPc
      l.predictor with
    | (.ok (.advance payload), pageWalker, bus) =>
      .ok { l with
        pageWalker, bus
        next := { l.next with ifId := some payload }
        nextFrontEndPc := payload.predictedPc }
    | (.ok .stall, pageWalker, bus) => .ok { l with pageWalker, bus, fetchStalled := true }
    | (.ok (.trap trap), pageWalker, bus) =>
      .ok ({ l with pageWalker, bus }.takeTrap trap l.nextFrontEndPc)
    | (.error error, pageWalker, bus) => .error (error, { l with pageWalker, bus })
  else .ok l.skipFetch

end StepLocals

namespace PipelineCore

variable {β : Type} [Bus β]

/-- The locals a running cycle starts with. -/
def entry (core : PipelineCore) (bus : β) : StepLocals β :=
  { state := core.state, pageWalker := core.pageWalker, predictor := core.predictor, bus
    nextFrontEndPc := core.frontEndPc, translationBarrier := core.translationBarrier }

/-- The locals of a running cycle after write-back. -/
def written (core : PipelineCore) (bus : β) : StepLocals β :=
  (core.entry bus).writeBackStage core.latches

/-- The locals of a running cycle up to the fetch. -/
def backStages (core : PipelineCore) (bus : β) : StepLocals.Stage β :=
  match (core.written bus).interruptStage.memoryStage core.structuralHazards.unifiedMemory
    core.latches with
  | .ok l => .ok ((l.executeStage core.latches).decodeStage core.latches)
  | .error failure => .error failure

/-- The end of a running cycle: count the retired instruction and store the locals. -/
def finishCycle (core : PipelineCore) (l : StepLocals β) : CpuCycle × PipelineCore × β :=
  let result : ExecutionResult :=
    { retired := l.retiredInstructions + (l.trapResult.map (·.retired)).getD 0
      trap := l.trapResult.bind (·.trap)
      memoryAccess := core.latches.exMem.any (ExStage.usesMemory ·.decoded)
        || (l.trapResult.map (·.memoryAccess)).getD false }
  ({ retiredInstructions := result.retired, stalled := l.fetchStalled || l.decodeStalled },
    { core with
      state := { l.state with csrs := l.state.csrs.incrementInstret result.retired }
      pageWalker := l.pageWalker
      predictor := l.predictor
      frontEndPc := l.nextFrontEndPc
      translationBarrier := l.translationBarrier
      latches := l.next
      lastCommit := l.commit
      lastResult := result },
    l.bus)

/-- A cycle of a running hart, after its start. -/
def runningCycle (core : PipelineCore) (bus : β) :
    Except CpuError CpuCycle × PipelineCore × β :=
  let stages : StepLocals.Stage β := match core.backStages bus with
    | .ok l => l.fetchStage
    | .error failure => .error failure
  match stages with
  | .ok l =>
    let (cycle, core, bus) := core.finishCycle l
    (.ok cycle, core, bus)
  | .error (error, l) =>
    (.error (.bus error),
      { core with state := l.state, pageWalker := l.pageWalker, predictor := l.predictor }, l.bus)

/-- The interrupt that wakes a halted hart, if there is one. -/
def wakeInterrupt (core : PipelineCore) (bus : β) : Option Interrupt :=
  if !Bus.isBusy bus then core.state.csrs.pendingInterrupt core.state.privilege else none

/-- A cycle of a halted hart, after its start: an interrupt wakes it and clears the latches. -/
def haltedCycle (core : PipelineCore) (bus : β) : CpuCycle × PipelineCore :=
  let cycle : CpuCycle := { retiredInstructions := 0, stalled := true }
  match core.wakeInterrupt bus with
  | some interrupt =>
    let (state, result) := applyTrap core.state (.interrupt interrupt) core.state.pc
    (cycle,
      { core with
        state, frontEndPc := state.pc, latches := {}, lastCommit := none, lastResult := result })
  | none => (cycle, { core with lastCommit := none, lastResult := {} })

/-- The core at the start of a cycle. -/
def begun (core : PipelineCore) (bus : β) : PipelineCore :=
  { core with cycle := core.cycle + 1, state := beginCycle core.state bus }

def stepCycle (core : PipelineCore) (bus : β) : Except CpuError CpuCycle × PipelineCore × β :=
  let core := core.begun bus
  if core.state.halted then
    let (cycle, core) := core.haltedCycle bus
    (.ok cycle, core, bus)
  else core.runningCycle bus

end PipelineCore

end RvSim
