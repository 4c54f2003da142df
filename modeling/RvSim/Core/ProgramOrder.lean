import RvSim.Automata.Path
import RvSim.System.Machine

/-!
# The instructions in flight as a path

Every instruction in flight knows its own address and the address behind it: where it was predicted
to go, and after EX where it goes. As long as no trap is entered, the instructions in flight lead
from the pc of the hart to the pc of the front end, whatever stalls and redirects there are.

## Main definitions

* `PipelineLatches.flow`: the instructions in flight, oldest first, as edges from pc to next pc
* `PipelineLatches.oldestPc`: where the oldest of them is

## Main results

* `RunningCycle.flow_cases`: what a cycle does to the flow
-/

namespace RvSim

open Automata (Leads)

/-! ## The flow -/

/-- The address of a fetched word and the one predicted behind it. -/
def IfIdPayload.edge (p : IfIdPayload) : U32 × U32 := (p.pc, p.predictedPc)

/-- The address of a decoded instruction and the one predicted behind it. -/
def IdExPayload.edge (p : IdExPayload) : U32 × U32 := (p.decoded.pc, p.predictedPc)

/-- The address of an executed instruction and the one it goes to. -/
def ExMemPayload.edge (x : ExMemPayload) : U32 × U32 := (x.decoded.pc, x.nextPc)

/-- The address of a completed instruction and the one it goes to. -/
def MemWbPayload.edge (q : MemWbPayload) : U32 × U32 := (q.decoded.pc, q.nextPc)

namespace PipelineLatches

/-- The instructions in flight in front of EX/MEM. -/
def frontFlow (latches : PipelineLatches) : List (U32 × U32) :=
  (latches.idEx.map (·.edge)).toList ++ (latches.ifId.map (·.edge)).toList

/-- The instructions in flight in front of MEM/WB. -/
def laterFlow (latches : PipelineLatches) : List (U32 × U32) :=
  (latches.exMem.map (·.edge)).toList ++ latches.frontFlow

/-- The instructions in flight, oldest first. -/
def flow (latches : PipelineLatches) : List (U32 × U32) :=
  (latches.memWb.map (·.edge)).toList ++ latches.laterFlow

/-- The address of the oldest instruction in flight, or of the next one to fetch. -/
def oldestPc (latches : PipelineLatches) (frontEndPc : U32) : U32 :=
  (latches.flow.head?.map Prod.fst).getD frontEndPc

theorem flow_eq_laterFlow (latches : PipelineLatches) :
    ({ latches with memWb := none } : PipelineLatches).flow = latches.laterFlow := rfl

end PipelineLatches

/-! ## What a cycle does to the flow -/

variable {β : Type} [Bus β] {core : PipelineCore} {bus : β} {l : StepLocals β}

omit [Bus β] in
/-- The EX/MEM payload of an executed instruction goes where EX says. -/
theorem ExMemPayload.of_edge (p : IdExPayload) (outcome : ExecuteOutcome) :
    (ExMemPayload.of p.decoded outcome).edge = (p.decoded.pc, outcome.nextPc) := rfl

theorem MemoryPass.edge {q : Option MemWbPayload} {x : Option ExMemPayload} {w : PageWalker}
    {b : β} (memory : MemoryPass l x q w b) : q.map (·.edge) = x.map (·.edge) := by
  cases memory with
  | idle => rfl
  | advance access =>
    rw [(MemStage.access_advance access).1]
    rfl

omit [Bus β] in
theorem ExecutePass.edge {current : PipelineLatches} {x : Option ExMemPayload}
    {predictor : BimodalPredictor} (execute : ExecutePass current l x predictor) :
    x.map (·.edge) = current.idEx.map (·.edge) := by
  cases execute with
  | idle latch => rw [latch]; rfl
  | advance latch _ _ predicted =>
    rw [latch, Option.map_some, Option.map_some, ExMemPayload.of_edge, ← predicted]
    rfl

theorem DecodePass.edge {current : PipelineLatches} {registers : RegisterFile}
    {i : Option IfIdPayload} {d : Option IdExPayload} {s : Bool}
    (pass : DecodePass current registers i d s) :
    (d.map (·.edge)).toList ++ (i.map (·.edge)).toList = (current.ifId.map (·.edge)).toList := by
  cases pass with
  | idle latch => rw [latch]; rfl
  | stall latch => rw [latch]; rfl
  | @advance p d latch decoded =>
    rw [latch]
    have hedge : (IdExPayload.of p d registers).edge = p.edge :=
      congrArg (·, p.predictedPc) (decode_pc decoded).2
    simp [hedge]

/-- The flow after stages that let the cycle go on is the flow behind MEM/WB. -/
theorem flow_of_passes {q : Option MemWbPayload} {w : PageWalker} {b : β}
    {x : Option ExMemPayload} {predictor : BimodalPredictor} {i : Option IfIdPayload}
    {d : Option IdExPayload} {s : Bool}
    (memory : MemoryPass (core.written bus) core.latches.exMem q w b)
    (execute : ExecutePass core.latches (core.written bus) x predictor)
    (pass : DecodePass core.latches (core.written bus).state.registers i d s) :
    ({ ifId := i, idEx := d, exMem := x, memWb := q } : PipelineLatches).flow =
      core.latches.laterFlow := by
  simp only [PipelineLatches.flow, PipelineLatches.laterFlow, PipelineLatches.frontFlow,
    memory.edge, execute.edge, pass.edge]

/-- **What a cycle does to the flow behind MEM/WB**: a trap cuts it and starts a new one at the
vector; else it is kept, or lengthened by a fetch, or cut and led elsewhere by a redirect. -/
theorem RunningCycle.flow_cases (running : core.state.halted = false)
    (cycle : RunningCycle core bus l) :
    (∃ trap pc, l.state = (applyTrap (core.written bus).state trap pc).1 ∧
      l.trapResult = some { trap := some trap } ∧ l.nextFrontEndPc = l.state.pc) ∨
    (l.state = (core.written bus).state ∧ l.trapResult = none ∧
      ((l.next.flow = core.latches.laterFlow ∧ l.nextFrontEndPc = core.frontEndPc) ∨
        (l.next.flow = core.latches.laterFlow ++ [(core.frontEndPc, l.nextFrontEndPc)]) ∨
        ∃ p outcome, core.executed bus = some (p, outcome) ∧
          l.next.flow = (core.latches.exMem.map (·.edge)).toList ++ [(p.decoded.pc, outcome.nextPc)] ∧
          l.nextFrontEndPc = outcome.nextPc ∧
          (isTranslationBarrierPayload p.decoded outcome.csrWrite
            || detectBranchFlush p.predictedPc outcome.nextPc) = true)) := by
  -- the flow shrinks at its front, grows by the fetched word, or ends at the redirected instruction
  cases cycle with
  | interrupt | memoryTrap | executeTrap | illegal | fetchTrap => exact .inl ⟨_, _, rfl, rfl, rfl⟩
  | memoryWait _ latch =>
    refine .inr ⟨rfl, core.written_trapResult bus, .inl ⟨?_, core.written_nextFrontEndPc bus⟩⟩
    simp [PipelineLatches.flow, PipelineLatches.laterFlow, PipelineLatches.frontFlow, latch]
  | barrierHold _ memory =>
    refine .inr ⟨rfl, core.written_trapResult bus, .inl ⟨?_, core.written_nextFrontEndPc bus⟩⟩
    simp [PipelineLatches.flow, PipelineLatches.laterFlow, PipelineLatches.frontFlow, memory.edge]
  | redirect noInterrupt memory noBarrier latch execute flush =>
    refine .inr ⟨rfl, core.written_trapResult bus, .inr (.inr ⟨_, _, ?_, ?_, rfl, flush⟩)⟩
    · exact PipelineCore.executed_eq_some_iff.mpr ⟨_, _, PipelineCore.executeCall_eq_some_iff.mpr
        ⟨running, noInterrupt, ⟨_, _, _, memory⟩, noBarrier, latch, rfl, rfl⟩, execute⟩
    · simp [PipelineLatches.flow, PipelineLatches.laterFlow, PipelineLatches.frontFlow, memory.edge,
        ExMemPayload.of_edge]
  | unfetched _ memory _ execute decode =>
    exact .inr ⟨rfl, core.written_trapResult bus,
      .inl ⟨flow_of_passes memory execute decode, core.written_nextFrontEndPc bus⟩⟩
  | fetchStall _ memory _ execute decode =>
    exact .inr ⟨rfl, core.written_trapResult bus,
      .inl ⟨flow_of_passes memory execute decode, core.written_nextFrontEndPc bus⟩⟩
  | fetched _ memory _ execute decode _ fetch =>
    refine .inr ⟨rfl, core.written_trapResult bus, .inr (.inl ?_)⟩
    obtain ⟨-, -, -, -, hpc, -⟩ := IfStage.fetch_advance fetch
    have hkept := flow_of_passes memory execute decode
    rw [← hkept, ← hpc]
    simp [PipelineLatches.flow, PipelineLatches.laterFlow, PipelineLatches.frontFlow,
      IfIdPayload.edge]

end RvSim
