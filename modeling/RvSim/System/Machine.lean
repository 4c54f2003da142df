import RvSim.Automata.Run
import RvSim.Core.Calls

/-!
# The machine

A processor with its bus. A cycle of the machine is a tick of the bus and a cycle of the processor.
The tick is an input: it stands for the bus's own `tick` and for everything devices and the host do
to the bus between two cycles, so a list of ticks is a schedule of busy answers, interrupt lines and
memory contents.

## Main definitions

* `Processor`, `Machine`, `Machine.stepCycle`
* `PipelineCore.Boot`: the cores a run starts from
-/

namespace RvSim

/-- A processor that advances its architectural state one cycle at a time. -/
class Processor (P : Type) where
  stepCycle {β : Type} [Bus β] : P → β → Except CpuError CpuCycle × P × β

instance : Processor ReferenceCore := ⟨ReferenceCore.stepCycle⟩

instance : Processor PipelineCore := ⟨PipelineCore.stepCycle⟩

/-- A single-core machine with one processor and a unified address space. -/
structure Machine (P β : Type) where
  cpu : P
  bus : β
  deriving DecidableEq

namespace Machine

variable {P β : Type} [Processor P] [Bus β]

/-- A cycle of the machine, in which the bus ticks by `tick`. -/
def stepCycle (machine : Machine P β) (tick : β → β) : Machine P β :=
  let (_, cpu, bus) := Processor.stepCycle machine.cpu (tick machine.bus)
  { cpu, bus }

/-- The machine after a cycle for each tick. -/
abbrev runCycles (machine : Machine P β) (ticks : List (β → β)) : Machine P β :=
  Automata.run stepCycle machine ticks

end Machine

/-- The cores a run starts from: nothing is in flight, and fetch is at the pc. `new` makes such a
core; the host may then set the registers, the CSRs, the privilege mode and the pcs. -/
structure PipelineCore.Boot (core : PipelineCore) : Prop where
  latches : core.latches = {}
  translationBarrier : core.translationBarrier = false
  frontEndPc : core.frontEndPc = core.state.pc

theorem PipelineCore.boot_new (resetVector : U32) : (PipelineCore.new resetVector).Boot :=
  ⟨rfl, rfl, rfl⟩

/-- The cycle a pipelined machine goes through in a step. -/
theorem Machine.stepCycle_cases {β : Type} [Bus β] (machine : Machine PipelineCore β)
    (tick : β → β) :
    Cycle (machine.cpu.begun (tick machine.bus)) (tick machine.bus)
      (machine.stepCycle tick).cpu (machine.stepCycle tick).bus :=
  machine.cpu.stepCycle_cases (tick machine.bus)

end RvSim
