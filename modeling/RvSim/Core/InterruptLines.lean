import RvSim.Core.Alignment
import RvSim.Core.Interrupts
import RvSim.Exec.SampledCsrs

/-!
# The interrupt lines of a cycle

Each cycle samples the lines. In both cores the CSR file is legal after every cycle and shows the lines of that
cycle, and an interrupt is taken only if its line is up in the cycle or software has set it.

## Main definitions

* `CsrFile.Backs`: an interrupt is enabled, and its line is up or software has set it

## Main results

* `CsrFile.KeptByHart.referenceCycle`, `CsrFile.KeptByHart.pipelineCycle`: what a hart keeps, a cycle keeps
* `interrupts_backed`: the lines over the runs of both cores
-/

namespace RvSim

open Automata

namespace CsrFile.KeptByHart

variable {P : CsrFile → Prop} (kept : KeptByHart P) {state : HartState}

include kept

theorem applyTrap (h : P state.csrs) (trap : Trap) (pc : U32) : P (applyTrap state trap pc).1.csrs :=
  kept.enterTrap h trap pc state.privilege

theorem writeBack (h : P state.csrs) (walker : PageWalker) (q : MemWbPayload) :
    P (WbStage.writeBack state walker q).2.1.csrs := by
  unfold WbStage.writeBack
  split
  · exact kept.returnFromMachineTrap h
  · exact kept.returnFromSupervisorTrap h
  · cases q.csrWrite with
    | none => exact h
    | some write => exact kept.write h write.address write.value

variable {β : Type} [Bus β]

theorem executeDecoded (h : P state.csrs) (walker : PageWalker) (bus : β) (decoded : DecodedInstruction) :
    P (executeDecoded state walker bus decoded).2.1.csrs := by
  apply executeDecoded_cases (P := fun state => P state.csrs)
  · intro state' _ hcsrs
    exact hcsrs ▸ h
  · intro trap pc
    exact kept.applyTrap h trap pc
  · intro state' _ write _ _ _ _ _ hcsrs
    exact hcsrs ▸ kept.write h write.address write.value
  · intro _
    exact kept.returnFromMachineTrap h
  · intro _
    exact kept.returnFromSupervisorTrap h

/-- **A cycle of the reference core keeps it**, from the sample on. -/
theorem referenceCycle {core : ReferenceCore} {bus : β} (h : P (core.begun bus).state.csrs) :
    P (core.stepCycle bus).2.1.state.csrs := by
  show P ((core.begun bus).instructionStep bus).2.1.state.csrs
  apply ReferenceCore.instructionStep_cases (P := fun core' => P core'.state.csrs)
  · intro _ _
    exact h
  · intro trap _
    exact kept.applyTrap h trap _
  · intro decoded walker b _
    apply ReferenceCore.executeStep_cases (P := fun core' => P core'.state.csrs)
    intro _ retired _ _ _
    exact kept.incrementInstret (kept.executeDecoded h walker b decoded) retired

omit [Bus β] in
theorem written {core : PipelineCore} (bus : β) (h : P core.state.csrs) : P (core.written bus).state.csrs := by
  rw [PipelineCore.written_state]
  cases core.latches.memWb with
  | none => exact h
  | some q => exact kept.writeBack h core.pageWalker q

theorem runningCycle {core : PipelineCore} {bus : β} {l : StepLocals β} (cycle : RunningCycle core bus l)
    (h : P (core.written bus).state.csrs) : P l.state.csrs := by
  cases cycle with
  | interrupt | memoryTrap | executeTrap | illegal | fetchTrap => exact kept.applyTrap h _ _
  | _ => exact h

/-- **A cycle of the pipeline keeps it**, from the sample on. -/
theorem pipelineCycle {core : PipelineCore} {bus : β} (h : P (core.begun bus).state.csrs) :
    P (core.stepCycle bus).2.1.state.csrs := by
  generalize hcore : (core.stepCycle bus).2.1 = core'
  generalize hbus : (core.stepCycle bus).2.2 = bus'
  have cycle := core.stepCycle_cases bus
  rw [hcore, hbus] at cycle
  cases cycle with
  | wake => exact kept.applyTrap h _ _
  | wait => exact h
  | running _ cycle =>
    -- a retirement that is counted comes behind the last stage
    have hlocals := kept.runningCycle cycle (kept.written bus h)
    exact kept.incrementInstret hlocals _

end CsrFile.KeptByHart

/-! ## The interrupts of a cycle -/

section Cycles

variable {β : Type} [Bus β]

/-- The interrupt is enabled, and its line is up or software has set it. Only the software interrupts can be
set by software. -/
structure CsrFile.Backs (csrs : CsrFile) (lines : InterruptSet) (interrupt : Interrupt) : Prop where
  enabled : csrs.interruptIsEnabled interrupt = true
  driven : lines.contains interrupt.line = true ∨
    (interrupt = .supervisorSoftware ∨ interrupt = .machineSoftware) ∧
      csrs.softwarePending &&& interruptPendingMask interrupt ≠ 0

theorem CsrFile.Current.backs {csrs : CsrFile} {lines : InterruptSet} (h : csrs.Current lines)
    {mode : PrivilegeMode} {interrupt : Interrupt} (htaken : csrs.pendingInterrupt mode = some interrupt) :
    csrs.Backs lines interrupt := by
  have htakeable := csrs.takeable_of_pendingInterrupt mode htaken
  refine ⟨htakeable.enabled, ?_⟩
  rcases (h.pending_iff interrupt).1 htakeable.pending with hline | hset
  · exact .inl hline
  · exact .inr ⟨h.legal.software_cases hset, hset⟩

/-- The start of a cycle samples the lines. -/
theorem CsrFile.Legal.beginCycle {state : HartState} (h : state.csrs.Legal) (bus : β) :
    (beginCycle state bus).csrs.Current (Bus.pendingInterrupts bus) := by
  unfold RvSim.beginCycle
  apply Legal.syncInterrupts
  split <;> exact { h with }

theorem CsrFile.legal_new (resetVector : U32) : (HartState.new resetVector).csrs.Legal :=
  ((CsrFile.current_default.write .mtvec resetVector).write .stvec resetVector).legal

/-- What a cycle shows of the lines: the file after it, and the state in which it takes an interrupt. -/
structure ShowsLines (lines : InterruptSet) (after : CsrFile) (interrupt : Option Interrupt)
    (taking : CsrFile) : Prop where
  current : after.Current lines
  backed : ∀ i, interrupt = some i → taking.Backs lines i

/-- **A cycle of the reference core shows the lines.** -/
theorem ReferenceCore.showsLines {core : ReferenceCore} (h : core.state.csrs.Legal) (bus : β) :
    ShowsLines (Bus.pendingInterrupts bus) (core.stepCycle bus).2.1.state.csrs
      ((core.begun bus).interrupt bus) (core.begun bus).state.csrs := by
  have hbegun : (core.begun bus).state.csrs.Current (Bus.pendingInterrupts bus) := h.beginCycle bus
  refine ⟨(CsrFile.keptByHart_current _).referenceCycle hbegun, ?_⟩
  intro i hi
  unfold ReferenceCore.interrupt at hi
  obtain ⟨-, htaken⟩ := Option.ite_none_right_eq_some.1 hi
  exact hbegun.backs htaken

/-- The file in which a cycle of the pipeline takes an interrupt: a running hart has written back. -/
def PipelineCore.taking (core : PipelineCore) (bus : β) : CsrFile :=
  if core.state.halted then core.state.csrs else (core.written bus).state.csrs

/-- **A cycle of the pipeline shows the lines.** -/
theorem PipelineCore.showsLines {core : PipelineCore} (h : core.state.csrs.Legal) (bus : β) :
    ShowsLines (Bus.pendingInterrupts bus) (core.stepCycle bus).2.1.state.csrs
      ((core.begun bus).interrupt bus) ((core.begun bus).taking bus) := by
  have kept := CsrFile.keptByHart_current (Bus.pendingInterrupts bus)
  have hbegun : (core.begun bus).state.csrs.Current (Bus.pendingInterrupts bus) := h.beginCycle bus
  refine ⟨kept.pipelineCycle hbegun, ?_⟩
  intro i hi
  unfold PipelineCore.interrupt at hi
  unfold PipelineCore.taking
  split at hi
  · next halted =>
    rw [if_pos halted]
    obtain ⟨-, htaken⟩ := Option.ite_none_right_eq_some.1 hi
    exact hbegun.backs htaken
  · next running =>
    rw [if_neg running]
    obtain ⟨-, htaken⟩ := Option.ite_none_right_eq_some.1 hi
    exact (kept.written bus hbegun).backs htaken

end Cycles

/-- **The lines over a run.** After every cycle of either core the CSR file is legal, and `mip` shows the lines
that the bus reported in that cycle and the bits that software has set, and nothing else. Every interrupt that
a cycle takes is enabled and has its line up in that cycle, or is a software interrupt that software has
set. -/
theorem interrupts_backed {β : Type} [Bus β] (resetVector : U32) (bus : β) (ticks : List (β → β)) :
    let reference : Machine ReferenceCore β := { cpu := .new resetVector, bus }
    let pipeline : Machine PipelineCore β := { cpu := .new resetVector, bus }
    Along Machine.stepCycle (fun machine tick =>
      ShowsLines (Bus.pendingInterrupts (tick machine.bus)) (machine.stepCycle tick).cpu.state.csrs
        ((machine.cpu.begun (tick machine.bus)).interrupt (tick machine.bus))
        (machine.cpu.begun (tick machine.bus)).state.csrs) reference ticks ∧
    Along Machine.stepCycle (fun machine tick =>
      ShowsLines (Bus.pendingInterrupts (tick machine.bus)) (machine.stepCycle tick).cpu.state.csrs
        ((machine.cpu.begun (tick machine.bus)).interrupt (tick machine.bus))
        ((machine.cpu.begun (tick machine.bus)).taking (tick machine.bus))) pipeline ticks := by
  intro reference pipeline
  constructor
  · -- the invariant is that the file is legal; each cycle leaves it current, and so legal
    apply Along.of_invariant (I := fun machine : Machine ReferenceCore β => machine.cpu.state.csrs.Legal)
      (CsrFile.legal_new resetVector) _ (Along.trivial_of reference ticks)
    intro machine tick h _
    have hshows := ReferenceCore.showsLines h (tick machine.bus)
    exact ⟨hshows, hshows.current.legal⟩
  · apply Along.of_invariant (I := fun machine : Machine PipelineCore β => machine.cpu.state.csrs.Legal)
      (CsrFile.legal_new resetVector) _ (Along.trivial_of pipeline ticks)
    intro machine tick h _
    have hshows := PipelineCore.showsLines h (tick machine.bus)
    exact ⟨hshows, hshows.current.legal⟩

end RvSim
