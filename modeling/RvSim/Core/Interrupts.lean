import RvSim.Core.TrapOrder
import RvSim.State.StatusWord
import RvSim.System.TestBus

/-!
# Where an interrupt resumes

`step_cycle` saves `state.pc` and the current mode when it takes an interrupt, and drops what is in
the latches. The saved pc is the address of the oldest instruction it drops as long as the pc of the
hart leads to that instruction. A trap that overtakes older instructions breaks this: they retire
after its entry and set the pc to their own end.

## Main definitions

* `HartState.resumed`: the hart as a return from the handler leaves it
* `InterruptsResume`: an interrupt resumes at the oldest instruction that has not taken effect
* `InterruptSafe`: no interrupt comes while an overtaken instruction is in flight or just retired

## Main results

* `interruptsResume_run`: in a run of such cycles every interrupt resumes there
-/

namespace RvSim

open Automata (Leads)

/-! ## Saving and restoring -/

/-- The hart after a return from the handler it has just entered. -/
def HartState.resumed (state : HartState) : HartState :=
  (returnFromTrap state (if state.privilege = .machine then .mret else .sret)).1

/-- A return undoes an entry. -/
theorem resumed_applyTrap (state : HartState) (trap : Trap) (pc : U32) :
    (applyTrap state trap pc).1.resumed.pc = pc ∧
      (applyTrap state trap pc).1.resumed.privilege = state.privilege := by
  by_cases hdelegated : state.csrs.delegatesTrapToSupervisor trap state.privilege = true
  · -- only traps below machine mode are delegated
    have hmode : state.privilege ≠ .machine := by
      intro hmode
      simp [CsrFile.delegatesTrapToSupervisor, hmode] at hdelegated
    simp only [applyTrap, CsrFile.enterTrap, hdelegated, if_true, HartState.resumed, returnFromTrap,
      CsrFile.returnFromSupervisorTrap, CsrFile.enterSupervisorTrap, reduceCtorEq, if_false,
      true_and, setFlag_test (show mstatusSpp ≠ 0 by decide)]
    rcases hcase : state.privilege with _ | _ | _
    · rfl
    · rfl
    · exact absurd hcase hmode
  · have hmask := privilegeBits_and state.privilege
    have hbits := privilegeFromBits_privilegeBits state.privilege
    rw [Bool.not_eq_true] at hdelegated
    simp only [applyTrap, CsrFile.enterTrap, hdelegated, Bool.false_eq_true, if_false, if_true,
      HartState.resumed, returnFromTrap, CsrFile.returnFromMachineTrap, CsrFile.enterMachineTrap,
      replace_and_mask hmask, hbits, and_self]

/-! ## The interrupts of a run -/

variable {β : Type} [Bus β]

namespace PipelineCore

/-- The interrupt a cycle takes, running or halted. -/
def interrupt (core : PipelineCore) (bus : β) : Option Interrupt :=
  if core.state.halted then core.wakeInterrupt bus else (core.written bus).takenInterrupt

/-- What is in the latches when a cycle takes an interrupt: a running hart has written back. -/
def unretired (core : PipelineCore) : PipelineLatches :=
  if core.state.halted then core.latches else { core.latches with memWb := none }

/-- **The interrupt resumes at the oldest instruction that has not taken effect**, in the mode that
instruction is to run in; and nothing that it drops has taken effect, neither as a trap entry that
is already made nor as a completed access. -/
structure ResumesOldest (core : PipelineCore) (bus : β) (order : TrapOrder)
    (core' : PipelineCore) : Prop where
  pc : core'.state.resumed.pc = core.unretired.oldestPc core.frontEndPc
  mode : core'.state.resumed.privilege = (order.retire core bus).mode
  entries : (order.retire core bus).overtaken = 0
  accesses : ∀ q ∈ core.unretired.memWb, ExStage.usesMemory q.decoded = false

/-- In this cycle no overtaken instruction returns or redirects. If it takes an interrupt, then no
instruction in flight is older than the last trap entry, the last to set the pc was not, either, and
no completed access waits in MEM/WB. -/
structure SafeInterrupt (core : PipelineCore) (bus : β) (order : TrapOrder) : Prop where
  kept : order.Kept core bus
  settled : (core.interrupt bus).isSome = true →
    (order.retire core bus).overtaken = 0 ∧ (order.retire core bus).stale = false
  accesses : (core.interrupt bus).isSome = true → ∀ q ∈ core.unretired.memWb,
    ExStage.usesMemory q.decoded = false

instance (core : PipelineCore) (bus : β) (order : TrapOrder) (core' : PipelineCore) :
    Decidable (core.ResumesOldest bus order core') :=
  decidable_of_iff (_ ∧ _ ∧ _ ∧ _)
    ⟨fun ⟨pc, mode, entries, accesses⟩ => ⟨pc, mode, entries, accesses⟩,
      fun ⟨pc, mode, entries, accesses⟩ => ⟨pc, mode, entries, accesses⟩⟩

instance (core : PipelineCore) (bus : β) (order : TrapOrder) :
    Decidable (core.SafeInterrupt bus order) :=
  decidable_of_iff (_ ∧ _ ∧ _)
    ⟨fun ⟨kept, settled, accesses⟩ => ⟨kept, settled, accesses⟩,
      fun ⟨kept, settled, accesses⟩ => ⟨kept, settled, accesses⟩⟩

end PipelineCore

/-- A machine with the program order beside its core. -/
abbrev Observed (β : Type) := Machine PipelineCore β × TrapOrder

namespace Observed

/-- A cycle of the machine, observed. -/
def stepCycle (s : Observed β) (tick : β → β) : Observed β :=
  (s.1.stepCycle tick,
    s.2.next (s.1.cpu.begun (tick s.1.bus)) (tick s.1.bus) (s.1.stepCycle tick).cpu)

omit [Bus β] in
/-- The observation starts with a core in which no trap has been entered. -/
def start (machine : Machine PipelineCore β) : Observed β := (machine, .start machine.cpu)

end Observed

/-- Every interrupt of the cycle resumes at the oldest instruction. -/
def InterruptsResume (s : Observed β) (tick : β → β) : Prop :=
  let core := s.1.cpu.begun (tick s.1.bus)
  (core.interrupt (tick s.1.bus)).isSome = true →
    core.ResumesOldest (tick s.1.bus) s.2 (s.1.stepCycle tick).cpu

/-- The interrupts of the cycle are safe. -/
def InterruptSafe (s : Observed β) (tick : β → β) : Prop :=
  (s.1.cpu.begun (tick s.1.bus)).SafeInterrupt (tick s.1.bus) s.2

instance (s : Observed β) (tick : β → β) : Decidable (InterruptsResume s tick) :=
  inferInstanceAs (Decidable (_ → PipelineCore.ResumesOldest _ _ _ _))

instance (s : Observed β) (tick : β → β) : Decidable (InterruptSafe s tick) :=
  inferInstanceAs (Decidable (PipelineCore.SafeInterrupt _ _ _))

/-! ## Where they resume -/

/-- Counting a retired instruction does not change where a return goes. -/
theorem resumed_incrementInstret (state : HartState) (retired : U64) :
    ({ state with csrs := state.csrs.incrementInstret retired } : HartState).resumed.pc =
        state.resumed.pc ∧
      ({ state with csrs := state.csrs.incrementInstret retired } : HartState).resumed.privilege =
        state.resumed.privilege := by
  unfold HartState.resumed
  rcases state.privilege <;> exact ⟨rfl, rfl⟩

section Step

variable {core : PipelineCore} {bus : β} {l : StepLocals β} {order : TrapOrder}

/-- A safe interrupt of a running hart resumes at the oldest instruction behind MEM/WB. -/
theorem OrderInvariant.resumes_running (inv : OrderInvariant core order)
    (safe : core.SafeInterrupt bus order) (running : core.state.halted = false)
    (cycle : RunningCycle core bus l) (htaken : (core.interrupt bus).isSome = true) :
    core.ResumesOldest bus order (core.finishCycle l).2.1 := by
  obtain ⟨hovertaken, hstale⟩ := safe.settled htaken
  obtain ⟨start, hpath, hstart⟩ := inv.retire_path bus running
  have hunretired : core.unretired = { core.latches with memWb := none } := by
    simp [PipelineCore.unretired, running]
  obtain ⟨i, hi⟩ := Option.isSome_iff_exists.mp htaken
  rw [PipelineCore.interrupt, if_neg (by simp [running])] at hi
  obtain rfl := cycle.unique (.interrupt hi)
  -- the saved pc and mode are those after write-back
  obtain ⟨hpc, hmode⟩ := resumed_applyTrap (core.written bus).state (.interrupt i)
    (core.written bus).state.pc
  obtain ⟨hpc', hmode'⟩ := resumed_incrementInstret
    (applyTrap (core.written bus).state (.interrupt i) (core.written bus).state.pc).1
    (core.finishCycle ((core.written bus).takeTrap (.interrupt i)
      (core.written bus).state.pc)).2.1.lastResult.retired
  refine ⟨hpc'.trans (hpc.trans ?_), hmode'.trans (hmode.trans ?_), hovertaken,
    safe.accesses htaken⟩
  · rw [hovertaken, List.drop_zero, ← PipelineLatches.flow_eq_laterFlow] at hpath
    rw [hunretired, PipelineLatches.oldestPc, hpath.start_eq]
    exact (hstart hovertaken hstale).symm
  · exact inv.retire_mode safe.kept running

/-- A safe interrupt that wakes a halted hart resumes at the oldest instruction in the latches. -/
theorem OrderInvariant.resumes_halted (inv : OrderInvariant core order)
    (safe : core.SafeInterrupt bus order) (halted : core.state.halted = true) {i : Interrupt}
    (hwake : core.wakeInterrupt bus = some i) {core' : PipelineCore}
    (hstate : core'.state = (applyTrap core.state (.interrupt i) core.state.pc).1) :
    core.ResumesOldest bus order core' := by
  have htaken : (core.interrupt bus).isSome = true := by
    simp [PipelineCore.interrupt, halted, hwake]
  obtain ⟨hovertaken, hstale⟩ := safe.settled htaken
  have hretire : order.retire core bus = order := if_pos halted
  obtain ⟨start, hpath, hstart⟩ := inv.path
  obtain ⟨hpc, hmode⟩ := resumed_applyTrap core.state (.interrupt i) core.state.pc
  rw [hretire] at hovertaken hstale
  refine ⟨?_, ?_, by rw [hretire]; exact hovertaken, safe.accesses htaken⟩
  · rw [hovertaken, List.drop_zero] at hpath
    rw [hstate, hpc, PipelineCore.unretired, if_pos halted, PipelineLatches.oldestPc,
      hpath.start_eq]
    exact (hstart hovertaken hstale).symm
  · rw [hstate, hmode, hretire]
    exact inv.mode

/-- A safe interrupt resumes at the oldest instruction. -/
theorem OrderInvariant.interruptsResume {s : Observed β} {tick : β → β}
    (inv : OrderInvariant s.1.cpu s.2) (safe : InterruptSafe s tick) : InterruptsResume s tick := by
  intro htaken
  have inv' := inv.begun (tick s.1.bus)
  have cycle := s.1.stepCycle_cases tick
  generalize s.1.stepCycle tick = machine' at cycle ⊢
  obtain ⟨core', bus'⟩ := machine'
  cases cycle with
  | wake halted interrupt => exact inv'.resumes_halted safe halted interrupt rfl
  | wait halted noInterrupt =>
    rw [PipelineCore.interrupt, if_pos halted, noInterrupt] at htaken
    cases htaken
  | running running cycle => exact inv'.resumes_running safe running cycle htaken

end Step

/-- **Every interrupt of a run resumes at the oldest instruction that has not taken effect**, if all
cycles of the run are safe. -/
theorem interruptsResume_run {machine : Machine PipelineCore β} (boot : machine.cpu.Boot)
    {ticks : List (β → β)}
    (h : Automata.Along Observed.stepCycle InterruptSafe (Observed.start machine) ticks) :
    Automata.Along Observed.stepCycle InterruptsResume (Observed.start machine) ticks :=
  h.of_invariant (I := fun s => OrderInvariant s.1.cpu s.2) boot.orderInvariant
    fun _ _ inv safe => ⟨inv.interruptsResume safe, inv.step safe.kept⟩

/-- Two instructions, a call to the supervisor and a jump to itself in user mode; the supervisor's
handler is at 16, the machine's at 20. The machine timer interrupt is enabled. -/
def callProgram : Machine PipelineCore TestBus :=
  .boot
    (fun state => { state with
      privilege := .user
      csrs := (((state.csrs.write .medeleg 0x100).write .stvec 16).write .mtvec 20).write .mie 0x80 })
    (.ofWords [0x00000013, 0x00000073, 0x0000006f, 0, 0x0000006f, 0x0000006f])

/-- The timer interrupt comes in the cycle in which the handler's first instruction has retired. -/
theorem interruptsResume_run_handler :
    Automata.Along Observed.stepCycle InterruptsResume (Observed.start callProgram)
      (List.replicate 8 id ++ [TestBus.raise (.fromLine .machineTimer), id]) :=
  interruptsResume_run (Machine.boot_boot _ _) (by decide +kernel)

/-! ## An interrupt behind a trap that has overtaken an instruction -/

/-- **An interrupt behind a trap entry repeats the trapped instruction in the wrong mode**: EX enters
the call while the instruction before it is in MEM. In the next cycle that instruction retires and
sets the pc to the call; the interrupt saves this pc with the mode of the handler. -/
theorem interrupt_resumes_trapped :
    callProgram.cpu.Boot ∧
      ¬ Automata.Along Observed.stepCycle InterruptsResume (Observed.start callProgram)
        (List.replicate 4 id ++ [TestBus.raise (.fromLine .machineTimer)]) ∧
      (callProgram.runCycles (List.replicate 4 id)).cpu.state.pc = 16 ∧
      (callProgram.runCycles
        (List.replicate 4 id ++ [TestBus.raise (.fromLine .machineTimer)])).cpu.state.resumed.pc =
          4 ∧
      (callProgram.runCycles (List.replicate 4 id ++
        [TestBus.raise (.fromLine .machineTimer)])).cpu.state.resumed.privilege = .supervisor :=
  ⟨Machine.boot_boot _ _, by decide +kernel, by decide +kernel, by decide +kernel,
    by decide +kernel⟩

end RvSim
