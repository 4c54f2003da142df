import RvSim.Core.InterruptLines
import RvSim.System.TestBus

/-!
# Sleep

A hart that waits for an interrupt makes no access, in either core, and counts its cycles. Two cores that are
asleep in one state stay in one state, and the same interrupt wakes both in the same cycle.

## Main definitions

* `PipelineCore.wakes`: the interrupt that wakes a core in a cycle
* `SleepAlike`, `WakeAlike`: a reference core and a pipeline that are asleep, or awake, in one state
* `HartState.Slept`: what sleep leaves of a state

## Main results

* `SleepAlike.stepCycle`: a cycle of both
* `sleeps_alike`: a run of both, up to the cycle that wakes them
-/

namespace RvSim

open Automata

variable {β : Type} [Bus β]

/-! ## What sleep does to a state -/

/-- The state with other counts and pending bits. -/
def HartState.dozing (state : HartState) (mcycle time : U64) (mip externalPending : U32) : HartState :=
  { state with csrs := { state.csrs with
      machine := { state.csrs.machine with mcycle, time, mip }
      externalPending } }

/-- After `cycles` cycles of sleep: they are counted, and the time and the pending bits are those of the
bus. -/
def HartState.Slept (start : HartState) (cycles : Nat) (state : HartState) : Prop :=
  ∃ time mip externalPending,
    state = start.dozing (start.csrs.machine.mcycle + .ofNat 64 cycles) time mip externalPending

section Slept

variable {start state : HartState} {cycles : Nat}

omit [Bus β] in
theorem HartState.slept_zero (start : HartState) : start.Slept 0 start := by
  refine ⟨start.csrs.machine.time, start.csrs.machine.mip, start.csrs.externalPending, ?_⟩
  simp [HartState.dozing]

/-- A cycle counts, and samples the time and the lines. -/
theorem HartState.Slept.beginCycle (h : start.Slept cycles state) (bus : β) :
    start.Slept (cycles + 1) (beginCycle state bus) := by
  obtain ⟨time, mip, externalPending, rfl⟩ := h
  have hcount : start.csrs.machine.mcycle + .ofNat 64 (cycles + 1) =
      start.csrs.machine.mcycle + .ofNat 64 cycles + 1 := by
    rw [BitVec.ofNat_add, ← BitVec.add_assoc]
    rfl
  unfold HartState.Slept
  rw [hcount]
  unfold RvSim.beginCycle
  cases Bus.machineTime bus with
  | none => exact ⟨_, _, _, rfl⟩
  | some now => exact ⟨_, _, _, rfl⟩

end Slept

/-! ## Two cores -/

/-- The interrupt that wakes a sleeping hart, if there is one. -/
def HartState.wakes (state : HartState) (bus : β) : Option Interrupt :=
  if !Bus.isBusy bus then state.csrs.pendingInterrupt state.privilege else none

/-- The state after a cycle of sleep. -/
def HartState.sleepCycle (state : HartState) (bus : β) : HartState :=
  let state := beginCycle state bus
  match state.wakes bus with
  | some i => (applyTrap state (.interrupt i) state.pc).1
  | none => state

/-- The cores are in one state, in front of one bus. -/
structure SameState (reference : Machine ReferenceCore β) (pipeline : Machine PipelineCore β) : Prop where
  state : reference.cpu.state = pipeline.cpu.state
  bus : reference.bus = pipeline.bus
  pending : reference.cpu.pendingDecoded = none

structure SleepAlike (reference : Machine ReferenceCore β) (pipeline : Machine PipelineCore β) : Prop
    extends SameState reference pipeline where
  halted : pipeline.cpu.state.halted = true

/-- Both cores have entered the trap of an interrupt, and the pipeline starts afresh at its vector. -/
structure WakeAlike (reference : Machine ReferenceCore β) (pipeline : Machine PipelineCore β) : Prop
    extends SameState reference pipeline where
  running : pipeline.cpu.state.halted = false
  latches : pipeline.cpu.latches = {}
  frontEndPc : pipeline.cpu.frontEndPc = pipeline.cpu.state.pc

section Step

/-- A sleeping reference core does nothing but wake. -/
theorem ReferenceCore.stepCycle_asleep {core : ReferenceCore} (halted : core.state.halted = true)
    (hpending : core.pendingDecoded = none) (bus : β) :
    (core.stepCycle bus).2.1.state = core.state.sleepCycle bus ∧
      (core.stepCycle bus).2.1.pendingDecoded = none ∧ (core.stepCycle bus).2.2 = bus := by
  have hhalted : (core.begun bus).state.halted = true := halted
  show ((core.begun bus).instructionStep bus).2.1.state = _ ∧
    ((core.begun bus).instructionStep bus).2.1.pendingDecoded = none ∧
    ((core.begun bus).instructionStep bus).2.2 = bus
  have hwakes : (if (core.begun bus).pendingDecoded.isNone && !Bus.isBusy bus then
      (core.begun bus).state.csrs.pendingInterrupt (core.begun bus).state.privilege else none) =
        (beginCycle core.state bus).wakes bus := by
    have hnone : (core.begun bus).pendingDecoded = none := hpending
    rw [hnone]
    rfl
  unfold ReferenceCore.instructionStep ReferenceCore.interrupt HartState.sleepCycle
  simp only [hwakes]
  cases (beginCycle core.state bus).wakes bus with
  | some i => exact ⟨rfl, hpending, rfl⟩
  | none =>
    rw [if_pos hhalted]
    exact ⟨rfl, hpending, rfl⟩

/-- Nor does a sleeping pipeline. -/
theorem PipelineCore.stepCycle_asleep {core : PipelineCore} (halted : core.state.halted = true) (bus : β) :
    (core.stepCycle bus).2.1.state = core.state.sleepCycle bus ∧ (core.stepCycle bus).2.2 = bus ∧
      (core.stepCycle bus).2.1.translationBarrier = core.translationBarrier ∧
      (((beginCycle core.state bus).wakes bus).isSome = true →
        (core.stepCycle bus).2.1.latches = {} ∧
          (core.stepCycle bus).2.1.frontEndPc = (core.stepCycle bus).2.1.state.pc) := by
  have hhalted : (core.begun bus).state.halted = true := halted
  have hwakes : (core.begun bus).wakeInterrupt bus = (beginCycle core.state bus).wakes bus := rfl
  unfold PipelineCore.stepCycle PipelineCore.haltedCycle HartState.sleepCycle
  dsimp only
  rw [if_pos hhalted, hwakes]
  cases (beginCycle core.state bus).wakes bus with
  | some i => exact ⟨rfl, rfl, rfl, fun _ => ⟨rfl, rfl⟩⟩
  | none => exact ⟨rfl, rfl, rfl, fun h => by cases h⟩

end Step

variable {reference : Machine ReferenceCore β} {pipeline : Machine PipelineCore β}

/-- **A cycle of two sleeping cores**: they sleep on, or one interrupt wakes both. -/
theorem SleepAlike.stepCycle (h : SleepAlike reference pipeline) (tick : β → β) :
    (pipeline.stepCycle tick).cpu.state = pipeline.cpu.state.sleepCycle (tick pipeline.bus) ∧
      (pipeline.stepCycle tick).bus = tick pipeline.bus ∧
      (pipeline.stepCycle tick).cpu.translationBarrier = pipeline.cpu.translationBarrier ∧
      if ((beginCycle pipeline.cpu.state (tick pipeline.bus)).wakes (tick pipeline.bus)).isSome then
        WakeAlike (reference.stepCycle tick) (pipeline.stepCycle tick)
      else SleepAlike (reference.stepCycle tick) (pipeline.stepCycle tick) := by
  have hhalted : reference.cpu.state.halted = true := h.state ▸ h.halted
  obtain ⟨hrstate, hrpending, hrbus⟩ := ReferenceCore.stepCycle_asleep hhalted h.pending (tick reference.bus)
  obtain ⟨hpstate, hpbus, hbarrier, hfresh⟩ := PipelineCore.stepCycle_asleep h.halted (tick pipeline.bus)
  have hsame : SameState (reference.stepCycle tick) (pipeline.stepCycle tick) := by
    refine ⟨?_, ?_, hrpending⟩
    · apply hrstate.trans
      rw [h.state, h.bus]
      exact hpstate.symm
    · apply hrbus.trans
      rw [h.bus]
      exact hpbus.symm
  refine ⟨hpstate, hpbus, hbarrier, ?_⟩
  split
  · next hwakes =>
    obtain ⟨hlatches, hpc⟩ := hfresh hwakes
    refine ⟨hsame, ?_, hlatches, hpc⟩
    show (pipeline.cpu.stepCycle (tick pipeline.bus)).2.1.state.halted = false
    obtain ⟨i, hi⟩ := Option.isSome_iff_exists.1 hwakes
    rw [hpstate, HartState.sleepCycle, hi]
    rfl
  · next hsleeps =>
    refine ⟨hsame, ?_⟩
    have hnone := Option.not_isSome_iff_eq_none.1 hsleeps
    show (pipeline.cpu.stepCycle (tick pipeline.bus)).2.1.state.halted = true
    rw [hpstate, HartState.sleepCycle, hnone]
    exact h.halted

/-! ## Runs -/

/-- No interrupt wakes the pipeline in the cycle. -/
def Dozes (machine : Machine PipelineCore β) (tick : β → β) : Prop :=
  (beginCycle machine.cpu.state (tick machine.bus)).wakes (tick machine.bus) = none

instance (machine : Machine PipelineCore β) (tick : β → β) : Decidable (Dozes machine tick) :=
  inferInstanceAs (Decidable (_ = _))

/-- The cores sleep on for as long as no interrupt wakes the pipeline. -/
theorem SleepAlike.runCycles (h : SleepAlike reference pipeline) {ticks : List (β → β)}
    (dozes : Along Machine.stepCycle Dozes pipeline ticks) {start : HartState} {cycles : Nat}
    (slept : start.Slept cycles pipeline.cpu.state) :
    SleepAlike (reference.runCycles ticks) (pipeline.runCycles ticks) ∧
      (pipeline.runCycles ticks).bus = ticks.foldl (fun bus tick => tick bus) pipeline.bus ∧
      (pipeline.runCycles ticks).cpu.translationBarrier = pipeline.cpu.translationBarrier ∧
      start.Slept (cycles + ticks.length) (pipeline.runCycles ticks).cpu.state := by
  induction ticks generalizing reference pipeline cycles with
  | nil => exact ⟨h, rfl, rfl, slept⟩
  | cons tick ticks ih =>
    obtain ⟨hdozes, hrest⟩ := dozes
    obtain ⟨hstate, hbus, hbarrier, hnext⟩ := h.stepCycle tick
    have hnone : (beginCycle pipeline.cpu.state (tick pipeline.bus)).wakes (tick pipeline.bus) = none := hdozes
    rw [hnone] at hnext
    have hslept : start.Slept (cycles + 1) (pipeline.stepCycle tick).cpu.state := by
      rw [hstate, HartState.sleepCycle, hnone]
      exact slept.beginCycle _
    obtain ⟨hsleep, hticks, hkept, hcount⟩ := ih hnext hrest hslept
    refine ⟨hsleep, ?_, hkept.trans hbarrier, ?_⟩
    · rw [List.foldl_cons, ← hbus]
      exact hticks
    · rw [List.length_cons, Nat.add_comm ticks.length, ← Nat.add_assoc]
      exact hcount

/-- **Sleep.** Two cores that are asleep in one state in front of one bus stay in one state: as long as no
interrupt wakes them, the bus sees the ticks and nothing else, and the state changes by the count of the
cycles, the time and the pending bits alone. In any cycle with an idle bus in which an interrupt can be taken,
both wake: they enter the trap of the same interrupt, in one state again, and the pipeline starts afresh at the
vector, with the translation barrier it went to sleep with. -/
theorem sleeps_alike (h : SleepAlike reference pipeline) {ticks : List (β → β)}
    (dozes : Along Machine.stepCycle Dozes pipeline ticks) (tick : β → β) :
    let asleep := pipeline.runCycles ticks
    let sampled := beginCycle asleep.cpu.state (tick asleep.bus)
    SleepAlike (reference.runCycles ticks) asleep ∧
      asleep.bus = ticks.foldl (fun bus tick => tick bus) pipeline.bus ∧
      pipeline.cpu.state.Slept ticks.length asleep.cpu.state ∧
      (Bus.isBusy (tick asleep.bus) = false → (∃ i, sampled.csrs.Takeable sampled.privilege i) →
        WakeAlike ((reference.runCycles ticks).stepCycle tick) (asleep.stepCycle tick) ∧
        (asleep.stepCycle tick).cpu.translationBarrier = pipeline.cpu.translationBarrier ∧
        ∃ i, sampled.csrs.Takeable sampled.privilege i ∧
          (asleep.stepCycle tick).cpu.state = (applyTrap sampled (.interrupt i) sampled.pc).1) := by
  intro asleep sampled
  obtain ⟨hsleep, hbus, hkept, hslept⟩ := h.runCycles dozes (pipeline.cpu.state.slept_zero)
  rw [Nat.zero_add] at hslept
  refine ⟨hsleep, hbus, hslept, ?_⟩
  intro hidle htakeable
  obtain ⟨hstate, -, hbarrier, hnext⟩ := hsleep.stepCycle tick
  obtain ⟨i, hi⟩ := Option.isSome_iff_exists.1
    ((sampled.csrs.pendingInterrupt_isSome sampled.privilege).2 htakeable)
  have hwakes : sampled.wakes (tick asleep.bus) = some i := by
    unfold HartState.wakes
    rw [hidle]
    exact hi
  rw [hwakes] at hnext
  refine ⟨hnext, hbarrier.trans hkept, i, sampled.csrs.takeable_of_pendingInterrupt _ hi, ?_⟩
  rw [hstate, HartState.sleepCycle, hwakes]

/-- A hart in user mode that waits for the machine timer. -/
def waitingHart : HartState :=
  { HartState.new 0 with
    privilege := .user, halted := true
    csrs := (({} : CsrFile).write .mie 0x80).write .mtvec 16 }

/-- The timer comes in the third cycle. -/
theorem sleeps_alike_timer :
    let reference : Machine ReferenceCore TestBus :=
      { cpu := { ReferenceCore.new 0 with state := waitingHart }, bus := .ofWords [] }
    let pipeline : Machine PipelineCore TestBus :=
      { cpu := { PipelineCore.new 0 with state := waitingHart }, bus := .ofWords [] }
    let raise := TestBus.raise (.fromLine .machineTimer)
    WakeAlike ((reference.runCycles [id, id]).stepCycle raise) ((pipeline.runCycles [id, id]).stepCycle raise) := by
  intro reference pipeline raise
  have asleep : SleepAlike reference pipeline := ⟨⟨rfl, rfl, rfl⟩, rfl⟩
  have hdozes : Along Machine.stepCycle Dozes pipeline [id, id] := by decide +kernel
  have hruns := sleeps_alike asleep hdozes raise
  exact (hruns.2.2.2 rfl ⟨.machineTimer, (CsrFile.takesInterrupt_iff _ _ _).1 (by decide +kernel)⟩).1

end RvSim
