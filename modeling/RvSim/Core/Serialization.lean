import RvSim.System.Machine

/-!
# Serialized CSR accesses

CSR instructions and returns from traps wait in ID until no CSR instruction is ahead of them, so
what they read of the CSRs in EX is what they find there in write-back.

## Main definitions

* `Serialized`: no CSR instruction is ahead of one, or of a return, that has left ID

## Main results

* `Serialized.step`: every cycle keeps this
-/

namespace RvSim

/-- Between two cycles no CSR instruction is in flight ahead of an instruction that waits for them
in ID, and only CSR instructions have a CSR write. -/
structure Serialized (core : PipelineCore) : Prop where
  memWbWrite : ∀ q, core.latches.memWb = some q → q.decoded.kind.isCsr = false →
    q.csrWrite = none
  exMemWrite : ∀ x, core.latches.exMem = some x → x.decoded.kind.isCsr = false →
    x.csrWrite = none
  idEx : ∀ p, core.latches.idEx = some p → requiresCsrSerialization p.decoded = true →
    (∀ x, core.latches.exMem = some x → x.decoded.kind.isCsr = false) ∧
    (∀ q, core.latches.memWb = some q → q.decoded.kind.isCsr = false)
  exMem : ∀ x, core.latches.exMem = some x → requiresCsrSerialization x.decoded = true →
    ∀ q, core.latches.memWb = some q → q.decoded.kind.isCsr = false

/-- Empty latches are serialized. -/
theorem Serialized.of_latches {core : PipelineCore} (h : core.latches = {}) :
    Serialized core := by
  constructor
  all_goals simp [h]

/-- Only the latches matter. -/
theorem Serialized.congr {core core' : PipelineCore} (inv : Serialized core)
    (h : core'.latches = core.latches) : Serialized core' := by
  obtain ⟨memWbWrite, exMemWrite, idEx, exMem⟩ := inv
  rw [← h] at memWbWrite exMemWrite idEx exMem
  exact ⟨memWbWrite, exMemWrite, idEx, exMem⟩

/-- ID lets a serialized instruction pass only with no CSR instruction ahead. -/
theorem not_isCsr_of_decodeHazard {latches : PipelineLatches} {d : DecodedInstruction}
    (hserial : requiresCsrSerialization d = true)
    (h : StepLocals.decodeHazard latches d = false) :
    (∀ p, latches.idEx = some p → p.decoded.kind.isCsr = false) ∧
      ∀ x, latches.exMem = some x → x.decoded.kind.isCsr = false := by
  simp only [StepLocals.decodeHazard, Bool.or_eq_false_iff, hserial, Bool.true_and,
    hasInFlightCsrInstruction] at h
  exact ⟨fun p hp => by simpa [hp] using h.2.1.1, fun x hx => by simpa [hx] using h.2.1.2⟩

variable {β : Type} [Bus β]

namespace Serialized

variable {core : PipelineCore} {bus : β} {l : StepLocals β}

theorem begun (inv : Serialized core) (bus : β) : Serialized (core.begun bus) := inv.congr rfl

/-- A running cycle keeps CSR instructions serialized. -/
theorem running (inv : Serialized core) (running : core.state.halted = false)
    (cycle : RunningCycle core bus l) : Serialized (core.finishCycle l).2.1 := by
  -- MEM/WB comes from EX/MEM
  have fromExMem : (∀ x, core.latches.exMem = some x → x.decoded.kind.isCsr = false) →
      ∀ q, l.next.memWb = some q → q.decoded.kind.isCsr = false := by
    intro hexMem q hq
    obtain ⟨x, hx, hq'⟩ := cycle.memWb_decoded running hq
    rw [hq']
    exact hexMem x hx
  refine ⟨fun q hq hcsr => ?memWbWrite, fun x hx hcsr => ?exMemWrite,
    fun p hp hserial => ?idEx, fun x hx hserial => ?exMem⟩
  case memWbWrite =>
    obtain ⟨x, hx, hq'⟩ := cycle.memWb_decoded running hq
    rw [hq'] at hcsr ⊢
    exact inv.exMemWrite x hx hcsr
  case exMemWrite =>
    rcases cycle.exMem_cases running with ⟨_, -, hw⟩ | hnone | ⟨p, _, _, _, -, hexec, hx'⟩
    · exact inv.exMemWrite x (by simpa [hw] using hx) hcsr
    · cases hnone.symm.trans hx
    · obtain rfl := Option.some.inj (hx'.symm.trans hx)
      exact ExStage.execute_csrWrite hcsr hexec
  case idEx =>
    rcases cycle.idEx_cases running with
      ⟨_, -, hw⟩ | ⟨-, hd, hnone⟩ | hd | ⟨_, d, -, -, -, hhazard, hd⟩
    · obtain ⟨hexMem, -⟩ := inv.idEx p (by simpa [hw] using hp) hserial
      exact ⟨fun x h => hexMem x (by simpa [hw] using h), fromExMem hexMem⟩
    · obtain ⟨hexMem, -⟩ := inv.idEx p (hd.symm.trans hp) hserial
      exact ⟨fun x h => absurd (hnone.symm.trans h) (by simp), fromExMem hexMem⟩
    · cases hd.symm.trans hp
    · obtain rfl := Option.some.inj (hd.symm.trans hp)
      obtain ⟨hidEx, hexMem⟩ := not_isCsr_of_decodeHazard hserial hhazard
      refine ⟨fun x hx => ?_, fromExMem hexMem⟩
      rcases cycle.exMem_decoded running hx with hx | ⟨p', hp', hx⟩
      · exact hexMem x hx
      · rw [hx]
        exact hidEx p' hp'
  case exMem =>
    rcases cycle.exMem_cases running with ⟨_, -, hw⟩ | hnone | ⟨p, _, _, _, hcall, -, hx'⟩
    · intro q hq
      simp [hw] at hq
    · cases hnone.symm.trans hx
    · obtain rfl := Option.some.inj (hx'.symm.trans hx)
      obtain ⟨-, -, -, -, hlatch, -, -⟩ := PipelineCore.executeCall_eq_some_iff.mp hcall
      exact fromExMem (inv.idEx p hlatch hserial).1

/-- **Every cycle keeps CSR instructions serialized.** -/
theorem step {machine : Machine PipelineCore β} {tick : β → β} (inv : Serialized machine.cpu) :
    Serialized (machine.stepCycle tick).cpu := by
  have inv' := inv.begun (tick machine.bus)
  have cycle := machine.stepCycle_cases tick
  generalize machine.stepCycle tick = machine' at cycle ⊢
  obtain ⟨core', bus'⟩ := machine'
  cases cycle with
  | wake => exact .of_latches rfl
  | wait => exact inv.congr rfl
  | running running cycle => exact inv'.running running cycle

end Serialized

end RvSim
