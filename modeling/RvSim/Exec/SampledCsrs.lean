import RvSim.Exec.SoftwarePending
import RvSim.State.Arbitration

/-!
# Sampled CSRs

The masked fields of the CSR file stay within their masks, and `mip` shows what the lines and software set
pending: nothing that a hart does between two samples of the lines changes that.

## Main definitions

* `CsrFile.Legal`: the masked fields are within their masks
* `CsrFile.Current`: a legal file that shows the sampled lines
* `CsrFile.KeptByHart`: a property that writes, trap entries and returns keep

## Main results

* `CsrFile.Legal.syncInterrupts`: a sample of the lines is current
* `CsrFile.keptByHart_current`: and it stays current
* `CsrFile.Current.pending_iff`: an interrupt is pending if its line is up or software has set it
-/

namespace RvSim

/-! ## Masks -/

/-- The word has no bit outside the mask. -/
def Within (mask value : U32) : Prop := value &&& ~~~mask = 0

instance (mask value : U32) : Decidable (Within mask value) := inferInstanceAs (Decidable (_ = _))

section Within

variable {mask other value : U32}

theorem within_iff : Within mask value ↔ ∀ i, value.getLsbD i = true → mask.getLsbD i = true := by
  constructor
  · intro h i hi
    have hbit : (value &&& ~~~mask).getLsbD i = false := by
      rw [h]
      simp
    rwa [getLsbD_clear, hi, Bool.true_and, Bool.not_eq_false'] at hbit
  · intro h
    apply BitVec.eq_of_getLsbD_eq
    intro i hi
    rw [getLsbD_clear]
    cases hv : value.getLsbD i with
    | false => simp
    | true => simp [h i hv]

theorem within_and (value mask : U32) : Within mask (value &&& mask) := by
  rw [within_iff]
  intro i hi
  rw [BitVec.getLsbD_and, Bool.and_eq_true] at hi
  exact hi.2

theorem Within.or (h : Within mask value) (hother : Within mask other) : Within mask (value ||| other) := by
  rw [within_iff] at h hother ⊢
  intro i hi
  rw [BitVec.getLsbD_or, Bool.or_eq_true] at hi
  exact hi.elim (h i) (hother i)

theorem Within.and (h : Within mask value) (bits : U32) : Within mask (value &&& bits) := by
  rw [within_iff] at h ⊢
  intro i hi
  rw [BitVec.getLsbD_and, Bool.and_eq_true] at hi
  exact h i hi.1

theorem Within.mono (h : Within mask value) (hsub : Within other mask) : Within other value := by
  rw [within_iff] at h hsub ⊢
  intro i hi
  exact hsub i (h i hi)

/-- Nothing is in a disjoint mask. -/
theorem Within.and_eq_zero (h : Within mask value) (hdisjoint : mask &&& other = 0) :
    value &&& other = 0 := by
  rw [within_iff] at h
  apply BitVec.eq_of_getLsbD_eq
  intro i hi
  have hbit : (mask &&& other).getLsbD i = false := by
    rw [hdisjoint]
    simp
  rw [BitVec.getLsbD_and] at hbit ⊢
  cases hv : value.getLsbD i with
  | false => simp
  | true =>
    rw [h i hv] at hbit
    simpa using hbit

/-- A part that is written under its own mask stays within the larger one. -/
theorem Within.replace (h : Within other value) {mask : U32} (hsub : Within other mask) (bits : U32) :
    Within other (value &&& ~~~mask ||| bits &&& mask) :=
  (h.and _).or ((within_and bits mask).mono hsub)

end Within

/-! ## The lines -/

/-- The line that drives an interrupt. -/
def Interrupt.line : Interrupt → InterruptLine
  | .supervisorSoftware => .supervisorSoftware
  | .machineSoftware => .machineSoftware
  | .supervisorTimer => .supervisorTimer
  | .machineTimer => .machineTimer
  | .supervisorExternal => .supervisorExternal
  | .machineExternal => .machineExternal

namespace CsrFile

/-- The lines put up the pending bits of their interrupts, and no others. -/
theorem externalMask_pending (lines : InterruptSet) (interrupt : Interrupt) :
    (externalMask lines &&& interruptPendingMask interrupt != 0) = lines.contains interrupt.line := by
  unfold externalMask
  generalize hss : lines.contains .supervisorSoftware = ss
  generalize hme : lines.contains .machineExternal = me
  generalize hms : lines.contains .machineSoftware = ms
  generalize hst : lines.contains .supervisorTimer = st
  generalize hmt : lines.contains .machineTimer = mt
  generalize hse : lines.contains .supervisorExternal = se
  cases interrupt <;> simp only [Interrupt.line, hss, hme, hms, hst, hmt, hse] <;>
    clear hss hme hms hst hmt hse <;> revert ss me ms st mt se <;> decide

theorem externalMask_within (lines : InterruptSet) : Within managedInterruptMask (externalMask lines) := by
  have hline {mask : U32} (hmask : Within managedInterruptMask mask) (line : InterruptLine) :
      Within managedInterruptMask (if lines.contains line then mask else 0) := by
    split
    · exact hmask
    · rfl
  unfold externalMask
  refine (((((hline ?_ _).or (hline ?_ _)).or (hline ?_ _)).or (hline ?_ _)).or (hline ?_ _)).or (hline ?_ _)
  all_goals decide

/-! ## Legal files -/

/-- The fields that a write masks are within their masks. -/
structure Legal (csrs : CsrFile) : Prop where
  medeleg : Within medelegMask csrs.machine.medeleg
  mideleg : Within midelegMask csrs.machine.mideleg
  mie : Within mieMask csrs.machine.mie
  mip : Within managedInterruptMask csrs.machine.mip
  mcounteren : Within counterenMask csrs.machine.mcounteren
  scounteren : Within counterenMask csrs.supervisor.scounteren
  software : Within mipWritableMask csrs.softwarePending

/-- A legal file that shows the lines it has sampled, beside what software has set. -/
structure Current (lines : InterruptSet) (csrs : CsrFile) : Prop where
  legal : csrs.Legal
  external : csrs.externalPending = externalMask lines
  mip : csrs.machine.mip = csrs.softwarePending ||| externalMask lines

theorem current_default : ({} : CsrFile).Current .empty :=
  ⟨⟨rfl, rfl, rfl, rfl, rfl, rfl, rfl⟩, rfl, rfl⟩

section

variable {csrs : CsrFile} {lines : InterruptSet}

/-- The bits of software and those of the lines are all there is in `mip`. -/
theorem mip_refreshMip (hmip : Within managedInterruptMask csrs.machine.mip)
    (hsoftware : Within mipWritableMask csrs.softwarePending)
    (hexternal : csrs.externalPending = externalMask lines) :
    csrs.refreshMip.machine.mip = csrs.softwarePending ||| externalMask lines := by
  have hkept {mask value : U32} (h : Within mask value) : value &&& mask = value := by
    apply BitVec.eq_of_getLsbD_eq
    intro i hi
    rw [BitVec.getLsbD_and]
    cases hv : value.getLsbD i with
    | false => simp
    | true => simp [within_iff.1 h i hv]
  have hclear : csrs.machine.mip &&& ~~~managedInterruptMask = 0 := hmip
  simp only [refreshMip, hexternal, hclear, hkept hsoftware, hkept (externalMask_within lines),
    BitVec.or_assoc]
  simp

/-- What the merge needs, and what it keeps. -/
theorem Legal.refreshMip (h : csrs.Legal) (hexternal : csrs.externalPending = externalMask lines) :
    csrs.refreshMip.Current lines := by
  have hmip := mip_refreshMip h.mip h.software hexternal
  refine ⟨{ h with mip := ?_ }, hexternal, hmip⟩
  rw [hmip]
  exact (h.software.mono (by decide)).or (externalMask_within lines)

/-- **A sample of the lines is current.** -/
theorem Legal.syncInterrupts (h : csrs.Legal) (lines : InterruptSet) :
    (csrs.syncInterrupts lines).Current lines := by
  have hsampled : { csrs with externalPending := externalMask lines }.Legal := { h with }
  exact hsampled.refreshMip rfl

/-- The bits of software and of the line decide whether an interrupt is pending. -/
theorem Current.pending_iff (h : csrs.Current lines) (interrupt : Interrupt) :
    csrs.interruptIsPending interrupt = true ↔
      lines.contains interrupt.line = true ∨ csrs.softwarePending &&& interruptPendingMask interrupt ≠ 0 := by
  have hsplit : csrs.machine.mip &&& interruptPendingMask interrupt =
      csrs.softwarePending &&& interruptPendingMask interrupt |||
        externalMask lines &&& interruptPendingMask interrupt := by
    rw [h.mip]
    ext i hi
    simp [Bool.and_or_distrib_right]
  have hor : csrs.softwarePending &&& interruptPendingMask interrupt |||
      externalMask lines &&& interruptPendingMask interrupt = (0 : U32) ↔
        csrs.softwarePending &&& interruptPendingMask interrupt = 0 ∧
          externalMask lines &&& interruptPendingMask interrupt = 0 := BitVec.or_eq_zero_iff
  rw [interruptIsPending, hsplit, ← externalMask_pending, bne_iff_ne, bne_iff_ne, ne_eq, hor]
  tauto

/-- Software sets no interrupts pending but the software interrupts. -/
theorem Legal.software_cases (h : csrs.Legal) {interrupt : Interrupt}
    (hset : csrs.softwarePending &&& interruptPendingMask interrupt ≠ 0) :
    interrupt = .supervisorSoftware ∨ interrupt = .machineSoftware := by
  cases interrupt with
  | supervisorSoftware => exact .inl rfl
  | machineSoftware => exact .inr rfl
  | _ => exact absurd (h.software.and_eq_zero (by decide)) hset

end

/-! ## What a hart keeps -/

/-- The CSR writes, trap entries, returns and retirements of a hart keep a property of the file. -/
structure KeptByHart (P : CsrFile → Prop) : Prop where
  write : ∀ {csrs}, P csrs → ∀ address value, P (csrs.write address value)
  enterTrap : ∀ {csrs}, P csrs → ∀ trap pc mode, P (csrs.enterTrap trap pc mode).2.2
  returnFromMachineTrap : ∀ {csrs}, P csrs → P csrs.returnFromMachineTrap.2.2
  returnFromSupervisorTrap : ∀ {csrs}, P csrs → P csrs.returnFromSupervisorTrap.2.2
  incrementInstret : ∀ {csrs}, P csrs → ∀ retired, P (csrs.incrementInstret retired)

/-- A write puts its value under the mask of its field. -/
theorem Current.write {csrs : CsrFile} {lines : InterruptSet} (h : csrs.Current lines)
    (address : CsrAddress) (value : U32) : (csrs.write address value).Current lines := by
  have hlegal := h.legal
  cases address with
  -- the two that write bits of software merge them with the lines once more
  | mip =>
    have hmask : Within mipWritableMask mipWritableMask := by decide
    have hsoftware := hlegal.software.replace hmask value
    exact Legal.refreshMip { hlegal with software := hsoftware } h.external
  | sip =>
    have hmask : Within mipWritableMask sipWritableMask := by decide
    have hsoftware := hlegal.software.replace hmask value
    exact Legal.refreshMip { hlegal with software := hsoftware } h.external
  | sie => exact ⟨{ hlegal with mie := hlegal.mie.replace (by decide) value }, h.external, h.mip⟩
  | mie => exact ⟨{ hlegal with mie := within_and value _ }, h.external, h.mip⟩
  | medeleg => exact ⟨{ hlegal with medeleg := within_and value _ }, h.external, h.mip⟩
  | mideleg => exact ⟨{ hlegal with mideleg := within_and value _ }, h.external, h.mip⟩
  | mcounteren => exact ⟨{ hlegal with mcounteren := within_and value _ }, h.external, h.mip⟩
  | scounteren => exact ⟨{ hlegal with scounteren := within_and value _ }, h.external, h.mip⟩
  | _ => exact ⟨{ hlegal with }, h.external, h.mip⟩

/-- **What a hart does leaves the file current.** -/
theorem keptByHart_current (lines : InterruptSet) : KeptByHart (Current lines) where
  write h address value := h.write address value
  enterTrap h trap pc mode := by
    unfold CsrFile.enterTrap
    split
    · exact ⟨{ h.legal with }, h.external, h.mip⟩
    · exact ⟨{ h.legal with }, h.external, h.mip⟩
  returnFromMachineTrap h := ⟨{ h.legal with }, h.external, h.mip⟩
  returnFromSupervisorTrap h := ⟨{ h.legal with }, h.external, h.mip⟩
  incrementInstret h _ := ⟨{ h.legal with }, h.external, h.mip⟩

end CsrFile

end RvSim
