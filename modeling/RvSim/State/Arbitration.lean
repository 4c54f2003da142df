import RvSim.State.StatusWord

/-!
# Which interrupt is taken

The scan for an interrupt goes over the sources in one fixed order and does not look at the modes they are
for. Delegation can put a source of supervisor mode in front of one that is left to machine mode.

## Main definitions

* `CsrFile.interruptTarget`, `CsrFile.Takeable`: the mode of an interrupt, and whether it can be taken
* `CsrFile.Arbitrates`: the choice is right, and the entry settles it

## Main results

* `CsrFile.takesInterrupt_iff`: the scan looks for interrupts that can be taken
* `CsrFile.arbitrates_iff`: in which states the choice is right
-/

namespace RvSim

namespace CsrFile

variable (csrs : CsrFile) (mode : PrivilegeMode)

/-- The mode an interrupt is for. -/
def interruptTarget (interrupt : Interrupt) : PrivilegeMode :=
  if csrs.delegatesInterruptToSupervisor interrupt then .supervisor else .machine

/-- The global enable of a mode. -/
def globalEnable : PrivilegeMode → Bool
  | .machine => (csrs.machine.mstatus &&& mstatusMie) != 0
  | .supervisor => (csrs.machine.mstatus &&& mstatusSie) != 0
  | .user => false

/-- The interrupt is pending and enabled, and for a mode above the current one, or for the current one with
its global enable set. -/
structure Takeable (interrupt : Interrupt) : Prop where
  pending : csrs.interruptIsPending interrupt = true
  enabled : csrs.interruptIsEnabled interrupt = true
  above : mode.csrLevel ≤ (csrs.interruptTarget interrupt).csrLevel
  globally : csrs.interruptTarget interrupt = mode → csrs.globalEnable mode = true

/-- The place of an interrupt in the order of the scan. -/
def priorityOf (interrupt : Interrupt) : Nat := interruptPriority.idxOf interrupt

/-! ## The scan -/

/-- The scan returns at the interrupts that can be taken. -/
theorem takesInterrupt_iff (interrupt : Interrupt) :
    csrs.takesInterrupt mode interrupt = true ↔ csrs.Takeable mode interrupt := by
  have hscan : csrs.takesInterrupt mode interrupt =
      (csrs.interruptIsPending interrupt && csrs.interruptIsEnabled interrupt &&
        (csrs.interruptTargetPrivilege interrupt mode).any (csrs.interruptGloballyEnabled · mode)) := by
    unfold takesInterrupt
    cases csrs.interruptTargetPrivilege interrupt mode <;> rfl
  have hmode : (csrs.interruptTargetPrivilege interrupt mode).any
      (csrs.interruptGloballyEnabled · mode) = true ↔
      mode.csrLevel ≤ (csrs.interruptTarget interrupt).csrLevel ∧
        (csrs.interruptTarget interrupt = mode → csrs.globalEnable mode = true) := by
    unfold interruptTargetPrivilege interruptTarget
    by_cases hdelegated : csrs.delegatesInterruptToSupervisor interrupt = true
    · rw [if_pos hdelegated, if_pos hdelegated]
      cases mode <;> simp [interruptGloballyEnabled, globalEnable, PrivilegeMode.csrLevel]
    · rw [if_neg hdelegated, if_neg hdelegated]
      cases mode <;> simp [interruptGloballyEnabled, globalEnable, PrivilegeMode.csrLevel]
  rw [hscan, Bool.and_eq_true, Bool.and_eq_true, hmode]
  constructor
  · rintro ⟨⟨hpending, henabled⟩, hlevel, hglobal⟩
    exact ⟨hpending, henabled, hlevel, hglobal⟩
  · rintro ⟨hpending, henabled, hlevel, hglobal⟩
    exact ⟨⟨hpending, henabled⟩, hlevel, hglobal⟩

theorem mem_interruptPriority (interrupt : Interrupt) : interrupt ∈ interruptPriority := by
  cases interrupt <;> decide

theorem takeable_of_pendingInterrupt {interrupt : Interrupt}
    (h : csrs.pendingInterrupt mode = some interrupt) : csrs.Takeable mode interrupt :=
  (csrs.takesInterrupt_iff mode interrupt).1 (List.find?_some h)

/-- The scan ends at the first interrupt that can be taken. -/
theorem priorityOf_le {interrupt other : Interrupt} (h : csrs.pendingInterrupt mode = some interrupt)
    (hother : csrs.Takeable mode other) : priorityOf interrupt ≤ priorityOf other := by
  obtain ⟨htaken, before, behind, horder, hbefore⟩ := List.find?_eq_some_iff_append.1 h
  have hskipped (i : Interrupt) (htakes : csrs.takesInterrupt mode i = true) : i ∉ before := by
    intro hmem
    have hnot := hbefore i hmem
    rw [htakes] at hnot
    cases hnot
  unfold priorityOf
  rw [horder, List.idxOf_append_of_notMem (hskipped interrupt htaken),
    List.idxOf_append_of_notMem (hskipped other ((csrs.takesInterrupt_iff mode other).2 hother)),
    List.idxOf_cons_self]
  omega

/-- An interrupt is returned exactly if one can be taken. -/
theorem pendingInterrupt_isSome :
    (csrs.pendingInterrupt mode).isSome = true ↔ ∃ interrupt, csrs.Takeable mode interrupt := by
  unfold pendingInterrupt
  rw [List.find?_isSome]
  constructor
  · rintro ⟨interrupt, -, htakes⟩
    exact ⟨interrupt, (csrs.takesInterrupt_iff mode interrupt).1 htakes⟩
  · rintro ⟨interrupt, htakeable⟩
    exact ⟨interrupt, mem_interruptPriority interrupt, (csrs.takesInterrupt_iff mode interrupt).2 htakeable⟩

/-! ## The entry -/

variable {csrs mode}

theorem interruptTarget_cases (interrupt : Interrupt) :
    csrs.interruptTarget interrupt = .machine ∨ csrs.interruptTarget interrupt = .supervisor := by
  unfold interruptTarget
  split
  · exact .inr rfl
  · exact .inl rfl

/-- The entry goes to the mode the interrupt is for. -/
theorem enterTrap_target {interrupt : Interrupt} (h : csrs.Takeable mode interrupt) (pc : U32) :
    (csrs.enterTrap (.interrupt interrupt) pc mode).1 = csrs.interruptTarget interrupt := by
  have habove := h.above
  unfold enterTrap delegatesTrapToSupervisor
  unfold interruptTarget at habove ⊢
  by_cases hdelegated : csrs.delegatesInterruptToSupervisor interrupt = true
  · rw [if_pos hdelegated] at habove ⊢
    cases mode with
    | machine => exact absurd habove (by decide)
    | user => rw [if_pos hdelegated]
    | supervisor => rw [if_pos hdelegated]
  · rw [if_neg hdelegated]
    cases mode with
    | machine => rfl
    | user => rw [if_neg hdelegated]
    | supervisor => rw [if_neg hdelegated]

/-- Entry changes neither what is pending nor what is enabled or delegated. -/
theorem enterTrap_lines (trap : Trap) (pc : U32) (mode : PrivilegeMode) :
    (csrs.enterTrap trap pc mode).2.2.machine.mip = csrs.machine.mip ∧
      (csrs.enterTrap trap pc mode).2.2.machine.mie = csrs.machine.mie ∧
      (csrs.enterTrap trap pc mode).2.2.machine.mideleg = csrs.machine.mideleg := by
  unfold enterTrap
  split <;> exact ⟨rfl, rfl, rfl⟩

/-- The mode that is entered has its interrupts disabled. -/
theorem globalEnable_enterTrap (trap : Trap) (pc : U32) (mode : PrivilegeMode) :
    (csrs.enterTrap trap pc mode).2.2.globalEnable (csrs.enterTrap trap pc mode).1 = false := by
  unfold enterTrap
  split
  · exact congrArg StatusFields.sie (csrs.status_enterSupervisorTrap trap pc mode)
  · exact congrArg StatusFields.mie (csrs.status_enterMachineTrap trap pc mode)

/-- Behind the entry, an interrupt can be taken if it is for a higher mode. -/
theorem takeable_enterTrap_iff (trap : Trap) (pc : U32) (other : Interrupt) :
    (csrs.enterTrap trap pc mode).2.2.Takeable (csrs.enterTrap trap pc mode).1 other ↔
      csrs.interruptIsPending other = true ∧ csrs.interruptIsEnabled other = true ∧
        (csrs.enterTrap trap pc mode).1.csrLevel < (csrs.interruptTarget other).csrLevel := by
  obtain ⟨hmip, hmie, hmideleg⟩ := csrs.enterTrap_lines trap pc mode
  have hdisabled := csrs.globalEnable_enterTrap trap pc mode
  generalize csrs.enterTrap trap pc mode = out at hmip hmie hmideleg hdisabled ⊢
  obtain ⟨target, _, entered⟩ := out
  dsimp only at hmip hmie hmideleg hdisabled ⊢
  have htarget : entered.interruptTarget other = csrs.interruptTarget other := by
    unfold interruptTarget delegatesInterruptToSupervisor
    rw [hmideleg]
  have hpending : entered.interruptIsPending other = csrs.interruptIsPending other := by
    unfold interruptIsPending
    rw [hmip]
  have henabled : entered.interruptIsEnabled other = csrs.interruptIsEnabled other := by
    unfold interruptIsEnabled
    rw [hmie]
  have hlevel (a b : PrivilegeMode) : a.csrLevel < b.csrLevel ↔ a.csrLevel ≤ b.csrLevel ∧ b ≠ a := by
    cases a <;> cases b <;> decide
  constructor
  · intro h
    refine ⟨hpending ▸ h.pending, henabled ▸ h.enabled, (hlevel _ _).2 ⟨htarget ▸ h.above, ?_⟩⟩
    intro hsame
    exact absurd (hdisabled.symm.trans (h.globally (htarget.trans hsame))) Bool.false_ne_true
  · rintro ⟨hp, he, habove⟩
    obtain ⟨hle, hne⟩ := (hlevel _ _).1 habove
    exact ⟨hpending.trans hp, henabled.trans he, htarget ▸ hle, fun hsame =>
      absurd (htarget ▸ hsame) hne⟩

/-! ## The choice -/

variable (csrs mode)

/-- The scan finds an interrupt if there is one. It is for the highest mode any of them is for, and the first
of those for this mode. The entry goes to this mode, and no other interrupt can be taken behind it. -/
structure Arbitrates : Prop where
  isSome : (csrs.pendingInterrupt mode).isSome = true ↔ ∃ interrupt, csrs.Takeable mode interrupt
  takeable : ∀ interrupt, csrs.pendingInterrupt mode = some interrupt → csrs.Takeable mode interrupt
  highest : ∀ interrupt, csrs.pendingInterrupt mode = some interrupt →
    ∀ other, csrs.Takeable mode other →
      (csrs.interruptTarget other).csrLevel ≤ (csrs.interruptTarget interrupt).csrLevel
  first : ∀ interrupt, csrs.pendingInterrupt mode = some interrupt →
    ∀ other, csrs.Takeable mode other →
      csrs.interruptTarget other = csrs.interruptTarget interrupt →
        priorityOf interrupt ≤ priorityOf other
  enters : ∀ interrupt pc, csrs.pendingInterrupt mode = some interrupt →
    (csrs.enterTrap (.interrupt interrupt) pc mode).1 = csrs.interruptTarget interrupt
  settled : ∀ interrupt pc, csrs.pendingInterrupt mode = some interrupt →
    (csrs.enterTrap (.interrupt interrupt) pc mode).2.2.pendingInterrupt
      (csrs.enterTrap (.interrupt interrupt) pc mode).1 = none

/-- If machine mode has an interrupt to take, then it has one that the scan reaches before every interrupt
delegated to supervisor mode. -/
def MachineFirst : Prop :=
  (∃ other, csrs.Takeable mode other ∧ csrs.interruptTarget other = .machine) →
    ∃ other, csrs.Takeable mode other ∧ csrs.interruptTarget other = .machine ∧
      ∀ interrupt, csrs.Takeable mode interrupt → csrs.interruptTarget interrupt = .supervisor →
        priorityOf other < priorityOf interrupt

variable {csrs mode}

/-- In such a state the scan returns a supervisor's interrupt only if machine mode has none. -/
theorem MachineFirst.not_machine (h : csrs.MachineFirst mode) {interrupt other : Interrupt}
    (hpending : csrs.pendingInterrupt mode = some interrupt)
    (htarget : csrs.interruptTarget interrupt = .supervisor) (hother : csrs.Takeable mode other) :
    csrs.interruptTarget other ≠ .machine := by
  intro hmachine
  obtain ⟨first, htakeable, -, hbefore⟩ := h ⟨other, hother, hmachine⟩
  have hlt := hbefore interrupt (csrs.takeable_of_pendingInterrupt mode hpending) htarget
  exact absurd hlt (Nat.not_lt.2 (csrs.priorityOf_le mode hpending htakeable))

/-- A machine interrupt is taken in every mode below. -/
theorem Takeable.of_lower {interrupt other : Interrupt} (h : csrs.Takeable mode interrupt)
    (htarget : csrs.interruptTarget interrupt = .supervisor)
    (hpending : csrs.interruptIsPending other = true) (henabled : csrs.interruptIsEnabled other = true)
    (hother : csrs.interruptTarget other = .machine) : csrs.Takeable mode other := by
  have hbelow := h.above
  rw [htarget] at hbelow
  refine ⟨hpending, henabled, ?_, fun hsame => ?_⟩
  · rw [hother]
    cases mode <;> decide
  · rw [hother] at hsame
    subst hsame
    exact absurd hbelow (by decide)

/-- **When the choice is right**: exactly in the states in which machine mode comes first. -/
theorem arbitrates_iff (csrs : CsrFile) (mode : PrivilegeMode) :
    csrs.Arbitrates mode ↔ csrs.MachineFirst mode := by
  constructor
  · rintro h ⟨other, hother, hmachine⟩
    obtain ⟨interrupt, hpending⟩ := Option.isSome_iff_exists.1 (h.isSome.2 ⟨other, hother⟩)
    have hhighest := h.highest interrupt hpending other hother
    have hfound : csrs.interruptTarget interrupt = .machine := by
      rcases csrs.interruptTarget_cases interrupt with htarget | htarget
      · exact htarget
      · rw [hmachine, htarget] at hhighest
        exact absurd hhighest (by decide)
    refine ⟨interrupt, h.takeable interrupt hpending, hfound, fun i hi htarget => ?_⟩
    refine lt_of_le_of_ne (csrs.priorityOf_le mode hpending hi) fun heq => ?_
    have hsame : interrupt = i := (List.idxOf_inj (mem_interruptPriority interrupt)).1 heq
    rw [hsame, htarget] at hfound
    cases hfound
  · intro h
    refine ⟨csrs.pendingInterrupt_isSome mode, fun _ => csrs.takeable_of_pendingInterrupt mode, ?_,
      fun _ hpending other hother _ => csrs.priorityOf_le mode hpending hother,
      fun _ pc hpending => enterTrap_target (csrs.takeable_of_pendingInterrupt mode hpending) pc, ?_⟩
    · intro interrupt hpending other hother
      rcases csrs.interruptTarget_cases interrupt with htarget | htarget
      · rw [htarget]
        cases csrs.interruptTarget other <;> decide
      · have hnot := h.not_machine hpending htarget hother
        rw [(csrs.interruptTarget_cases other).resolve_left hnot, htarget]
        decide
    · intro interrupt pc hpending
      have htakeable := csrs.takeable_of_pendingInterrupt mode hpending
      rw [← Option.not_isSome_iff_eq_none, pendingInterrupt_isSome]
      rintro ⟨other, hother⟩
      obtain ⟨hp, he, habove⟩ := (takeable_enterTrap_iff _ pc other).1 hother
      rw [enterTrap_target htakeable] at habove
      -- only an interrupt for machine mode is above, and then the supervisor's was taken first
      rcases csrs.interruptTarget_cases interrupt with htarget | htarget
      · rw [htarget] at habove
        cases hlevel : csrs.interruptTarget other <;> rw [hlevel] at habove <;>
          exact absurd habove (by decide)
      · rcases csrs.interruptTarget_cases other with hmachine | hlower
        · exact h.not_machine hpending htarget (htakeable.of_lower htarget hp he hmachine) hmachine
        · rw [htarget, hlower] at habove
          exact absurd habove (by decide)

/-- The external and the timer interrupt of supervisor mode are pending and enabled; the external one is
delegated. -/
def delegatedBeforeUndelegated : CsrFile where
  machine := { mip := mipSeip ||| mipStip, mie := mieSeie ||| mieStie, mideleg := mipSeip }

/-- **The delegated interrupt is taken before the one that machine mode keeps**, which is then taken at
the first instruction of the handler. -/
theorem delegated_interrupt_first :
    delegatedBeforeUndelegated.pendingInterrupt .user = some .supervisorExternal ∧
      delegatedBeforeUndelegated.interruptTarget .supervisorExternal = .supervisor ∧
      delegatedBeforeUndelegated.interruptTarget .supervisorTimer = .machine ∧
      delegatedBeforeUndelegated.takesInterrupt .user .supervisorTimer = true ∧
      (delegatedBeforeUndelegated.enterTrap (.interrupt .supervisorExternal) 0 .user).2.2.pendingInterrupt
        .supervisor = some .supervisorTimer ∧
      ¬ ∀ (csrs : CsrFile) mode, csrs.Arbitrates mode := by
  refine ⟨by decide, by decide, by decide, by decide, by decide, fun h => ?_⟩
  have hsettled := (h delegatedBeforeUndelegated .user).settled .supervisorExternal 0 (by decide)
  revert hsettled
  decide

end CsrFile

end RvSim
