import RvSim.Core.Isolation

/-!
# What supervisor mode reaches through `sie` and `sip`

`sie` and `sip` are views under masks that do not depend on `mideleg`. Below machine mode an interrupt of
machine mode is out of reach; an interrupt of supervisor mode is not, also if it is not delegated, and the
views are the only way to it.

## Main definitions

* `GuestEvent`: a step of code below machine mode, or a sampling of the interrupt lines
* `HartOnBus.WritesView`: supervisor code writes one of the views

## Main results

* `HartOnBus.kept_nextEvent`: what one event keeps
* `interrupts_kept`: what a run keeps, and two runs alike
-/

namespace RvSim

open Automata

/-- Software has set the pending bit of an interrupt. -/
def CsrFile.interruptIsSoftwarePending (csrs : CsrFile) (interrupt : Interrupt) : Bool :=
  (csrs.softwarePending &&& interruptPendingMask interrupt) != 0

/-! ## Writes -/

namespace CsrFile

variable {csrs : CsrFile} {mode : PrivilegeMode} {address : CsrAddress}

/-- Below machine mode the views are the only way to the enables and the software bits. -/
theorem interrupts_write (interrupt : Interrupt) (hmode : mode ≠ .machine)
    (hallowed : csrs.allowsCsrAccess mode address = true) (value : U32) :
    (interrupt.isSupervisor = false ∨ address ≠ .sie →
      (csrs.write address value).interruptIsEnabled interrupt = csrs.interruptIsEnabled interrupt) ∧
    (interrupt ≠ .supervisorSoftware ∨ address ≠ .sip →
      (csrs.write address value).interruptIsSoftwarePending interrupt =
        csrs.interruptIsSoftwarePending interrupt) := by
  have hlevel := minPrivilegeLevel_le_of_allowed hmode hallowed
  cases address with
  | sie =>
    refine ⟨fun h => ?_, fun _ => rfl⟩
    have hdisjoint : sieMask &&& interruptEnableMask interrupt = 0 := by
      rcases h with h | h
      · cases interrupt with
        | supervisorSoftware | supervisorTimer | supervisorExternal => cases h
        | _ => decide
      · exact absurd rfl h
    exact congrArg (· != 0) (merge_and_of_disjoint hdisjoint)
  | sip =>
    refine ⟨fun _ => rfl, fun h => ?_⟩
    have hdisjoint : sipWritableMask &&& interruptPendingMask interrupt = 0 := by
      rcases h with h | h
      · cases interrupt with
        | supervisorSoftware => exact absurd rfl h
        | _ => decide
      · exact absurd rfl h
    exact congrArg (· != 0) (merge_and_of_disjoint hdisjoint)
  | mie | mip => exact absurd hlevel (by decide)
  | _ => exact ⟨fun _ => rfl, fun _ => rfl⟩

/-- Only supervisor mode reaches a supervisor's CSR from below machine mode. -/
theorem supervisor_of_allowed (hmode : mode ≠ .machine) (hlevel : address.minPrivilegeLevel = 1)
    (hallowed : csrs.allowsCsrAccess mode address = true) : mode = .supervisor := by
  cases mode with
  | machine => exact absurd rfl hmode
  | supervisor => rfl
  | user =>
    unfold allowsCsrAccess at hallowed
    rw [hlevel, if_pos (by decide)] at hallowed
    cases hallowed

end CsrFile

/-! ## Events -/

section Events

variable {β : Type} [Bus β]

/-- An event while code below machine mode runs: one of its steps, or a sampling of the interrupt lines. -/
inductive GuestEvent
  | step (step : LowerStep)
  | lines (interrupts : InterruptSet)
  deriving DecidableEq

namespace HartOnBus

def nextEvent (hart : HartOnBus β) : GuestEvent → HartOnBus β
  | .step step => hart.next step
  | .lines interrupts => { hart with state.csrs := hart.state.csrs.syncInterrupts interrupts }

/-- The event does not end in machine mode. -/
def StaysBelowEvent (hart : HartOnBus β) (event : GuestEvent) : Prop :=
  (hart.nextEvent event).state.privilege ≠ .machine

instance (hart : HartOnBus β) (event : GuestEvent) : Decidable (hart.StaysBelowEvent event) :=
  inferInstanceAs (Decidable (_ ≠ _))

/-- What the CSR instruction of an event writes. -/
def csrWrite (hart : HartOnBus β) : GuestEvent → Option CsrWrite
  | .step (.execute decoded) =>
    (csrExecute decoded hart.state.csrs
      ((decoded.rs1.map hart.state.registers.read).getD 0)).bind CsrOutcome.write
  | _ => none

/-- Supervisor code writes the CSR. -/
def WritesView (address : CsrAddress) (hart : HartOnBus β) (event : GuestEvent) : Prop :=
  hart.state.privilege = .supervisor ∧ (hart.csrWrite event).any (·.address = address) = true

instance (address : CsrAddress) (hart : HartOnBus β) (event : GuestEvent) :
    Decidable (hart.WritesView address event) :=
  inferInstanceAs (Decidable (_ ∧ _))

/-- An interrupt keeps its enable and its software bit: an interrupt of supervisor mode its enable if `sie`
is not written, and the software interrupt of supervisor mode its bit if `sip` is not. -/
structure Kept (before after : CsrFile) (interrupt : Interrupt) (sieUnwritten sipUnwritten : Prop) :
    Prop where
  enabled : interrupt.isSupervisor = false ∨ sieUnwritten →
    after.interruptIsEnabled interrupt = before.interruptIsEnabled interrupt
  softwarePending : interrupt ≠ .supervisorSoftware ∨ sipUnwritten →
    after.interruptIsSoftwarePending interrupt = before.interruptIsSoftwarePending interrupt

variable {hart : HartOnBus β}

theorem Kept.of_eq {before after : CsrFile} {interrupt : Interrupt} {sie sip : Prop}
    (hmie : after.machine.mie = before.machine.mie)
    (hpending : after.softwarePending = before.softwarePending) :
    Kept before after interrupt sie sip :=
  ⟨fun _ => by rw [CsrFile.interruptIsEnabled, hmie, CsrFile.interruptIsEnabled],
    fun _ => by
      rw [CsrFile.interruptIsSoftwarePending, hpending, CsrFile.interruptIsSoftwarePending]⟩

/-- A trap that does not end in machine mode leaves enables and software bits. -/
theorem kept_applyTrap {state : HartState} {trap : Trap} {pc : U32} {interrupt : Interrupt} {sie sip : Prop} :
    Kept state.csrs (applyTrap state trap pc).1.csrs interrupt sie sip := by
  unfold applyTrap CsrFile.enterTrap
  cases state.csrs.delegatesTrapToSupervisor trap state.privilege <;> exact .of_eq rfl rfl

/-- **What one event keeps**: an interrupt of machine mode, and all but what the views show. -/
theorem kept_nextEvent (hbefore : hart.state.privilege ≠ .machine) (event : GuestEvent)
    (interrupt : Interrupt) :
    Kept hart.state.csrs (hart.nextEvent event).state.csrs interrupt (¬ hart.WritesView .sie event)
      (¬ hart.WritesView .sip event) := by
  cases event with
  | lines interrupts => exact .of_eq rfl rfl
  | step step =>
    cases step with
    | trap trap => exact kept_applyTrap
    | execute decoded =>
      show Kept _ (executeDecoded hart.state hart.walker hart.bus decoded).2.1.csrs _ _ _
      refine executeDecoded_cases (P := fun state' => Kept hart.state.csrs state'.csrs _ _ _)
        (fun _ _ hcsrs => .of_eq (by rw [hcsrs]) (by rw [hcsrs])) (fun _ _ => kept_applyTrap) ?_
        (fun hmode => absurd hmode hbefore) (fun _ => .of_eq rfl rfl) hart.walker hart.bus
      intro state' outcome write houtcome hwrite hallowed _ _ hcsrs
      have hkept := CsrFile.interrupts_write interrupt hbefore hallowed write.value
      have hview {address : CsrAddress} (hlevel : address.minPrivilegeLevel = 1)
          (hnot : ¬ hart.WritesView address (.step (.execute decoded))) : write.address ≠ address := by
        rintro rfl
        refine hnot ⟨CsrFile.supervisor_of_allowed hbefore hlevel hallowed, ?_⟩
        show ((csrExecute decoded _ _).bind CsrOutcome.write).any _ = true
        rw [houtcome, Option.bind_some, hwrite]
        exact decide_eq_true rfl
      rw [hcsrs]
      exact ⟨fun h => hkept.1 (h.imp_right (hview rfl)), fun h => hkept.2 (h.imp_right (hview rfl))⟩

/-- What a run keeps. -/
theorem kept_run (start : HartOnBus β) (hmode : start.state.privilege ≠ .machine) {events : List GuestEvent}
    (hbelow : Along nextEvent StaysBelowEvent start events) (interrupt : Interrupt) :
    Kept start.state.csrs (run nextEvent start events).state.csrs interrupt
      (Along nextEvent (fun hart event => ¬ hart.WritesView .sie event) start events)
      (Along nextEvent (fun hart event => ¬ hart.WritesView .sip event) start events) := by
  induction events generalizing start with
  | nil => exact .of_eq rfl rfl
  | cons event events ih =>
    have hstep := kept_nextEvent hmode event interrupt
    have hrest := ih (start.nextEvent event) hbelow.1 hbelow.2
    refine ⟨fun h => ?_, fun h => ?_⟩
    · exact (hrest.enabled (h.imp_right And.right)).trans (hstep.enabled (h.imp_right And.left))
    · exact (hrest.softwarePending (h.imp_right And.right)).trans
        (hstep.softwarePending (h.imp_right And.left))

end HartOnBus

/-- **What supervisor and user code cannot reach**: in a run that stays below machine mode an interrupt of
machine mode keeps its enable and its software bit, and an interrupt of supervisor mode, delegated or not,
loses neither but by a write of `sie` or `sip`; so two such runs leave them alike. -/
theorem interrupts_kept (start : HartOnBus β) (hmode : start.state.privilege ≠ .machine)
    (events others : List GuestEvent)
    (hevents : Along HartOnBus.nextEvent HartOnBus.StaysBelowEvent start events)
    (hothers : Along HartOnBus.nextEvent HartOnBus.StaysBelowEvent start others) (interrupt : Interrupt) :
    let unwritten address events :=
      Along HartOnBus.nextEvent (fun hart event => ¬ hart.WritesView address event) start events
    HartOnBus.Kept start.state.csrs (run HartOnBus.nextEvent start events).state.csrs interrupt
      (unwritten .sie events) (unwritten .sip events) ∧
    HartOnBus.Kept (run HartOnBus.nextEvent start others).state.csrs
      (run HartOnBus.nextEvent start events).state.csrs interrupt
      (unwritten .sie events ∧ unwritten .sie others) (unwritten .sip events ∧ unwritten .sip others) := by
  intro unwritten
  have hfirst := start.kept_run hmode hevents interrupt
  have hsecond := start.kept_run hmode hothers interrupt
  refine ⟨hfirst, fun h => ?_, fun h => ?_⟩
  · exact (hfirst.enabled (h.imp_right And.left)).trans (hsecond.enabled (h.imp_right And.right)).symm
  · exact (hfirst.softwarePending (h.imp_right And.left)).trans
      (hsecond.softwarePending (h.imp_right And.right)).symm

end Events

/-- A hart in supervisor mode with the supervisor's external interrupt enabled and no interrupt delegated. -/
def undelegated : HartOnBus TestBus where
  state := { HartState.new 0 with privilege := .supervisor, csrs := ({} : CsrFile).write .mie mieSeie }
  walker := .default
  bus := .ofWords []

/-- A write of `sip` leaves the enable of the external interrupt. -/
theorem interrupts_kept_undelegated :
    (run HartOnBus.nextEvent undelegated
        [.lines (.fromLine .machineSoftware),
          .step (.execute ⟨0, 0, .csr .readSetImmediate, none, some 2, none, 0, some .sip⟩)]).state.csrs
      |>.interruptIsEnabled .supervisorExternal := by
  have hkept := interrupts_kept undelegated (by decide)
    [.lines (.fromLine .machineSoftware),
      .step (.execute ⟨0, 0, .csr .readSetImmediate, none, some 2, none, 0, some .sip⟩)]
    [] (by decide +kernel) trivial .supervisorExternal
  exact (hkept.1.enabled (.inr (by decide +kernel))).trans (by decide)

/-- **The views reach interrupts that are not delegated**: one instruction clears the enable through `sie`,
another sets the software bit through `sip`. -/
theorem views_reach_undelegated :
    let masked := run HartOnBus.nextEvent undelegated
      [.step (.execute ⟨0, 0, .csr .readWriteImmediate, none, some 0, none, 0, some .sie⟩)]
    let raised := run HartOnBus.nextEvent undelegated
      [.step (.execute ⟨0, 0, .csr .readSetImmediate, none, some 2, none, 0, some .sip⟩)]
    undelegated.state.csrs.delegatesInterruptToSupervisor .supervisorExternal = false ∧
      undelegated.state.csrs.interruptIsEnabled .supervisorExternal = true ∧
      masked.state.privilege = .supervisor ∧
      masked.state.csrs.interruptIsEnabled .supervisorExternal = false ∧
      undelegated.state.csrs.delegatesInterruptToSupervisor .supervisorSoftware = false ∧
      undelegated.state.csrs.interruptIsSoftwarePending .supervisorSoftware = false ∧
      raised.state.privilege = .supervisor ∧
      raised.state.csrs.interruptIsSoftwarePending .supervisorSoftware = true := by
  decide +kernel

end RvSim
