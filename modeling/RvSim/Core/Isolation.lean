import RvSim.Automata.Run
import RvSim.Exec.Decoded
import RvSim.State.StatusWord
import RvSim.System.TestBus

/-!
# The state that machine mode owns

Code below machine mode leaves the state of machine mode alone, as long as it stays below. The one step
that would change it, a trap that is not delegated, ends in machine mode.

## Main definitions

* `MachineOwned`: the registers, and the bits of shared registers, that only machine mode may change
* `StateChange`: what an instruction can do to the mode and the CSRs
* `LowerStep`: an instruction, or a trap that is taken between instructions

## Main results

* `executeDecoded_pc_cases`, `executeDecoded_cases`: the cases of an instruction
* `machineOwned_run`: a run that stays below machine mode leaves the state of machine mode
-/

namespace RvSim

open Automata

/-- What only machine mode may change. -/
@[ext] structure MachineOwned where
  mtvec : U32
  mepc : U32
  mcause : U32
  mtval : U32
  medeleg : U32
  mideleg : U32
  mcounteren : U32
  mcycle : U64
  minstret : U64
  time : U64
  mstatusOutsideSstatus : U32
  mieOutsideSie : U32
  msip : U32
  deriving DecidableEq

def CsrFile.machineOwned (csrs : CsrFile) : MachineOwned where
  mtvec := csrs.machine.mtvec
  mepc := csrs.machine.mepc
  mcause := csrs.machine.mcause
  mtval := csrs.machine.mtval
  medeleg := csrs.machine.medeleg
  mideleg := csrs.machine.mideleg
  mcounteren := csrs.machine.mcounteren
  mcycle := csrs.machine.mcycle
  minstret := csrs.machine.minstret
  time := csrs.machine.time
  mstatusOutsideSstatus := csrs.machine.mstatus &&& ~~~sstatusMask
  mieOutsideSie := csrs.machine.mie &&& ~~~sieMask
  msip := csrs.softwarePending &&& mipMsip

/-! ## CSR writes, delegated traps and returns -/

/-- A merge under a mask leaves what is outside. -/
theorem merge_and_not (value bits mask : U32) :
    (value &&& ~~~mask ||| bits &&& mask) &&& ~~~mask = value &&& ~~~mask := by
  ext i hi
  simp only [BitVec.getElem_or, BitVec.getElem_and, BitVec.getElem_not]
  cases value[i] <;> cases bits[i] <;> cases mask[i] <;> rfl

/-- A CSR that may be accessed below machine mode is not one of machine mode. -/
theorem CsrFile.minPrivilegeLevel_le_of_allowed {csrs : CsrFile} {mode : PrivilegeMode}
    {address : CsrAddress} (hmode : mode ≠ .machine)
    (hallowed : csrs.allowsCsrAccess mode address = true) : address.minPrivilegeLevel ≤ 1 := by
  have hallows : ¬ mode.csrLevel < address.minPrivilegeLevel := by
    intro hlow
    unfold CsrFile.allowsCsrAccess at hallowed
    rw [if_pos hlow] at hallowed
    cases hallowed
  refine BitVec.le_trans (BitVec.not_lt.1 hallows) ?_
  cases mode with
  | machine => exact absurd rfl hmode
  | _ => decide

/-- A CSR that may be written below machine mode shows none of its state. -/
theorem CsrFile.machineOwned_write (csrs : CsrFile) {mode : PrivilegeMode} {address : CsrAddress}
    (hmode : mode ≠ .machine) (hallowed : csrs.allowsCsrAccess mode address = true)
    (hwritable : address.isReadOnly = false) (value : U32) :
    (csrs.write address value).machineOwned = csrs.machineOwned := by
  have hlevel := minPrivilegeLevel_le_of_allowed hmode hallowed
  cases address with
  | sstatus =>
    have hmerge := merge_and_not csrs.machine.mstatus value sstatusMask
    exact congrArg (fun word => { csrs.machineOwned with mstatusOutsideSstatus := word }) hmerge
  | sie =>
    have hmerge := merge_and_not csrs.machine.mie value sieMask
    exact congrArg (fun word => { csrs.machineOwned with mieOutsideSie := word }) hmerge
  | sip =>
    have hmerge : (csrs.softwarePending &&& ~~~sipWritableMask ||| value &&& sipWritableMask) &&& mipMsip =
        csrs.softwarePending &&& mipMsip := merge_and_of_disjoint (by decide)
    exact congrArg (fun word => { csrs.machineOwned with msip := word }) hmerge
  | stvec | scounteren | satp | sepc | scause | stval => rfl
  | cycle | time | instret | cycleh | timeh | instreth => cases hwritable
  | mstatus | medeleg | mideleg | mie | mtvec | mcounteren | mcycle | minstret | mcycleh | minstreth
    | mepc | mcause | mtval | mip =>
    exact absurd hlevel (by decide)

/-- A delegated trap changes the supervisor's part of the status word only. -/
theorem CsrFile.machineOwned_enterSupervisorTrap (csrs : CsrFile) (trap : Trap) (pc : U32)
    (mode : PrivilegeMode) : (csrs.enterSupervisorTrap trap pc mode).2.machineOwned = csrs.machineOwned := by
  have hstatus : (csrs.enterSupervisorTrap trap pc mode).2.machine.mstatus &&& ~~~sstatusMask =
      csrs.machine.mstatus &&& ~~~sstatusMask := by
    simp only [CsrFile.enterSupervisorTrap]
    rw [setFlag_and_of_disjoint (by decide), clear_and_of_disjoint (by decide),
      setFlag_and_of_disjoint (by decide)]
  exact congrArg (fun word => { csrs.machineOwned with mstatusOutsideSstatus := word }) hstatus

theorem CsrFile.machineOwned_returnFromSupervisorTrap (csrs : CsrFile) :
    csrs.returnFromSupervisorTrap.2.2.machineOwned = csrs.machineOwned := by
  have hstatus : csrs.returnFromSupervisorTrap.2.2.machine.mstatus &&& ~~~sstatusMask =
      csrs.machine.mstatus &&& ~~~sstatusMask := by
    simp only [CsrFile.returnFromSupervisorTrap]
    rw [clear_and_of_disjoint (by decide), or_and_of_disjoint (by decide),
      setFlag_and_of_disjoint (by decide)]
  exact congrArg (fun word => { csrs.machineOwned with mstatusOutsideSstatus := word }) hstatus

/-- A trap that does not end in machine mode is delegated. -/
theorem machineOwned_applyTrap {state : HartState} {trap : Trap} {pc : U32}
    (hafter : (applyTrap state trap pc).1.privilege ≠ .machine) :
    (applyTrap state trap pc).1.csrs.machineOwned = state.csrs.machineOwned := by
  unfold applyTrap CsrFile.enterTrap at hafter ⊢
  cases hdelegated : state.csrs.delegatesTrapToSupervisor trap state.privilege with
  | false =>
    rw [hdelegated] at hafter
    exact absurd rfl hafter
  | true => exact state.csrs.machineOwned_enterSupervisorTrap trap pc state.privilege

/-! ## The cases of an instruction -/

/-- What an instruction can do to the mode and the CSRs. -/
inductive StateChange (state : HartState) : HartState → Prop
  | plain {state'} (hprivilege : state'.privilege = state.privilege) (hcsrs : state'.csrs = state.csrs) :
    StateChange state state'
  | trap (trap : Trap) (pc : U32) : StateChange state (applyTrap state trap pc).1
  | write {state'} (address : CsrAddress) (value : U32)
    (hallowed : state.csrs.allowsCsrAccess state.privilege address = true)
    (hwritable : address.isReadOnly = false) (hprivilege : state'.privilege = state.privilege)
    (hcsrs : state'.csrs = state.csrs.write address value) : StateChange state state'
  | mret (hmode : state.privilege = .machine) : StateChange state (returnFromTrap state .mret).1
  | sret (hmode : state.privilege = .supervisor) : StateChange state (returnFromTrap state .sret).1

/-- A CSR instruction writes the CSR it names. -/
theorem csrExecute_address {decoded : DecodedInstruction} {csrs : CsrFile} {rs1Value : U32}
    {csr : CsrAddress} {outcome : CsrOutcome} {write : CsrWrite} (hcsr : decoded.csr = some csr)
    (houtcome : csrExecute decoded csrs rs1Value = some outcome) (hwrite : outcome.write = some write) :
    write.address = csr := by
  unfold csrExecute at houtcome
  split at houtcome
  · rename_i op address hkind haddress
    cases houtcome
    rw [hcsr] at haddress
    cases haddress
    dsimp only at hwrite
    unfold writeValue at hwrite
    cases op
    case readWrite | readWriteImmediate =>
      cases hwrite
      rfl
    all_goals
      dsimp only at hwrite
      split at hwrite
      · cases hwrite
      · cases hwrite
        rfl
  · cases houtcome

section Execute

variable {β : Type}

variable [Bus β]

/-- **The cases of an instruction, with the pc**: it leaves mode and CSRs and goes on behind itself, at its
target or, to be repeated, where it is; it traps; it writes a CSR it may write; or it returns from a trap of
its mode. -/
theorem executeDecoded_pc_cases {P : HartState → Prop} {state : HartState} {decoded : DecodedInstruction}
    (plain : ∀ state', state'.privilege = state.privilege → state'.csrs = state.csrs →
      state'.pc = state.pc ∨ state'.pc = decoded.pc + 4 ∨
        decoded.jumpTarget (state.operand decoded.rs1) (state.operand decoded.rs2) = some state'.pc →
      P state')
    (trap : ∀ trap, P (applyTrap state trap decoded.pc).1)
    (write : ∀ state' outcome write,
      csrExecute decoded state.csrs (state.operand decoded.rs1) = some outcome →
      outcome.write = some write → state.csrs.allowsCsrAccess state.privilege write.address = true →
      write.address.isReadOnly = false → state'.privilege = state.privilege →
      state'.csrs = state.csrs.write write.address write.value → state'.pc = decoded.pc + 4 → P state')
    (mret : state.privilege = .machine → P (returnFromTrap state .mret).1)
    (sret : state.privilege = .supervisor → P (returnFromTrap state .sret).1)
    (walker : PageWalker) (bus : β) : P (executeDecoded state walker bus decoded).2.1 := by
  have hstay : P state := plain _ rfl rfl (.inl rfl)
  have hnext : P { state with pc := decoded.pc + 4 } := plain _ rfl rfl (.inr (.inl rfl))
  have hwriteRd (rd : Option RegIndex) (value : U32) :
      P { writeRd state rd value with pc := decoded.pc + 4 } :=
    plain _ (writeRd_privilege rd value) (writeRd_csrs rd value) (.inr (.inl rfl))
  -- an access that fails is retried, traps, or ends the run; only the trap changes the state
  have hfailed (walker : PageWalker) (bus : β) (error : BusError) (address : U32)
      (access : MemoryAccess) :
      P (failedAccess state walker bus error address access decoded.pc).2.1 := by
    unfold failedAccess
    split
    · exact hstay
    · split
      · exact trap _
      · exact hstay
  simp only [executeDecoded]
  split
  -- LUI, AUIPC and the arithmetic ones
  case h_1 | h_2 | h_8 | h_9 => exact hwriteRd _ _
  -- jumps
  case h_3 hkind | h_4 hkind =>
    refine plain _ (writeRd_privilege _ _) (writeRd_csrs _ _) (.inr (.inr ?_))
    simp only [DecodedInstruction.jumpTarget, hkind]
    rfl
  case h_5 hkind =>
    split
    · next htaken =>
      refine plain _ rfl rfl (.inr (.inr ?_))
      simp only [DecodedInstruction.jumpTarget, hkind]
      exact if_pos htaken
    · exact hnext
  -- loads and stores: the access is made, suspended, faults, or fails in the translation
  case h_6 =>
    split
    · split
      · exact hwriteRd _ _
      · exact hfailed _ _ _ _ _
    · exact hstay
    · exact trap _
    · exact hstay
  case h_7 =>
    split
    · split
      · exact hnext
      · exact hfailed _ _ _ _ _
    · exact hstay
    · exact trap _
    · exact hstay
  -- CSR instructions: the checks, and then the write
  case h_10 =>
    split
    · rename_i csr outcome hcsr houtcome
      split
      · exact trap _
      · rename_i hallowed
        split
        · exact trap _
        · split
          · exact trap _
          · rename_i hwritable
            cases hwrite : outcome.write with
            | none => exact plain _ (writeRd_privilege _ _) (writeRd_csrs _ _) (.inr (.inl rfl))
            | some csrWrite =>
              have haddress : csrWrite.address = csr := csrExecute_address hcsr houtcome hwrite
              refine write _ outcome csrWrite houtcome hwrite ?_ ?_ (writeRd_privilege _ _) ?_ rfl
              · rw [haddress]
                simpa using hallowed
              · rw [haddress]
                simpa [hwrite] using hwritable
              · exact congrArg (CsrFile.write · csrWrite.address csrWrite.value) (writeRd_csrs _ _)
    · exact trap _
  case h_11 | h_12 => exact trap _
  case h_13 =>
    split
    · exact trap _
    · exact hnext
  case h_14 =>
    split
    · exact trap _
    · exact plain _ rfl rfl (.inr (.inl rfl))
  -- the returns, each in its own mode
  case h_15 =>
    split
    · exact trap _
    · rename_i hmode
      exact mret (not_not.1 hmode)
  case h_16 =>
    split
    · exact trap _
    · rename_i hmode
      exact sret (not_not.1 fun hne => hmode (.inl hne))

/-- **The cases of an instruction**: it leaves mode and CSRs, traps, writes a CSR it may write, or returns
from a trap of its mode. -/
theorem executeDecoded_cases {P : HartState → Prop} {state : HartState} {decoded : DecodedInstruction}
    (plain : ∀ state', state'.privilege = state.privilege → state'.csrs = state.csrs → P state')
    (trap : ∀ trap pc, P (applyTrap state trap pc).1)
    (write : ∀ state' outcome write,
      csrExecute decoded state.csrs ((decoded.rs1.map state.registers.read).getD 0) = some outcome →
      outcome.write = some write → state.csrs.allowsCsrAccess state.privilege write.address = true →
      write.address.isReadOnly = false → state'.privilege = state.privilege →
      state'.csrs = state.csrs.write write.address write.value → P state')
    (mret : state.privilege = .machine → P (returnFromTrap state .mret).1)
    (sret : state.privilege = .supervisor → P (returnFromTrap state .sret).1)
    (walker : PageWalker) (bus : β) : P (executeDecoded state walker bus decoded).2.1 :=
  executeDecoded_pc_cases (fun state' hprivilege hcsrs _ => plain state' hprivilege hcsrs)
    (fun cause => trap cause decoded.pc)
    (fun state' outcome csrWrite houtcome hwrite hallowed hwritable hprivilege hcsrs _ =>
      write state' outcome csrWrite houtcome hwrite hallowed hwritable hprivilege hcsrs)
    mret sret walker bus

theorem stateChange_executeDecoded (state : HartState) (walker : PageWalker) (bus : β)
    (decoded : DecodedInstruction) :
    StateChange state (executeDecoded state walker bus decoded).2.1 :=
  executeDecoded_cases (fun _ hprivilege hcsrs => .plain hprivilege hcsrs) (fun trap pc => .trap trap pc)
    (fun _ _ write _ _ hallowed hwritable hprivilege hcsrs =>
      .write write.address write.value hallowed hwritable hprivilege hcsrs)
    .mret .sret walker bus

/-- What an instruction does, if it does not end in machine mode. -/
theorem StateChange.machineOwned {state state' : HartState} (h : StateChange state state')
    (hbefore : state.privilege ≠ .machine) (hafter : state'.privilege ≠ .machine) :
    state'.csrs.machineOwned = state.csrs.machineOwned := by
  cases h with
  | plain hprivilege hcsrs => rw [hcsrs]
  | trap trap pc => exact machineOwned_applyTrap hafter
  | write address value hallowed hwritable hprivilege hcsrs =>
    rw [hcsrs]
    exact state.csrs.machineOwned_write hbefore hallowed hwritable value
  | mret hmode => exact absurd hmode hbefore
  | sret hmode => exact state.csrs.machineOwned_returnFromSupervisorTrap

/-! ## Runs -/

/-- A step of code below machine mode: an instruction, or a trap that is taken between two. -/
inductive LowerStep
  | execute (decoded : DecodedInstruction)
  | trap (trap : Trap)
  deriving DecidableEq

/-- The hart with its page walker and its bus. -/
structure HartOnBus (β : Type) where
  state : HartState
  walker : PageWalker
  bus : β

namespace HartOnBus

def next (hart : HartOnBus β) : LowerStep → HartOnBus β
  | .execute decoded =>
    let (_, state, walker, bus) := executeDecoded hart.state hart.walker hart.bus decoded
    { state, walker, bus }
  | .trap trap => { hart with state := (applyTrap hart.state trap hart.state.pc).1 }

/-- The step does not end in machine mode. -/
def StaysBelow (hart : HartOnBus β) (step : LowerStep) : Prop :=
  (hart.next step).state.privilege ≠ .machine

instance (hart : HartOnBus β) (step : LowerStep) : Decidable (hart.StaysBelow step) :=
  inferInstanceAs (Decidable (_ ≠ _))

theorem stateChange_next (hart : HartOnBus β) (step : LowerStep) :
    StateChange hart.state (hart.next step).state := by
  cases step with
  | execute decoded => exact stateChange_executeDecoded hart.state hart.walker hart.bus decoded
  | trap trap => exact .trap trap _

end HartOnBus

/-- **A run that stays below machine mode leaves the state of machine mode**: any instructions, with the
traps and returns that supervisor mode handles. -/
theorem machineOwned_run (start : HartOnBus β) (hmode : start.state.privilege ≠ .machine)
    (steps : List LowerStep) (h : Along HartOnBus.next HartOnBus.StaysBelow start steps) :
    (run HartOnBus.next start steps).state.csrs.machineOwned = start.state.csrs.machineOwned := by
  have hinvariant : (run HartOnBus.next start steps).state.privilege ≠ .machine ∧
      (run HartOnBus.next start steps).state.csrs.machineOwned = start.state.csrs.machineOwned := by
    refine Along.run_invariant (I := fun hart : HartOnBus β => hart.state.privilege ≠ .machine ∧
      hart.state.csrs.machineOwned = start.state.csrs.machineOwned) ⟨hmode, rfl⟩ ?_ h
    rintro hart step ⟨hbefore, howned⟩ hafter
    exact ⟨hafter, ((hart.stateChange_next step).machineOwned hbefore hafter).trans howned⟩
  exact hinvariant.2

end Execute

/-- A supervisor handler that sets its status register and returns to user mode, which traps again. -/
theorem machineOwned_run_sret :
    let start : HartOnBus TestBus :=
      { state := { HartState.new 0 with
          privilege := .supervisor, csrs := ({} : CsrFile).write .medeleg 0x100 }
        walker := .default
        bus := .ofWords [] }
    (run HartOnBus.next start
      [.execute ⟨0, 0, .csr .readSetImmediate, none, some 2, none, 0, some .sstatus⟩,
        .execute ⟨0, 4, .system .sret, none, none, none, 0, none⟩,
        .execute ⟨0, 0, .system .ecall, none, none, none, 0, none⟩]).state.csrs.machineOwned =
      start.state.csrs.machineOwned := by
  intro start
  refine machineOwned_run start (by decide) _ ?_
  decide +kernel

end RvSim
