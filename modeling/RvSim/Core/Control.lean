import RvSim.Core.Reference
import RvSim.Pipeline.Stages

/-!
# What decides about an exception

The mode of a hart and its CSRs decide whether EX raises an exception on an instruction, and where the trap
goes. The counters and the pending bits, which change in every cycle, have no part in it.

## Main definitions

* `CsrFile.steady`: a CSR file without the counters and the pending bits
* `Control`, `HartState.control`: the mode and the steady CSRs
* `Control.enterTrap`, `TrapEntry`: what a trap makes of them, and its vector

## Main results

* `ExStage.execute_steady`: EX raises the same exceptions with the steady CSRs
* `control_applyTrap`, `pc_applyTrap`: a trap is entered as its control has it
-/

namespace RvSim

/-- A CSR file without the counters and the pending bits of the lines. -/
def CsrFile.steady (csrs : CsrFile) : CsrFile :=
  { csrs with
    machine := { csrs.machine with mcycle := 0, time := 0, minstret := 0, mip := 0 }
    externalPending := 0 }

/-- What decides about the exceptions of a hart. -/
structure Control where
  privilege : PrivilegeMode
  csrs : CsrFile
  deriving DecidableEq

def HartState.control (state : HartState) : Control := ⟨state.privilege, state.csrs.steady⟩

/-- What a trap makes of the control, and where it goes. -/
def Control.enterTrap (control : Control) (trap : Trap) (pc : U32) : Control × U32 :=
  let out := control.csrs.enterTrap trap pc control.privilege
  (⟨out.1, out.2.2.steady⟩, out.2.1)

/-- A trap that is entered: its cause, what it makes of the control, and where the hart goes on. -/
structure TrapEntry where
  trap : Trap
  control : Control
  vector : U32
  deriving DecidableEq

namespace CsrFile

variable (csrs : CsrFile)

@[simp] theorem steady_incrementInstret (retired : U64) : (csrs.incrementInstret retired).steady = csrs.steady := rfl

@[simp] theorem steady_incrementCycle : csrs.incrementCycle.steady = csrs.steady := rfl

@[simp] theorem steady_incrementTime : csrs.incrementTime.steady = csrs.steady := rfl

@[simp] theorem steady_setTime (time : U64) : (csrs.setTime time).steady = csrs.steady := rfl

@[simp] theorem steady_syncInterrupts (lines : InterruptSet) :
    (csrs.syncInterrupts lines).steady = csrs.steady := rfl

/-- A trap is entered as in the steady file. -/
theorem enterTrap_steady (trap : Trap) (pc : U32) (mode : PrivilegeMode) :
    (csrs.enterTrap trap pc mode).1 = (csrs.steady.enterTrap trap pc mode).1 ∧
      (csrs.enterTrap trap pc mode).2.1 = (csrs.steady.enterTrap trap pc mode).2.1 ∧
      (csrs.enterTrap trap pc mode).2.2.steady = (csrs.steady.enterTrap trap pc mode).2.2.steady := by
  have hdelegates : csrs.steady.delegatesTrapToSupervisor trap mode =
      csrs.delegatesTrapToSupervisor trap mode := rfl
  unfold enterTrap
  rw [hdelegates]
  cases csrs.delegatesTrapToSupervisor trap mode with
  | true => exact ⟨rfl, rfl, rfl⟩
  | false => exact ⟨rfl, rfl, rfl⟩

end CsrFile

section Trap

variable (state : HartState) (trap : Trap) (pc : U32)

/-- The control behind a trap. -/
theorem control_applyTrap : (applyTrap state trap pc).1.control = (state.control.enterTrap trap pc).1 := by
  obtain ⟨hprivilege, -, hcsrs⟩ := state.csrs.enterTrap_steady trap pc state.privilege
  unfold applyTrap HartState.control Control.enterTrap
  rw [Control.mk.injEq]
  exact ⟨hprivilege, hcsrs⟩

/-- The vector of a trap. -/
theorem pc_applyTrap : (applyTrap state trap pc).1.pc = (state.control.enterTrap trap pc).2 :=
  (state.csrs.enterTrap_steady trap pc state.privilege).2.1

end Trap

/-- The start of a cycle leaves the control alone. -/
theorem control_beginCycle {β : Type} [Bus β] (state : HartState) (bus : β) :
    (beginCycle state bus).control = state.control := by
  unfold beginCycle HartState.control
  cases Bus.machineTime bus with
  | none => rfl
  | some time => rfl

/-- **EX raises the same exceptions with the steady CSRs.** -/
theorem ExStage.execute_steady (decoded : DecodedInstruction) (rs1Value rs2Value : U32)
    (privilege : PrivilegeMode) (csrs : CsrFile) (trap : Trap) :
    ExStage.execute decoded rs1Value rs2Value privilege csrs = .trap trap ↔
      ExStage.execute decoded rs1Value rs2Value privilege csrs.steady = .trap trap := by
  have hallows (address : CsrAddress) :
      csrs.steady.allowsCsrAccess privilege address = csrs.allowsCsrAccess privilege address := rfl
  have htvm : csrs.steady.tvmEnabled = csrs.tvmEnabled := rfl
  unfold ExStage.execute
  rcases hk : decoded.kind with _ | _ | _ | _ | kind | kind | kind | kind | kind | kind | kind
  case csr =>
    -- what is read goes into the value that is written, not into the decision to write
    have hwrite (op : CsrOp) (address : CsrAddress) (current current' source : U32) :
        (writeValue op address current source).isSome = (writeValue op address current' source).isSome := by
      unfold writeValue
      cases op <;> dsimp only <;> split <;> rfl
    obtain ⟨source, hsource⟩ : ∃ source, ∀ csrs : CsrFile, csrExecute decoded csrs rs1Value =
        decoded.csr.map fun address =>
          ⟨csrs.read address, writeValue kind address (csrs.read address) source⟩ := by
      unfold csrExecute
      rw [hk]
      rcases decoded.csr with _ | address
      · exact ⟨0, fun _ => rfl⟩
      · exact ⟨_, fun _ => rfl⟩
    dsimp only
    rw [hsource, hsource]
    rcases decoded.csr with _ | address
    · rfl
    · dsimp only [Option.map_some]
      rw [hallows, htvm, hwrite _ _ (csrs.steady.read address) (csrs.read address)]
      split
      · rfl
      · split
        · rfl
        · split
          · rfl
          · constructor <;> intro h <;> cases h
  case system =>
    cases kind with
    | ecall => rfl
    | ebreak => rfl
    | sfenceVma =>
      dsimp only
      rw [htvm]
    | wfi =>
      have htw : csrs.steady.twEnabled = csrs.twEnabled := rfl
      dsimp only
      rw [htw]
    | mret =>
      dsimp only
      split
      · rfl
      · constructor <;> intro h <;> cases h
    | sret =>
      have htsr : csrs.steady.tsrEnabled = csrs.tsrEnabled := rfl
      dsimp only
      rw [htsr]
      split
      · rfl
      · constructor <;> intro h <;> cases h
  all_goals constructor <;> intro h <;> cases h

end RvSim
