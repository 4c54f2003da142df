import RvSim.Isa.Decode
import RvSim.Mmu

/-!
# Execution helpers

The ALU, branches, effective addresses and the deferred CSR write, shared by the two cores, with
trap entry and return on the hart state.

## Main definitions

* `executeAlu`, `branchTaken`, `branchTarget`, `effectiveAddress`
* `CsrWrite`, `CsrOutcome`, `csrExecute`: one CSR instruction against the committed CSR file
* `applyTrap`, `returnFromTrap`: trap entry and return
* `mapBusErrorToTrap`: the exception a failed access raises
-/

namespace RvSim

/-! ## ALU, branches and addresses -/

/-- Execute one RV32I ALU operation. -/
def executeAlu (op : AluOp) (lhs rhs : U32) : U32 :=
  match op with
  | .add => lhs + rhs
  | .sub => lhs - rhs
  | .and => lhs &&& rhs
  | .or => lhs ||| rhs
  | .xor => lhs ^^^ rhs
  | .sll => lhs <<< (rhs &&& 0x1f)
  | .slt => if lhs.slt rhs then 1 else 0
  | .sltu => if lhs.ult rhs then 1 else 0
  | .srl => lhs >>> (rhs &&& 0x1f)
  | .sra => lhs.sshiftRight' (rhs &&& 0x1f)

/-- Return whether a conditional branch should be taken. -/
def branchTaken (kind : BranchKind) (lhs rhs : U32) : Bool :=
  match kind with
  | .beq => lhs == rhs
  | .bne => lhs != rhs
  | .blt => lhs.slt rhs
  | .bge => rhs.sle lhs
  | .bltu => lhs.ult rhs
  | .bgeu => rhs.ule lhs

/-- Compute the branch destination relative to the current program counter. -/
def branchTarget (pc imm : U32) : U32 := pc + imm

/-- Compute an effective address from a base register and signed offset. -/
def effectiveAddress (base offset : U32) : U32 := base + offset

/-- Sign-extend an 8-bit load into a 32-bit register result. -/
def signExtendByte (value : U8) : U32 := value.signExtend 32

/-- Sign-extend a 16-bit load into a 32-bit register result. -/
def signExtendHalf (value : U16) : U32 := value.signExtend 32

/-! ## CSR instructions -/

/-- A deferred CSR side effect that should be applied at commit. -/
structure CsrWrite where
  address : CsrAddress
  value : U32
  deriving DecidableEq, Repr

/-- Read result plus optional write for one CSR instruction. -/
structure CsrOutcome where
  readValue : U32
  write : Option CsrWrite
  deriving DecidableEq, Repr

def writeValue (op : CsrOp) (address : CsrAddress) (currentValue source : U32) : Option CsrWrite :=
  match op with
  | .readWrite | .readWriteImmediate => some ⟨address, source⟩
  | .readSet | .readSetImmediate =>
    if source = 0 then none else some ⟨address, currentValue ||| source⟩
  | .readClear | .readClearImmediate =>
    if source = 0 then none else some ⟨address, currentValue &&& ~~~source⟩

/-- Evaluate one CSR instruction using the committed CSR file. -/
def csrExecute (decoded : DecodedInstruction) (csrs : CsrFile) (rs1Value : U32) :
    Option CsrOutcome :=
  match decoded.kind, decoded.csr with
  | .csr op, some address =>
    let currentValue := csrs.read address
    let source := match op with
      | .readWriteImmediate | .readSetImmediate | .readClearImmediate =>
        (decoded.rs1.getD 0).setWidth 32
      | .readWrite | .readSet | .readClear => rs1Value
    some ⟨currentValue, writeValue op address currentValue source⟩
  | _, _ => none

/-! ## Traps -/

/-- Minimal post-execution status shared across the core implementations. -/
structure ExecutionResult where
  retired : U64 := 0
  trap : Option Trap := none
  memoryAccess : Bool := false
  deriving DecidableEq, Repr

/-- Fatal CPU errors that should stop the simulation. -/
inductive CpuError
  | bus (error : BusError)
  | decode (error : DecodeError)
  deriving DecidableEq, Repr

/-- Apply a trap to machine CSRs and redirect the hart to `mtvec`. -/
def applyTrap (state : HartState) (trap : Trap) (currentPc : U32) : HartState × ExecutionResult :=
  let (privilege, trapVector, csrs) := state.csrs.enterTrap trap currentPc state.privilege
  ({ state with csrs, privilege, pc := trapVector, halted := false }, { trap := some trap })

/-- Return from the current trap context using the privilege-specific epc CSR. -/
def returnFromTrap (state : HartState) (kind : SystemKind) : HartState × ExecutionResult :=
  let (privilege, nextPc, csrs) := match kind with
    | .mret => state.csrs.returnFromMachineTrap
    | .sret => state.csrs.returnFromSupervisorTrap
    -- `unreachable!`: only xret instructions may return from traps
    | _ => (state.privilege, state.pc, state.csrs)
  ({ state with csrs, privilege, pc := nextPc, halted := false }, { retired := 1 })

def ecallException : PrivilegeMode → Exception
  | .user => .environmentCallFromUMode
  | .supervisor => .environmentCallFromSMode
  | .machine => .environmentCallFromMMode

def mapBusErrorToTrap (error : BusError) (address : U32) (access : MemoryAccess) : Option Trap :=
  match error with
  | .busy _ => none
  | .misalignedAccess _ _ => some (.exception (match access with
    | .instruction => .instructionAddressMisaligned address
    | .load => .loadAddressMisaligned address
    | .store => .storeAddressMisaligned address))
  | .unmappedAddress _ | .readOnlyAddress _ | .deviceFault _ _ =>
    some (.exception (match access with
    | .instruction => .instructionAccessFault address
    | .load => .loadAccessFault address
    | .store => .storeAccessFault address))

/-- Every failed access but a busy one raises an exception. -/
theorem mapBusErrorToTrap_isSome {error : BusError} (h : error.isBusy = false) (address : U32)
    (access : MemoryAccess) : ∃ trap, mapBusErrorToTrap error address access = some trap := by
  cases error with
  | busy => simp [BusError.isBusy] at h
  | _ => exact ⟨_, rfl⟩

/-! ## Data accesses -/

section DataAccess

variable {β : Type} [Bus β]

/-- Apply a pure function to the value of an access. -/
def mapValue {α γ : Type} (f : α → γ) (result : Except BusError α × β) : Except BusError γ × β :=
  (result.1.map f, result.2)

def loadValue (bus : β) (kind : LoadKind) (address : U64) : Except BusError U32 × β :=
  match kind with
  | .byte => mapValue signExtendByte (Bus.load8 bus address)
  | .half => mapValue signExtendHalf (Bus.load16 bus address)
  | .word => Bus.load32 bus address
  | .byteUnsigned => mapValue (·.setWidth 32) (Bus.load8 bus address)
  | .halfUnsigned => mapValue (·.setWidth 32) (Bus.load16 bus address)

def storeValue (bus : β) (kind : StoreKind) (address : U64) (value : U32) :
    Except BusError Unit × β :=
  match kind with
  | .byte => Bus.store8 bus address (value.setWidth 8)
  | .half => Bus.store16 bus address (value.setWidth 16)
  | .word => Bus.store32 bus address value

end DataAccess

end RvSim
