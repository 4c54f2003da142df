import Mathlib.Data.BitVec

/-!
# Instructions, CSR addresses and traps

The vocabulary the two cores share: decoded instructions, the modeled control and status
registers, and the exceptions and interrupts. Machine words are bit vectors of the source's own
widths; a signed `i32` immediate is its two's complement word.

## Main definitions

* `InstructionKind`, `DecodedInstruction`: a decoded instruction and its fields
* `CsrAddress`: the modeled CSRs, `CsrAddress.toU16` and `CsrAddress.tryFrom` their numbers
* `Exception`, `Interrupt`, `Trap`: trap causes, with `causeCode`, `causeBits` and `tval`
-/

namespace RvSim

abbrev U8 := BitVec 8
abbrev U16 := BitVec 16
abbrev U32 := BitVec 32
abbrev U64 := BitVec 64

/-- A register number: the source masks it to five bits wherever it builds one. -/
abbrev RegIndex := BitVec 5

/-! ## Opcodes -/

/-- Integer ALU operations for RV32I. -/
inductive AluOp
  | add | sub | and | or | xor | sll | slt | sltu | srl | sra
  deriving DecidableEq, Repr

/-- Branch conditions supported by RV32I. -/
inductive BranchKind
  | beq | bne | blt | bge | bltu | bgeu
  deriving DecidableEq, Repr

/-- Load widths supported by RV32I. -/
inductive LoadKind
  | byte | half | word | byteUnsigned | halfUnsigned
  deriving DecidableEq, Repr

/-- Store widths supported by RV32I. -/
inductive StoreKind
  | byte | half | word
  deriving DecidableEq, Repr

/-- CSR read/modify/write operations supported by the base privileged ISA. -/
inductive CsrOp
  | readWrite | readSet | readClear | readWriteImmediate | readSetImmediate | readClearImmediate
  deriving DecidableEq, Repr

/-- System instructions used in the initial CPU model. -/
inductive SystemKind
  | ecall | ebreak | sfenceVma | wfi | mret | sret
  deriving DecidableEq, Repr

/-- High-level decoded instruction kind. -/
inductive InstructionKind
  | lui
  | auipc
  | jal
  | jalr
  | branch (kind : BranchKind)
  | load (kind : LoadKind)
  | store (kind : StoreKind)
  | opImm (op : AluOp)
  | op (op : AluOp)
  | csr (op : CsrOp)
  | system (kind : SystemKind)
  deriving DecidableEq, Repr

/-- A return from a trap handler. -/
def InstructionKind.isXret : InstructionKind → Bool
  | .system .mret | .system .sret => true
  | _ => false

/-- A Zicsr instruction. -/
def InstructionKind.isCsr : InstructionKind → Bool
  | .csr _ => true
  | _ => false

/-! ## Control and status registers -/

/-- Control/status register addresses modeled by the current computer. -/
inductive CsrAddress
  | sstatus | sie | stvec | scounteren | satp
  | mstatus | medeleg | mideleg | mie | mtvec | mcounteren
  | mcycle | minstret | mcycleh | minstreth
  | cycle | time | instret | cycleh | timeh | instreth
  | sepc | scause | stval | sip
  | mepc | mcause | mtval | mip
  deriving DecidableEq, Repr

namespace CsrAddress

/-- The discriminant `self as u16`. -/
def toU16 : CsrAddress → U16
  | sstatus => 0x100 | sie => 0x104 | stvec => 0x105 | scounteren => 0x106 | satp => 0x180
  | mstatus => 0x300 | medeleg => 0x302 | mideleg => 0x303 | mie => 0x304 | mtvec => 0x305
  | mcounteren => 0x306 | mcycle => 0xb00 | minstret => 0xb02 | mcycleh => 0xb80
  | minstreth => 0xb82 | cycle => 0xc00 | time => 0xc01 | instret => 0xc02 | cycleh => 0xc80
  | timeh => 0xc81 | instreth => 0xc82 | sepc => 0x141 | scause => 0x142 | stval => 0x143
  | sip => 0x144 | mepc => 0x341 | mcause => 0x342 | mtval => 0x343 | mip => 0x344

/-- `TryFrom<u16>`: the modeled CSR with this number, if there is one. -/
def tryFrom (value : U16) : Option CsrAddress :=
  match value.toNat with
  | 0x100 => some sstatus | 0x104 => some sie | 0x105 => some stvec | 0x106 => some scounteren
  | 0x180 => some satp | 0x300 => some mstatus | 0x302 => some medeleg | 0x303 => some mideleg
  | 0x304 => some mie | 0x305 => some mtvec | 0x306 => some mcounteren | 0xb00 => some mcycle
  | 0xb02 => some minstret | 0xb80 => some mcycleh | 0xb82 => some minstreth
  | 0xc00 => some cycle | 0xc01 => some time | 0xc02 => some instret | 0xc80 => some cycleh
  | 0xc81 => some timeh | 0xc82 => some instreth | 0x141 => some sepc | 0x142 => some scause
  | 0x143 => some stval | 0x144 => some sip | 0x341 => some mepc | 0x342 => some mcause
  | 0x343 => some mtval | 0x344 => some mip
  | _ => none

/-- A modeled CSR is found again from its number. -/
theorem tryFrom_toU16 (address : CsrAddress) : tryFrom address.toU16 = some address := by
  cases address <;> rfl

def minPrivilegeLevel (address : CsrAddress) : U8 :=
  ((address.toU16 >>> 8) &&& 0b11).setWidth 8

def isReadOnly (address : CsrAddress) : Bool :=
  ((address.toU16 >>> 10) &&& 0b11) == 0b11

def counterenMask : CsrAddress → Option U32
  | cycle | cycleh => some (1 <<< 0)
  | time | timeh => some (1 <<< 1)
  | instret | instreth => some (1 <<< 2)
  | _ => none

end CsrAddress

/-! ## Decoded instructions -/

/-- A decoded RV32I instruction plus the fields needed by microarchitecture models. -/
structure DecodedInstruction where
  raw : U32
  pc : U32
  kind : InstructionKind
  rd : Option RegIndex
  rs1 : Option RegIndex
  rs2 : Option RegIndex
  imm : U32
  csr : Option CsrAddress
  deriving DecidableEq, Repr

/-! ## Traps -/

/-- Interrupt causes modeled by the current privileged CPU slice. -/
inductive Interrupt
  | supervisorSoftware | machineSoftware | supervisorTimer | machineTimer
  | supervisorExternal | machineExternal
  deriving DecidableEq, Repr

namespace Interrupt

def causeCode : Interrupt → U32
  | supervisorSoftware => 1
  | machineSoftware => 3
  | supervisorTimer => 5
  | machineTimer => 7
  | supervisorExternal => 9
  | machineExternal => 11

def isSupervisor : Interrupt → Bool
  | supervisorSoftware | supervisorTimer | supervisorExternal => true
  | _ => false

end Interrupt

/-- Exception causes raised by the initial RV32I implementation. -/
inductive Exception
  | instructionAddressMisaligned (addr : U32)
  | instructionAccessFault (addr : U32)
  | instructionPageFault (addr : U32)
  | illegalInstruction (instruction : U32)
  | breakpoint
  | loadAddressMisaligned (addr : U32)
  | loadAccessFault (addr : U32)
  | loadPageFault (addr : U32)
  | storeAddressMisaligned (addr : U32)
  | storeAccessFault (addr : U32)
  | storePageFault (addr : U32)
  | environmentCallFromUMode
  | environmentCallFromSMode
  | environmentCallFromMMode
  deriving DecidableEq, Repr

/-- A trap is either a synchronous exception or an asynchronous interrupt. -/
inductive Trap
  | exception (exception : Exception)
  | interrupt (interrupt : Interrupt)
  deriving DecidableEq, Repr

namespace Trap

def isInterrupt : Trap → Bool
  | interrupt _ => true
  | exception _ => false

def causeCode : Trap → U32
  | interrupt i => i.causeCode
  | exception (.instructionAddressMisaligned _) => 0
  | exception (.instructionAccessFault _) => 1
  | exception (.illegalInstruction _) => 2
  | exception .breakpoint => 3
  | exception (.loadAddressMisaligned _) => 4
  | exception (.loadAccessFault _) => 5
  | exception (.storeAddressMisaligned _) => 6
  | exception (.storeAccessFault _) => 7
  | exception .environmentCallFromUMode => 8
  | exception .environmentCallFromSMode => 9
  | exception .environmentCallFromMMode => 11
  | exception (.instructionPageFault _) => 12
  | exception (.loadPageFault _) => 13
  | exception (.storePageFault _) => 15

def causeBits (trap : Trap) : U32 :=
  trap.causeCode ||| (if trap.isInterrupt then 1 <<< 31 else 0)

def tval : Trap → U32
  | exception (.instructionAddressMisaligned addr) => addr
  | exception (.instructionAccessFault addr) => addr
  | exception (.instructionPageFault addr) => addr
  | exception (.illegalInstruction instruction) => instruction
  | exception (.loadAddressMisaligned addr) => addr
  | exception (.loadAccessFault addr) => addr
  | exception (.loadPageFault addr) => addr
  | exception (.storeAddressMisaligned addr) => addr
  | exception (.storeAccessFault addr) => addr
  | exception (.storePageFault addr) => addr
  | exception .breakpoint => 0
  | exception .environmentCallFromUMode => 0
  | exception .environmentCallFromSMode => 0
  | exception .environmentCallFromMMode => 0
  | interrupt _ => 0

end Trap

end RvSim
