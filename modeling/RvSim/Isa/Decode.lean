import RvSim.Isa.Instruction

/-!
# Instruction decoding

`decode` maps a fetched word to a decoded instruction, field by field as the source does; a word
outside the modeled formats is an error.

## Main definitions

* `decode`: decode a 32-bit RV32I word at a program counter
* `immI`, `immS`, `immB`, `immU`, `immJ`: the five immediate layouts
-/

namespace RvSim

/-- Returned when the decoder encounters an instruction outside the current model. -/
structure DecodeError where
  raw : U32
  deriving DecidableEq, Repr

/-- `((value << shift) as i32) >> shift` with `shift = 32 - bits`. -/
def signExtend (value : U32) (bits : Nat) : U32 :=
  (value <<< (32 - bits)).sshiftRight (32 - bits)

def immI (raw : U32) : U32 := signExtend (raw >>> 20) 12

def immS (raw : U32) : U32 :=
  signExtend (((raw >>> 7) &&& 0x1f) ||| (((raw >>> 25) &&& 0x7f) <<< 5)) 12

def immB (raw : U32) : U32 :=
  signExtend ((((raw >>> 8) &&& 0x0f) <<< 1) ||| (((raw >>> 25) &&& 0x3f) <<< 5)
    ||| (((raw >>> 7) &&& 0x01) <<< 11) ||| (((raw >>> 31) &&& 0x01) <<< 12)) 13

def immU (raw : U32) : U32 := raw &&& 0xfffff000

def immJ (raw : U32) : U32 :=
  signExtend ((((raw >>> 21) &&& 0x03ff) <<< 1) ||| (((raw >>> 20) &&& 0x0001) <<< 11)
    ||| (((raw >>> 12) &&& 0x00ff) <<< 12) ||| (((raw >>> 31) &&& 0x0001) <<< 20)) 21

def decodeBranch (funct3 : U8) (raw : U32) : Except DecodeError BranchKind :=
  match funct3.toNat with
  | 0b000 => .ok .beq
  | 0b001 => .ok .bne
  | 0b100 => .ok .blt
  | 0b101 => .ok .bge
  | 0b110 => .ok .bltu
  | 0b111 => .ok .bgeu
  | _ => .error ⟨raw⟩

def decodeLoad (funct3 : U8) (raw : U32) : Except DecodeError LoadKind :=
  match funct3.toNat with
  | 0b000 => .ok .byte
  | 0b001 => .ok .half
  | 0b010 => .ok .word
  | 0b100 => .ok .byteUnsigned
  | 0b101 => .ok .halfUnsigned
  | _ => .error ⟨raw⟩

def decodeStore (funct3 : U8) (raw : U32) : Except DecodeError StoreKind :=
  match funct3.toNat with
  | 0b000 => .ok .byte
  | 0b001 => .ok .half
  | 0b010 => .ok .word
  | _ => .error ⟨raw⟩

def decodeOpImm (funct3 funct7 : U8) (raw : U32) : Except DecodeError AluOp :=
  match funct3.toNat, funct7.toNat with
  | 0b000, _ => .ok .add
  | 0b010, _ => .ok .slt
  | 0b011, _ => .ok .sltu
  | 0b100, _ => .ok .xor
  | 0b110, _ => .ok .or
  | 0b111, _ => .ok .and
  | 0b001, 0b0000000 => .ok .sll
  | 0b101, 0b0000000 => .ok .srl
  | 0b101, 0b0100000 => .ok .sra
  | _, _ => .error ⟨raw⟩

def decodeOp (funct3 funct7 : U8) (raw : U32) : Except DecodeError AluOp :=
  match funct3.toNat, funct7.toNat with
  | 0b000, 0b0000000 => .ok .add
  | 0b000, 0b0100000 => .ok .sub
  | 0b001, 0b0000000 => .ok .sll
  | 0b010, 0b0000000 => .ok .slt
  | 0b011, 0b0000000 => .ok .sltu
  | 0b100, 0b0000000 => .ok .xor
  | 0b101, 0b0000000 => .ok .srl
  | 0b101, 0b0100000 => .ok .sra
  | 0b110, 0b0000000 => .ok .or
  | 0b111, 0b0000000 => .ok .and
  | _, _ => .error ⟨raw⟩

def decodeSystem (raw : U32) : Except DecodeError SystemKind :=
  if raw = 0x00000073 then .ok .ecall
  else if raw = 0x00100073 then .ok .ebreak
  else if raw = 0x10500073 then .ok .wfi
  else if raw = 0x10200073 then .ok .sret
  else if raw = 0x30200073 then .ok .mret
  else if raw &&& 0xfe007fff = 0x12000073 then .ok .sfenceVma
  else .error ⟨raw⟩

def decodeCsrOp (funct3 : U8) (raw : U32) : Except DecodeError CsrOp :=
  match funct3.toNat with
  | 0b001 => .ok .readWrite
  | 0b010 => .ok .readSet
  | 0b011 => .ok .readClear
  | 0b101 => .ok .readWriteImmediate
  | 0b110 => .ok .readSetImmediate
  | 0b111 => .ok .readClearImmediate
  | _ => .error ⟨raw⟩

def decodeCsrAddress (raw : U32) : Except DecodeError CsrAddress :=
  match CsrAddress.tryFrom (((raw >>> 20) &&& 0x0fff).setWidth 16) with
  | some address => .ok address
  | none => .error ⟨raw⟩

/-- Decode a 32-bit RV32I instruction at the given program counter. -/
def decode (raw pc : U32) : Except DecodeError DecodedInstruction := do
  let opcode : U8 := (raw &&& 0x7f).setWidth 8
  let rd : RegIndex := ((raw >>> 7) &&& 0x1f).setWidth 5
  let funct3 : U8 := ((raw >>> 12) &&& 0x7).setWidth 8
  let rs1 : RegIndex := ((raw >>> 15) &&& 0x1f).setWidth 5
  let rs2 : RegIndex := ((raw >>> 20) &&& 0x1f).setWidth 5
  let funct7 : U8 := ((raw >>> 25) &&& 0x7f).setWidth 8
  match opcode.toNat with
  | 0x37 => .ok ⟨raw, pc, .lui, some rd, none, none, immU raw, none⟩
  | 0x17 => .ok ⟨raw, pc, .auipc, some rd, none, none, immU raw, none⟩
  | 0x6f => .ok ⟨raw, pc, .jal, some rd, none, none, immJ raw, none⟩
  | 0x67 =>
    if funct3 = 0 then .ok ⟨raw, pc, .jalr, some rd, some rs1, none, immI raw, none⟩
    else .error ⟨raw⟩
  | 0x63 =>
    let kind ← decodeBranch funct3 raw
    .ok ⟨raw, pc, .branch kind, none, some rs1, some rs2, immB raw, none⟩
  | 0x03 =>
    let kind ← decodeLoad funct3 raw
    .ok ⟨raw, pc, .load kind, some rd, some rs1, none, immI raw, none⟩
  | 0x23 =>
    let kind ← decodeStore funct3 raw
    .ok ⟨raw, pc, .store kind, none, some rs1, some rs2, immS raw, none⟩
  | 0x13 =>
    let op ← decodeOpImm funct3 funct7 raw
    .ok ⟨raw, pc, .opImm op, some rd, some rs1, none, immI raw, none⟩
  | 0x33 =>
    let op ← decodeOp funct3 funct7 raw
    .ok ⟨raw, pc, .op op, some rd, some rs1, some rs2, 0, none⟩
  | 0x73 =>
    if funct3 = 0 then
      let kind ← decodeSystem raw
      match kind with
      | .sfenceVma => .ok ⟨raw, pc, .system kind, none, some rs1, some rs2, 0, none⟩
      | _ => .ok ⟨raw, pc, .system kind, none, none, none, 0, none⟩
    else
      let op ← decodeCsrOp funct3 raw
      let csr ← decodeCsrAddress raw
      .ok ⟨raw, pc, .csr op, some rd, some rs1, none, 0, some csr⟩
  | _ => .error ⟨raw⟩

/-- A decoded instruction keeps its word and its address. -/
theorem decode_pc {raw pc : U32} {d : DecodedInstruction} (h : decode raw pc = .ok d) :
    d.raw = raw ∧ d.pc = pc := by
  simp only [decode, bind, Except.bind] at h
  repeat' split at h
  all_goals first
    | (cases h; done)
    | (cases h; exact ⟨rfl, rfl⟩)

end RvSim
