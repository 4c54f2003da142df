import RvSim.Isa.Fields

/-!
# The encoding of the modeled instructions

The instructions of the modeled formats, their encodings, and what `decode` makes of them: it accepts their
encodings and no other word, and shows their fields.

## Main definitions

* `Instruction`: the instructions, with operands of the widths they have in the word
* `Instruction.encode`, `Instruction.decoded`: the word, and the fields that a decoder is to show
* `DecodedInstruction.encoding`: the word that belongs to the fields of a decoded instruction

## Main results

* `decode_encode`: the encoding of an instruction is decoded
* `exists_of_decode`: what is decoded is the encoding of an instruction
* `decode_encoding`: decoding and encoding are inverse to each other
-/

namespace RvSim

/-! ## Function codes -/

def BranchKind.funct3 : BranchKind → BitVec 3
  | .beq => 0b000 | .bne => 0b001 | .blt => 0b100 | .bge => 0b101 | .bltu => 0b110 | .bgeu => 0b111

def LoadKind.funct3 : LoadKind → BitVec 3
  | .byte => 0b000 | .half => 0b001 | .word => 0b010 | .byteUnsigned => 0b100 | .halfUnsigned => 0b101

def StoreKind.funct3 : StoreKind → BitVec 3
  | .byte => 0b000 | .half => 0b001 | .word => 0b010

def AluOp.funct3 : AluOp → BitVec 3
  | .add | .sub => 0b000 | .sll => 0b001 | .slt => 0b010 | .sltu => 0b011 | .xor => 0b100
  | .srl | .sra => 0b101 | .or => 0b110 | .and => 0b111

def AluOp.funct7 : AluOp → BitVec 7
  | .sub | .sra => 0b0100000
  | _ => 0b0000000

def CsrOp.funct3 : CsrOp → BitVec 3
  | .readWrite => 0b001 | .readSet => 0b010 | .readClear => 0b011
  | .readWriteImmediate => 0b101 | .readSetImmediate => 0b110 | .readClearImmediate => 0b111

/-- The number of a CSR in an instruction. -/
def CsrAddress.number (address : CsrAddress) : BitVec 12 := address.toU16.setWidth 12

/-! ## Instructions -/

/-- The operations that take an immediate of twelve bits. -/
inductive ImmediateOp
  | add | slt | sltu | xor | or | and
  deriving DecidableEq, Repr

def ImmediateOp.aluOp : ImmediateOp → AluOp
  | .add => .add | .slt => .slt | .sltu => .sltu | .xor => .xor | .or => .or | .and => .and

/-- The operations that take a shift amount. -/
inductive ShiftOp
  | sll | srl | sra
  deriving DecidableEq, Repr

def ShiftOp.aluOp : ShiftOp → AluOp
  | .sll => .sll | .srl => .srl | .sra => .sra

/-- An instruction of the modeled formats. The offset of a branch or a jump counts pairs of bytes. -/
inductive Instruction
  | lui (rd : RegIndex) (imm : BitVec 20)
  | auipc (rd : RegIndex) (imm : BitVec 20)
  | jal (rd : RegIndex) (offset : BitVec 20)
  | jalr (rd rs1 : RegIndex) (imm : BitVec 12)
  | branch (kind : BranchKind) (rs1 rs2 : RegIndex) (offset : BitVec 12)
  | load (kind : LoadKind) (rd rs1 : RegIndex) (imm : BitVec 12)
  | store (kind : StoreKind) (rs1 rs2 : RegIndex) (imm : BitVec 12)
  | opImm (op : ImmediateOp) (rd rs1 : RegIndex) (imm : BitVec 12)
  | shiftImm (op : ShiftOp) (rd rs1 : RegIndex) (amount : BitVec 5)
  | op (op : AluOp) (rd rs1 rs2 : RegIndex)
  | csr (op : CsrOp) (rd rs1 : RegIndex) (address : CsrAddress)
  | ecall | ebreak | wfi | sret | mret
  | sfenceVma (rs1 rs2 : RegIndex)
  deriving DecidableEq, Repr

namespace Instruction

/-- The word of an instruction. -/
def encode : Instruction → U32
  | .lui rd imm => uType rd 0b0110111 imm
  | .auipc rd imm => uType rd 0b0010111 imm
  | .jal rd offset => jType rd 0b1101111 offset
  | .jalr rd rs1 imm => iType rs1 0b000 rd 0b1100111 imm
  | .branch kind rs1 rs2 offset => bType rs2 rs1 kind.funct3 0b1100011 offset
  | .load kind rd rs1 imm => iType rs1 kind.funct3 rd 0b0000011 imm
  | .store kind rs1 rs2 imm => sType rs2 rs1 kind.funct3 0b0100011 imm
  | .opImm kind rd rs1 imm => iType rs1 kind.aluOp.funct3 rd 0b0010011 imm
  | .shiftImm kind rd rs1 amount => rType kind.aluOp.funct7 amount rs1 kind.aluOp.funct3 rd 0b0010011
  | .op kind rd rs1 rs2 => rType kind.funct7 rs2 rs1 kind.funct3 rd 0b0110011
  | .csr kind rd rs1 address => iType rs1 kind.funct3 rd 0b1110011 address.number
  | .ecall => iType 0 0b000 0 0b1110011 0x000
  | .ebreak => iType 0 0b000 0 0b1110011 0x001
  | .wfi => iType 0 0b000 0 0b1110011 0x105
  | .sret => iType 0 0b000 0 0b1110011 0x102
  | .mret => iType 0 0b000 0 0b1110011 0x302
  | .sfenceVma rs1 rs2 => rType 0b0001001 rs2 rs1 0b000 0 0b1110011

/-- The fields that a decoder is to show, the immediate sign-extended. -/
def decoded (instruction : Instruction) (pc : U32) : DecodedInstruction :=
  let raw := instruction.encode
  match instruction with
  | .lui rd imm => ⟨raw, pc, .lui, some rd, none, none, imm ++ 0#12, none⟩
  | .auipc rd imm => ⟨raw, pc, .auipc, some rd, none, none, imm ++ 0#12, none⟩
  | .jal rd offset => ⟨raw, pc, .jal, some rd, none, none, (offset ++ 0#1).signExtend 32, none⟩
  | .jalr rd rs1 imm => ⟨raw, pc, .jalr, some rd, some rs1, none, imm.signExtend 32, none⟩
  | .branch kind rs1 rs2 offset =>
    ⟨raw, pc, .branch kind, none, some rs1, some rs2, (offset ++ 0#1).signExtend 32, none⟩
  | .load kind rd rs1 imm => ⟨raw, pc, .load kind, some rd, some rs1, none, imm.signExtend 32, none⟩
  | .store kind rs1 rs2 imm => ⟨raw, pc, .store kind, none, some rs1, some rs2, imm.signExtend 32, none⟩
  | .opImm kind rd rs1 imm => ⟨raw, pc, .opImm kind.aluOp, some rd, some rs1, none, imm.signExtend 32, none⟩
  | .shiftImm kind rd rs1 amount =>
    ⟨raw, pc, .opImm kind.aluOp, some rd, some rs1, none, (kind.aluOp.funct7 ++ amount).signExtend 32, none⟩
  | .op kind rd rs1 rs2 => ⟨raw, pc, .op kind, some rd, some rs1, some rs2, 0, none⟩
  | .csr kind rd rs1 address => ⟨raw, pc, .csr kind, some rd, some rs1, none, 0, some address⟩
  | .ecall => ⟨raw, pc, .system .ecall, none, none, none, 0, none⟩
  | .ebreak => ⟨raw, pc, .system .ebreak, none, none, none, 0, none⟩
  | .wfi => ⟨raw, pc, .system .wfi, none, none, none, 0, none⟩
  | .sret => ⟨raw, pc, .system .sret, none, none, none, 0, none⟩
  | .mret => ⟨raw, pc, .system .mret, none, none, none, 0, none⟩
  | .sfenceVma rs1 rs2 => ⟨raw, pc, .system .sfenceVma, none, some rs1, some rs2, 0, none⟩

end Instruction

/-- The word of the format of a kind with the fields of a decoded instruction. -/
def DecodedInstruction.encoding (decoded : DecodedInstruction) : U32 :=
  let rd := decoded.rd.getD 0
  let rs1 := decoded.rs1.getD 0
  let rs2 := decoded.rs2.getD 0
  let imm := decoded.imm
  match decoded.kind with
  | .lui => uType rd 0b0110111 (imm.extractLsb' 12 20)
  | .auipc => uType rd 0b0010111 (imm.extractLsb' 12 20)
  | .jal => jType rd 0b1101111 (imm.extractLsb' 1 20)
  | .jalr => iType rs1 0b000 rd 0b1100111 (imm.extractLsb' 0 12)
  | .branch kind => bType rs2 rs1 kind.funct3 0b1100011 (imm.extractLsb' 1 12)
  | .load kind => iType rs1 kind.funct3 rd 0b0000011 (imm.extractLsb' 0 12)
  | .store kind => sType rs2 rs1 kind.funct3 0b0100011 (imm.extractLsb' 0 12)
  | .opImm op => iType rs1 op.funct3 rd 0b0010011 (imm.extractLsb' 0 12)
  | .op op => rType op.funct7 rs2 rs1 op.funct3 rd 0b0110011
  | .csr op => iType rs1 op.funct3 rd 0b1110011 ((decoded.csr.map CsrAddress.number).getD 0)
  | .system .ecall => iType rs1 0b000 rd 0b1110011 0x000
  | .system .ebreak => iType rs1 0b000 rd 0b1110011 0x001
  | .system .wfi => iType rs1 0b000 rd 0b1110011 0x105
  | .system .sret => iType rs1 0b000 rd 0b1110011 0x102
  | .system .mret => iType rs1 0b000 rd 0b1110011 0x302
  | .system .sfenceVma => rType 0b0001001 rs2 rs1 0b000 rd 0b1110011

/-! ## Back to the word -/

theorem extractLsb'_signExtend (imm : BitVec 12) : (imm.signExtend 32).extractLsb' 0 12 = imm := by
  ext i hi
  rw [BitVec.getElem_extractLsb', BitVec.getLsbD_signExtend]
  grind

theorem extractLsb'_offset {n : Nat} (offset : BitVec n) (h : n < 32) :
    ((offset ++ 0#1).signExtend 32).extractLsb' 1 n = offset := by
  ext i hi
  rw [BitVec.getElem_extractLsb', BitVec.getLsbD_signExtend, BitVec.getLsbD_append]
  grind

/-- The fields of an instruction belong to its word. -/
theorem encoding_decoded (instruction : Instruction) (pc : U32) :
    (instruction.decoded pc).encoding = instruction.encode := by
  cases instruction with
  | lui rd imm | auipc rd imm => exact congrArg (uType rd _) BitVec.extractLsb'_append_eq_left
  | jal rd offset => exact congrArg (jType rd _) (extractLsb'_offset offset (by decide))
  | jalr rd rs1 imm | load kind rd rs1 imm | opImm op rd rs1 imm =>
    exact congrArg (iType rs1 _ rd _) (extractLsb'_signExtend imm)
  | branch kind rs1 rs2 offset =>
    exact congrArg (bType rs2 rs1 _ _) (extractLsb'_offset offset (by decide))
  | store kind rs1 rs2 imm => exact congrArg (sType rs2 rs1 _ _) (extractLsb'_signExtend imm)
  | shiftImm op rd rs1 amount => exact congrArg (iType rs1 _ rd _) (extractLsb'_signExtend _)
  | _ => rfl

/-! ## Decoding an encoding -/

theorem eq_of_toNat_setWidth {width : Nat} {code other : BitVec width} (hwidth : width ≤ 8)
    (h : (code.setWidth 8).toNat = other.toNat) : code = other := by
  rw [BitVec.toNat_setWidth_of_le hwidth] at h
  exact BitVec.toNat_inj.1 h

/-- A function code is found again from its byte. -/
theorem eq_of_setWidth {width : Nat} {code other : BitVec width} (hwidth : width ≤ 8)
    (h : code.setWidth 8 = other.setWidth 8) : code = other := by
  have hback := congrArg (BitVec.setWidth width) h
  rwa [BitVec.setWidth_setWidth_of_le _ hwidth, BitVec.setWidth_setWidth_of_le _ hwidth, BitVec.setWidth_eq,
    BitVec.setWidth_eq] at hback

theorem decodeBranch_funct3 (kind : BranchKind) (raw : U32) :
    decodeBranch (kind.funct3.setWidth 8) raw = .ok kind := by
  cases kind <;> rfl

theorem decodeLoad_funct3 (kind : LoadKind) (raw : U32) :
    decodeLoad (kind.funct3.setWidth 8) raw = .ok kind := by
  cases kind <;> rfl

theorem decodeStore_funct3 (kind : StoreKind) (raw : U32) :
    decodeStore (kind.funct3.setWidth 8) raw = .ok kind := by
  cases kind <;> rfl

theorem decodeOpImm_immediateOp (kind : ImmediateOp) (funct7 : U8) (raw : U32) :
    decodeOpImm (kind.aluOp.funct3.setWidth 8) funct7 raw = .ok kind.aluOp := by
  cases kind <;> rfl

theorem decodeOpImm_shiftOp (kind : ShiftOp) (raw : U32) :
    decodeOpImm (kind.aluOp.funct3.setWidth 8) (kind.aluOp.funct7.setWidth 8) raw = .ok kind.aluOp := by
  cases kind <;> rfl

theorem decodeOp_funct (kind : AluOp) (raw : U32) :
    decodeOp (kind.funct3.setWidth 8) (kind.funct7.setWidth 8) raw = .ok kind := by
  cases kind <;> rfl

theorem decodeCsrOp_funct3 (kind : CsrOp) (raw : U32) :
    decodeCsrOp (kind.funct3.setWidth 8) raw = .ok kind := by
  cases kind <;> rfl

theorem decodeCsrAddress_number {raw : U32} {address : CsrAddress}
    (h : ((raw >>> 20) &&& 0x0fff).setWidth 16 = address.toU16) : decodeCsrAddress raw = .ok address := by
  unfold decodeCsrAddress
  rw [h, CsrAddress.tryFrom_toU16]

section Decode

variable (funct7 : BitVec 7) (rs2 rs1 : RegIndex) (funct3 : BitVec 3) (rd : RegIndex) (pc : U32)

theorem decode_lui : decode (rType funct7 rs2 rs1 funct3 rd 0b0110111) pc =
    .ok ⟨rType funct7 rs2 rs1 funct3 rd 0b0110111, pc, .lui, some rd, none, none,
      uImmediate funct7 rs2 rs1 funct3 ++ 0#12, none⟩ := by
  unfold decode
  rw [opcode_rType, rd_rType, ← immU_rType]
  rfl

theorem decode_auipc : decode (rType funct7 rs2 rs1 funct3 rd 0b0010111) pc =
    .ok ⟨rType funct7 rs2 rs1 funct3 rd 0b0010111, pc, .auipc, some rd, none, none,
      uImmediate funct7 rs2 rs1 funct3 ++ 0#12, none⟩ := by
  unfold decode
  rw [opcode_rType, rd_rType, ← immU_rType]
  rfl

theorem decode_jal : decode (rType funct7 rs2 rs1 funct3 rd 0b1101111) pc =
    .ok ⟨rType funct7 rs2 rs1 funct3 rd 0b1101111, pc, .jal, some rd, none, none,
      (jOffset funct7 rs2 rs1 funct3 ++ 0#1).signExtend 32, none⟩ := by
  unfold decode
  rw [opcode_rType, rd_rType, ← immJ_rType]
  rfl

theorem decode_jalr : decode (rType funct7 rs2 rs1 funct3 rd 0b1100111) pc =
    if funct3.setWidth 8 = (0 : U8) then
      .ok ⟨rType funct7 rs2 rs1 funct3 rd 0b1100111, pc, .jalr, some rd, some rs1, none,
        (funct7 ++ rs2).signExtend 32, none⟩
    else .error ⟨rType funct7 rs2 rs1 funct3 rd 0b1100111⟩ := by
  unfold decode
  rw [opcode_rType, rd_rType, rs1_rType, funct3_rType, ← immI_rType]
  rfl

theorem decode_branch : decode (rType funct7 rs2 rs1 funct3 rd 0b1100011) pc =
    decodeBranch (funct3.setWidth 8) (rType funct7 rs2 rs1 funct3 rd 0b1100011) >>= fun kind =>
    .ok ⟨rType funct7 rs2 rs1 funct3 rd 0b1100011, pc, .branch kind, none, some rs1, some rs2,
      (bOffset funct7 rd ++ 0#1).signExtend 32, none⟩ := by
  unfold decode
  rw [opcode_rType, rs1_rType, rs2_rType, funct3_rType, ← immB_rType]
  rfl

theorem decode_load : decode (rType funct7 rs2 rs1 funct3 rd 0b0000011) pc =
    decodeLoad (funct3.setWidth 8) (rType funct7 rs2 rs1 funct3 rd 0b0000011) >>= fun kind =>
    .ok ⟨rType funct7 rs2 rs1 funct3 rd 0b0000011, pc, .load kind, some rd, some rs1, none,
      (funct7 ++ rs2).signExtend 32, none⟩ := by
  unfold decode
  rw [opcode_rType, rd_rType, rs1_rType, funct3_rType, ← immI_rType]
  rfl

theorem decode_store : decode (rType funct7 rs2 rs1 funct3 rd 0b0100011) pc =
    decodeStore (funct3.setWidth 8) (rType funct7 rs2 rs1 funct3 rd 0b0100011) >>= fun kind =>
    .ok ⟨rType funct7 rs2 rs1 funct3 rd 0b0100011, pc, .store kind, none, some rs1, some rs2,
      (funct7 ++ rd).signExtend 32, none⟩ := by
  unfold decode
  rw [opcode_rType, rs1_rType, rs2_rType, funct3_rType, ← immS_rType]
  rfl

theorem decode_opImm : decode (rType funct7 rs2 rs1 funct3 rd 0b0010011) pc =
    decodeOpImm (funct3.setWidth 8) (funct7.setWidth 8)
      (rType funct7 rs2 rs1 funct3 rd 0b0010011) >>= fun op =>
    .ok ⟨rType funct7 rs2 rs1 funct3 rd 0b0010011, pc, .opImm op, some rd, some rs1, none,
      (funct7 ++ rs2).signExtend 32, none⟩ := by
  unfold decode
  rw [opcode_rType, rd_rType, rs1_rType, funct3_rType, funct7_rType, ← immI_rType]
  rfl

theorem decode_op : decode (rType funct7 rs2 rs1 funct3 rd 0b0110011) pc =
    decodeOp (funct3.setWidth 8) (funct7.setWidth 8) (rType funct7 rs2 rs1 funct3 rd 0b0110011) >>= fun op =>
    .ok ⟨rType funct7 rs2 rs1 funct3 rd 0b0110011, pc, .op op, some rd, some rs1, some rs2, 0, none⟩ := by
  unfold decode
  rw [opcode_rType, rd_rType, rs1_rType, rs2_rType, funct3_rType, funct7_rType]
  rfl

theorem decode_system : decode (rType funct7 rs2 rs1 0 rd 0b1110011) pc =
    decodeSystem (rType funct7 rs2 rs1 0 rd 0b1110011) >>= fun kind =>
    match kind with
    | .sfenceVma =>
      .ok ⟨rType funct7 rs2 rs1 0 rd 0b1110011, pc, .system kind, none, some rs1, some rs2, 0, none⟩
    | _ => .ok ⟨rType funct7 rs2 rs1 0 rd 0b1110011, pc, .system kind, none, none, none, 0, none⟩ := by
  unfold decode
  rw [opcode_rType, rs1_rType, rs2_rType, funct3_rType]
  rfl

theorem decode_csr {funct3 : BitVec 3} (h : funct3 ≠ 0) :
    decode (rType funct7 rs2 rs1 funct3 rd 0b1110011) pc =
    decodeCsrOp (funct3.setWidth 8) (rType funct7 rs2 rs1 funct3 rd 0b1110011) >>= fun op =>
    decodeCsrAddress (rType funct7 rs2 rs1 funct3 rd 0b1110011) >>= fun csr =>
    .ok ⟨rType funct7 rs2 rs1 funct3 rd 0b1110011, pc, .csr op, some rd, some rs1, none, 0, some csr⟩ := by
  have hfunct3 : funct3.setWidth 8 ≠ (0 : U8) := fun hzero => h (eq_of_setWidth (by decide) hzero)
  unfold decode
  rw [opcode_rType, rd_rType, rs1_rType, funct3_rType]
  exact if_neg hfunct3

end Decode

/-- The mask of the fixed fields of a fence. -/
theorem fenceMask : (0xfe007fff : U32) = rType 0x7f 0 0 0x7 0x1f 0x7f := rfl

theorem decodeSystem_sfenceVma (rs2 rs1 : RegIndex) :
    decodeSystem (rType 0b0001001 rs2 rs1 0 0 0b1110011) = .ok .sfenceVma := by
  have hfunct7 := (slices_rType 0b0001001 rs2 rs1 0 0 0b1110011).2.2.2.2.2
  have hne {raw : U32} (hraw : raw.extractLsb' 25 7 ≠ 0b0001001) :
      rType 0b0001001 rs2 rs1 0 0 0b1110011 ≠ raw := by
    rintro rfl
    exact hraw hfunct7
  have hmask : rType 0b0001001 rs2 rs1 0 0 0b1110011 &&& 0xfe007fff = 0x12000073 := by
    have hclear (register : RegIndex) : register &&& 0 = 0 := BitVec.and_zero
    rw [fenceMask, rType_and, hclear, hclear]
    rfl
  unfold decodeSystem
  rw [if_neg (hne (by decide)), if_neg (hne (by decide)), if_neg (hne (by decide)), if_neg (hne (by decide)),
    if_neg (hne (by decide)), if_pos hmask]

/-- **The encoding of an instruction is decoded.** -/
theorem decode_encode (instruction : Instruction) (pc : U32) :
    decode instruction.encode pc = .ok (instruction.decoded pc) := by
  cases instruction with
  | lui rd imm =>
    rw [← uImmediate_slices imm]
    exact decode_lui _ _ _ _ rd pc
  | auipc rd imm =>
    rw [← uImmediate_slices imm]
    exact decode_auipc _ _ _ _ rd pc
  | jal rd offset =>
    -- a jump scatters its offset: the slices of the offset are the fields of the word
    have hword : (Instruction.jal rd offset).encode = _ :=
      (congrArg (jType rd 0b1101111) (jOffset_slices offset).symm).trans (jType_jOffset _ _ _ _ rd _)
    have hdecode := decode_jal (offset.extractLsb' 19 1 ++ offset.extractLsb' 4 6)
      (offset.extractLsb' 0 4 ++ offset.extractLsb' 10 1) (offset.extractLsb' 14 5)
      (offset.extractLsb' 11 3) rd pc
    rw [← hword, jOffset_slices] at hdecode
    exact hdecode
  | jalr rd rs1 imm =>
    rw [← append_slices imm]
    exact decode_jalr _ _ rs1 0 rd pc
  | branch kind rs1 rs2 offset =>
    have hdecode := decode_branch (offset.extractLsb' 11 1 ++ offset.extractLsb' 4 6) rs2 rs1 kind.funct3
      (offset.extractLsb' 0 4 ++ offset.extractLsb' 10 1) pc
    rw [bOffset_slices, decodeBranch_funct3] at hdecode
    exact hdecode
  | load kind rd rs1 imm =>
    have hdecode := decode_load (imm.extractLsb' 5 7) (imm.extractLsb' 0 5) rs1 kind.funct3 rd pc
    rw [append_slices, decodeLoad_funct3, ← iType_append, append_slices] at hdecode
    exact hdecode
  | store kind rs1 rs2 imm =>
    have hdecode := decode_store (imm.extractLsb' 5 7) rs2 rs1 kind.funct3 (imm.extractLsb' 0 5) pc
    rw [append_slices, decodeStore_funct3] at hdecode
    exact hdecode
  | opImm kind rd rs1 imm =>
    have hdecode := decode_opImm (imm.extractLsb' 5 7) (imm.extractLsb' 0 5) rs1 kind.aluOp.funct3 rd pc
    rw [append_slices, decodeOpImm_immediateOp, ← iType_append, append_slices] at hdecode
    exact hdecode
  | shiftImm kind rd rs1 amount =>
    have hdecode := decode_opImm kind.aluOp.funct7 amount rs1 kind.aluOp.funct3 rd pc
    rw [decodeOpImm_shiftOp] at hdecode
    exact hdecode
  | op kind rd rs1 rs2 =>
    have hdecode := decode_op kind.funct7 rs2 rs1 kind.funct3 rd pc
    rw [decodeOp_funct] at hdecode
    exact hdecode
  | csr kind rd rs1 address =>
    have hdecode := decode_csr (address.number.extractLsb' 5 7) (address.number.extractLsb' 0 5) rs1 rd pc
      (show kind.funct3 ≠ 0 by cases kind <;> decide)
    -- the number of a CSR fills the two fields of an immediate
    have haddress := csr_rType (address.number.extractLsb' 5 7) (address.number.extractLsb' 0 5) rs1
      kind.funct3 rd 0b1110011
    rw [append_slices, show address.number.setWidth 16 = address.toU16 by cases address <;> rfl] at haddress
    rw [decodeCsrOp_funct3, decodeCsrAddress_number haddress, ← iType_append, append_slices] at hdecode
    exact hdecode
  | sfenceVma rs1 rs2 =>
    have hdecode := decode_system 0b0001001 rs2 rs1 0 pc
    rw [decodeSystem_sfenceVma] at hdecode
    exact hdecode
  | ecall | ebreak | wfi | sret | mret => rfl

/-! ## What is decoded is an encoding -/

/-- Both parts of a computation succeed if it does. -/
theorem of_bind_eq_ok {ε α γ : Type} {x : Except ε α} {f : α → Except ε γ} {b : γ} (h : x >>= f = .ok b) :
    ∃ a, x = .ok a ∧ f a = .ok b := by
  cases x with
  | error => cases h
  | ok a => exact ⟨a, rfl, h⟩

section Undecode

variable {funct3 : BitVec 3} {funct7 : BitVec 7} {raw : U32}

theorem funct3_of_decodeBranch {kind : BranchKind}
    (h : decodeBranch (funct3.setWidth 8) raw = .ok kind) : funct3 = kind.funct3 := by
  unfold decodeBranch at h
  split at h <;> cases h <;> rename_i hcode <;> exact eq_of_toNat_setWidth (by decide) hcode

theorem funct3_of_decodeLoad {kind : LoadKind}
    (h : decodeLoad (funct3.setWidth 8) raw = .ok kind) : funct3 = kind.funct3 := by
  unfold decodeLoad at h
  split at h <;> cases h <;> rename_i hcode <;> exact eq_of_toNat_setWidth (by decide) hcode

theorem funct3_of_decodeStore {kind : StoreKind}
    (h : decodeStore (funct3.setWidth 8) raw = .ok kind) : funct3 = kind.funct3 := by
  unfold decodeStore at h
  split at h <;> cases h <;> rename_i hcode <;> exact eq_of_toNat_setWidth (by decide) hcode

theorem funct3_of_decodeCsrOp {kind : CsrOp}
    (h : decodeCsrOp (funct3.setWidth 8) raw = .ok kind) : funct3 = kind.funct3 := by
  unfold decodeCsrOp at h
  split at h <;> cases h <;> rename_i hcode <;> exact eq_of_toNat_setWidth (by decide) hcode

theorem funct_of_decodeOp {kind : AluOp}
    (h : decodeOp (funct3.setWidth 8) (funct7.setWidth 8) raw = .ok kind) :
    funct3 = kind.funct3 ∧ funct7 = kind.funct7 := by
  unfold decodeOp at h
  split at h <;> cases h <;> rename_i hcode3 hcode7 <;>
    exact ⟨eq_of_toNat_setWidth (by decide) hcode3, eq_of_toNat_setWidth (by decide) hcode7⟩

/-- An operation with an immediate ignores `funct7`; a shift needs its own. -/
theorem funct_of_decodeOpImm {kind : AluOp}
    (h : decodeOpImm (funct3.setWidth 8) (funct7.setWidth 8) raw = .ok kind) :
    (∃ op : ImmediateOp, kind = op.aluOp ∧ funct3 = op.aluOp.funct3) ∨
      ∃ op : ShiftOp, kind = op.aluOp ∧ funct3 = op.aluOp.funct3 ∧ funct7 = op.aluOp.funct7 := by
  unfold decodeOpImm at h
  split at h
  case h_1 _ _ hcode3 =>
    cases h
    exact .inl ⟨.add, rfl, eq_of_toNat_setWidth (by decide) hcode3⟩
  case h_2 _ _ hcode3 =>
    cases h
    exact .inl ⟨.slt, rfl, eq_of_toNat_setWidth (by decide) hcode3⟩
  case h_3 _ _ hcode3 =>
    cases h
    exact .inl ⟨.sltu, rfl, eq_of_toNat_setWidth (by decide) hcode3⟩
  case h_4 _ _ hcode3 =>
    cases h
    exact .inl ⟨.xor, rfl, eq_of_toNat_setWidth (by decide) hcode3⟩
  case h_5 _ _ hcode3 =>
    cases h
    exact .inl ⟨.or, rfl, eq_of_toNat_setWidth (by decide) hcode3⟩
  case h_6 _ _ hcode3 =>
    cases h
    exact .inl ⟨.and, rfl, eq_of_toNat_setWidth (by decide) hcode3⟩
  -- the shifts look at `funct7` too
  case h_7 _ _ hcode3 hcode7 =>
    cases h
    exact .inr ⟨.sll, rfl, eq_of_toNat_setWidth (by decide) hcode3, eq_of_toNat_setWidth (by decide) hcode7⟩
  case h_8 _ _ hcode3 hcode7 =>
    cases h
    exact .inr ⟨.srl, rfl, eq_of_toNat_setWidth (by decide) hcode3, eq_of_toNat_setWidth (by decide) hcode7⟩
  case h_9 _ _ hcode3 hcode7 =>
    cases h
    exact .inr ⟨.sra, rfl, eq_of_toNat_setWidth (by decide) hcode3, eq_of_toNat_setWidth (by decide) hcode7⟩
  case h_10 => cases h

theorem number_of_tryFrom {value : BitVec 12} {address : CsrAddress}
    (h : CsrAddress.tryFrom (value.setWidth 16) = some address) : value = address.number := by
  have hvalue : value.setWidth 16 = address.toU16 := by
    unfold CsrAddress.tryFrom at h
    split at h <;> cases h <;> rename_i hnumber <;> exact BitVec.toNat_inj.1 hnumber
  rw [CsrAddress.number, ← hvalue, BitVec.setWidth_setWidth_of_le _ (by decide), BitVec.setWidth_eq]

end Undecode

/-- The fixed fields of a system instruction. -/
theorem decodeSystem_cases {funct7 : BitVec 7} {rs2 rs1 rd : RegIndex} {kind : SystemKind}
    (h : decodeSystem (rType funct7 rs2 rs1 0 rd 0b1110011) = .ok kind) :
    ∃ instruction : Instruction, instruction.encode = rType funct7 rs2 rs1 0 rd 0b1110011 := by
  unfold decodeSystem at h
  split_ifs at h with hecall hebreak hwfi hsret hmret hfence
  · exact ⟨.ecall, hecall.symm⟩
  · exact ⟨.ebreak, hebreak.symm⟩
  · exact ⟨.wfi, hwfi.symm⟩
  · exact ⟨.sret, hsret.symm⟩
  · exact ⟨.mret, hmret.symm⟩
  · refine ⟨.sfenceVma rs1 rs2, ?_⟩
    rw [fenceMask, rType_and] at hfence
    have hslices := slices_rType (funct7 &&& 0x7f) (rs2 &&& 0) (rs1 &&& 0) (0 &&& 7) (rd &&& 0x1f)
      (0b1110011 &&& 0x7f)
    rw [hfence] at hslices
    obtain ⟨-, hrd, -, -, -, hfunct7⟩ := hslices
    have hall {width : Nat} (field : BitVec width) : field &&& BitVec.allOnes width = field :=
      BitVec.and_allOnes
    have hzero : rd = 0 := (hall rd).symm.trans (hrd.symm.trans (by decide))
    have hcode : funct7 = 0b0001001 := (hall funct7).symm.trans (hfunct7.symm.trans (by decide))
    rw [hzero, hcode]
    rfl

/-- The opcodes of the modeled formats. -/
def modeledOpcodes : List (BitVec 7) :=
  [0b0110111, 0b0010111, 0b1101111, 0b1100111, 0b1100011, 0b0000011, 0b0100011, 0b0010011, 0b0110011,
    0b1110011]

theorem mem_modeledOpcodes {funct7 : BitVec 7} {rs2 rs1 : RegIndex} {funct3 : BitVec 3} {rd : RegIndex}
    {opcode : BitVec 7} {pc : U32} {decoded : DecodedInstruction}
    (h : decode (rType funct7 rs2 rs1 funct3 rd opcode) pc = .ok decoded) : opcode ∈ modeledOpcodes := by
  have hmem (code : Nat) (hcode : BitVec.ofNat 7 code ∈ modeledOpcodes)
      (hopcode : (opcode.setWidth 8).toNat = code) : opcode ∈ modeledOpcodes := by
    rw [BitVec.toNat_setWidth_of_le (by decide)] at hopcode
    rwa [← hopcode, BitVec.ofNat_toNat, BitVec.setWidth_eq] at hcode
  unfold decode at h
  dsimp only at h
  rw [opcode_rType] at h
  split at h
  case h_11 => cases h
  all_goals
    rename_i hopcode
    exact hmem _ (by decide) hopcode

/-- **What is decoded is the encoding of an instruction.** -/
theorem exists_of_decode {raw pc : U32} {decoded : DecodedInstruction} (h : decode raw pc = .ok decoded) :
    ∃ instruction : Instruction, instruction.encode = raw := by
  obtain ⟨funct7, rs2, rs1, funct3, rd, opcode, rfl⟩ := exists_rType raw
  have hopcode := mem_modeledOpcodes h
  simp only [modeledOpcodes, List.mem_cons, List.not_mem_nil, or_false] at hopcode
  -- one branch per opcode: its decoder fixes the fields that the encoding fixes
  rcases hopcode with rfl | rfl | rfl | rfl | rfl | rfl | rfl | rfl | rfl | rfl
  · exact ⟨.lui rd (uImmediate funct7 rs2 rs1 funct3), rfl⟩
  · exact ⟨.auipc rd (uImmediate funct7 rs2 rs1 funct3), rfl⟩
  · exact ⟨.jal rd (jOffset funct7 rs2 rs1 funct3), jType_jOffset _ _ _ _ _ _⟩
  · rw [decode_jalr] at h
    split at h
    · rename_i hfunct3
      rw [show funct3 = 0 from eq_of_setWidth (by decide) hfunct3]
      exact ⟨.jalr rd rs1 (funct7 ++ rs2), rfl⟩
    · cases h
  · rw [decode_branch] at h
    obtain ⟨kind, hkind, -⟩ := of_bind_eq_ok h
    rw [funct3_of_decodeBranch hkind]
    exact ⟨.branch kind rs1 rs2 (bOffset funct7 rd), bType_bOffset _ _ _ _ _ _⟩
  · rw [decode_load] at h
    obtain ⟨kind, hkind, -⟩ := of_bind_eq_ok h
    rw [funct3_of_decodeLoad hkind]
    exact ⟨.load kind rd rs1 (funct7 ++ rs2), rfl⟩
  · rw [decode_store] at h
    obtain ⟨kind, hkind, -⟩ := of_bind_eq_ok h
    rw [funct3_of_decodeStore hkind]
    exact ⟨.store kind rs1 rs2 (funct7 ++ rd), sType_append _ _ _ _ _ _⟩
  · rw [decode_opImm] at h
    obtain ⟨kind, hkind, -⟩ := of_bind_eq_ok h
    rcases funct_of_decodeOpImm hkind with ⟨op, -, rfl⟩ | ⟨op, -, rfl, rfl⟩
    · exact ⟨.opImm op rd rs1 (funct7 ++ rs2), rfl⟩
    · exact ⟨.shiftImm op rd rs1 rs2, rfl⟩
  · rw [decode_op] at h
    obtain ⟨kind, hkind, -⟩ := of_bind_eq_ok h
    obtain ⟨rfl, rfl⟩ := funct_of_decodeOp hkind
    exact ⟨.op kind rd rs1 rs2, rfl⟩
  -- `funct3` tells system instructions from CSR instructions
  · by_cases hfunct3 : funct3 = 0
    · subst hfunct3
      rw [decode_system] at h
      obtain ⟨kind, hkind, -⟩ := of_bind_eq_ok h
      exact decodeSystem_cases hkind
    · rw [decode_csr _ _ _ _ _ hfunct3] at h
      obtain ⟨kind, hkind, hrest⟩ := of_bind_eq_ok h
      obtain ⟨address, haddress, -⟩ := of_bind_eq_ok hrest
      unfold decodeCsrAddress at haddress
      rw [csr_rType] at haddress
      split at haddress
      · rename_i hnumber
        cases haddress
        refine ⟨.csr kind rd rs1 address, ?_⟩
        rw [funct3_of_decodeCsrOp hkind, ← iType_append, number_of_tryFrom hnumber]
        rfl
      · cases haddress

/-- **Decoding and encoding are inverse to each other**: a word is decoded exactly if it is the encoding of
an instruction, its fields give the word back, and an instruction gives its fields. -/
theorem decode_encoding (raw pc : U32) :
    ((∃ decoded, decode raw pc = .ok decoded) ↔ ∃ instruction : Instruction, instruction.encode = raw) ∧
      (∀ decoded, decode raw pc = .ok decoded → decoded.encoding = raw) ∧
        ∀ instruction : Instruction, decode instruction.encode pc = .ok (instruction.decoded pc) := by
  refine ⟨⟨fun ⟨_, h⟩ => exists_of_decode h, ?_⟩, fun decoded h => ?_, fun _ => decode_encode _ pc⟩
  · rintro ⟨instruction, rfl⟩
    exact ⟨_, decode_encode instruction pc⟩
  · obtain ⟨instruction, rfl⟩ := exists_of_decode h
    rw [decode_encode] at h
    cases h
    exact encoding_decoded instruction pc

end RvSim
