import RvSim.Isa.Decode

/-!
# The fields of an instruction word

The decoder takes words apart with shifts and masks and puts immediates together with ors. Here the same
fields are slices of the word, and the immediates slices put one behind the other.

## Main definitions

* `rType`, `iType`, `sType`, `bType`, `uType`, `jType`: the instruction formats
* `bOffset`, `uImmediate`, `jOffset`: the immediates that are spread over several fields

## Main results

* `shiftRight_and_mask`, `or_shiftLeft`, `signExtend_setWidth`: shifts, masks and ors as slices
* `immI_rType`, `immS_rType`, `immB_rType`, `immU_rType`, `immJ_rType`: the immediates from the fields
* `exists_rType`: every word has six fields
-/

namespace RvSim

/-! ## Slices -/

theorem shiftRight_and_mask (raw : U32) (start length : Nat) :
    (raw >>> start) &&& BitVec.ofNat 32 (2 ^ length - 1) = (raw.extractLsb' start length).setWidth 32 := by
  ext i hi
  have hmask : (BitVec.ofNat 32 (2 ^ length - 1))[i] = decide (i < length) := by
    rw [← BitVec.getLsbD_eq_getElem, BitVec.getLsbD_ofNat, Nat.testBit_two_pow_sub_one, decide_eq_true hi,
      Bool.true_and]
  rw [BitVec.getElem_and, hmask, BitVec.getElem_ushiftRight, BitVec.getElem_setWidth,
    BitVec.getLsbD_extractLsb', Bool.and_comm]

theorem or_shiftLeft {n m : Nat} (low : BitVec n) (high : BitVec m) :
    low.setWidth 32 ||| (high.setWidth 32 <<< n) = (high ++ low).setWidth 32 := by
  ext i hi
  simp only [BitVec.getElem_or, BitVec.getElem_setWidth, BitVec.getElem_shiftLeft, BitVec.getLsbD_append]
  grind

theorem signExtend_setWidth {length : Nat} (hpos : 0 < length) (hle : length ≤ 32) (value : BitVec length) :
    signExtend (value.setWidth 32) length = value.signExtend 32 := by
  ext i hi
  simp [signExtend, BitVec.getElem_signExtend, BitVec.getElem_sshiftRight, BitVec.msb_eq_getLsbD_last]
  grind

theorem shiftLeft_setWidth {m : Nat} (n : Nat) (value : BitVec m) :
    value.setWidth 32 <<< n = (value ++ 0#n).setWidth 32 := by
  have hor := or_shiftLeft (0#n) value
  rwa [BitVec.setWidth_zero, BitVec.zero_or] at hor

/-- Four pieces that the source puts together, each behind the ones before. -/
theorem or_shiftLeft_four {a b c d : Nat} (n : Nat) (first : BitVec a) (second : BitVec b) (third : BitVec c)
    (fourth : BitVec d) :
    first.setWidth 32 <<< n ||| second.setWidth 32 <<< (a + n) |||
        third.setWidth 32 <<< (b + (a + n)) ||| fourth.setWidth 32 <<< (c + (b + (a + n))) =
      (fourth ++ (third ++ (second ++ (first ++ 0#n)))).setWidth 32 := by
  rw [shiftLeft_setWidth n first, or_shiftLeft, or_shiftLeft, or_shiftLeft]

/-- A field that the source takes out with a shift and a mask. -/
theorem field_eq {raw : U32} {start length : Nat} {field : BitVec length} (mask : U32)
    (hfield : raw.extractLsb' start length = field) (hmask : mask = BitVec.ofNat 32 (2 ^ length - 1)) :
    (raw >>> start) &&& mask = field.setWidth 32 := by
  rw [hmask, shiftRight_and_mask, hfield]

theorem setWidth_field {raw : U32} {start length : Nat} {field : BitVec length} {mask : U32} (width : Nat)
    (hfield : raw.extractLsb' start length = field) (hmask : mask = BitVec.ofNat 32 (2 ^ length - 1))
    (hwidth : width ≤ 32) : ((raw >>> start) &&& mask).setWidth width = field.setWidth width := by
  rw [field_eq mask hfield hmask, BitVec.setWidth_setWidth_of_le _ hwidth]

/-! ## Formats -/

section Formats

variable (funct7 : BitVec 7) (rs2 rs1 : RegIndex) (funct3 : BitVec 3) (rd : RegIndex) (opcode : BitVec 7)

def rType : U32 := funct7 ++ rs2 ++ rs1 ++ funct3 ++ rd ++ opcode

def iType (imm : BitVec 12) : U32 := imm ++ rs1 ++ funct3 ++ rd ++ opcode

def sType (imm : BitVec 12) : U32 :=
  imm.extractLsb' 5 7 ++ rs2 ++ rs1 ++ funct3 ++ imm.extractLsb' 0 5 ++ opcode

/-- A branch: its immediate is twice the offset. -/
def bType (offset : BitVec 12) : U32 :=
  (offset.extractLsb' 11 1 ++ offset.extractLsb' 4 6) ++ rs2 ++ rs1 ++ funct3 ++
    (offset.extractLsb' 0 4 ++ offset.extractLsb' 10 1) ++ opcode

def uType (imm : BitVec 20) : U32 := imm ++ rd ++ opcode

/-- A jump: its immediate is twice the offset. -/
def jType (offset : BitVec 20) : U32 :=
  offset.extractLsb' 19 1 ++ offset.extractLsb' 0 10 ++ offset.extractLsb' 10 1 ++
    offset.extractLsb' 11 8 ++ rd ++ opcode

end Formats

section Fields

variable (funct7 : BitVec 7) (rs2 rs1 : RegIndex) (funct3 : BitVec 3) (rd : RegIndex) (opcode : BitVec 7)

/-- Every word has six fields. -/
theorem exists_rType (raw : U32) :
    ∃ funct7 rs2 rs1 funct3 rd opcode, raw = rType funct7 rs2 rs1 funct3 rd opcode := by
  refine ⟨raw.extractLsb' 25 7, raw.extractLsb' 20 5, raw.extractLsb' 15 5, raw.extractLsb' 12 3,
    raw.extractLsb' 7 5, raw.extractLsb' 0 7, ?_⟩
  ext i hi
  simp only [rType]
  grind

/-- The slices of a word are its fields. -/
theorem slices_rType :
    let raw := rType funct7 rs2 rs1 funct3 rd opcode
    raw.extractLsb' 0 7 = opcode ∧ raw.extractLsb' 7 5 = rd ∧ raw.extractLsb' 12 3 = funct3 ∧
      raw.extractLsb' 15 5 = rs1 ∧ raw.extractLsb' 20 5 = rs2 ∧ raw.extractLsb' 25 7 = funct7 := by
  intro raw
  refine ⟨?_, ?_, ?_, ?_, ?_, ?_⟩ <;>
  · ext i hi
    simp only [raw, rType]
    grind

/-- A mask acts on every field. -/
theorem rType_and (funct7' : BitVec 7) (rs2' rs1' : RegIndex) (funct3' : BitVec 3) (rd' : RegIndex)
    (opcode' : BitVec 7) :
    rType funct7 rs2 rs1 funct3 rd opcode &&& rType funct7' rs2' rs1' funct3' rd' opcode' =
      rType (funct7 &&& funct7') (rs2 &&& rs2') (rs1 &&& rs1') (funct3 &&& funct3') (rd &&& rd')
        (opcode &&& opcode') := by
  ext i hi
  simp only [rType, BitVec.getElem_and, BitVec.getElem_append]
  grind

theorem opcode_rType :
    ((rType funct7 rs2 rs1 funct3 rd opcode &&& 0x7f).setWidth 8 : U8) = opcode.setWidth 8 := by
  have hfield := setWidth_field 8 (slices_rType funct7 rs2 rs1 funct3 rd opcode).1 rfl (by decide)
  rwa [BitVec.ushiftRight_zero] at hfield

theorem rd_rType :
    (((rType funct7 rs2 rs1 funct3 rd opcode >>> 7) &&& 0x1f).setWidth 5 : RegIndex) = rd :=
  (setWidth_field 5 (slices_rType funct7 rs2 rs1 funct3 rd opcode).2.1 rfl (by decide)).trans
    (BitVec.setWidth_eq _)

theorem funct3_rType :
    (((rType funct7 rs2 rs1 funct3 rd opcode >>> 12) &&& 0x7).setWidth 8 : U8) = funct3.setWidth 8 :=
  setWidth_field 8 (slices_rType funct7 rs2 rs1 funct3 rd opcode).2.2.1 rfl (by decide)

theorem rs1_rType :
    (((rType funct7 rs2 rs1 funct3 rd opcode >>> 15) &&& 0x1f).setWidth 5 : RegIndex) = rs1 :=
  (setWidth_field 5 (slices_rType funct7 rs2 rs1 funct3 rd opcode).2.2.2.1 rfl (by decide)).trans
    (BitVec.setWidth_eq _)

theorem rs2_rType :
    (((rType funct7 rs2 rs1 funct3 rd opcode >>> 20) &&& 0x1f).setWidth 5 : RegIndex) = rs2 :=
  (setWidth_field 5 (slices_rType funct7 rs2 rs1 funct3 rd opcode).2.2.2.2.1 rfl (by decide)).trans
    (BitVec.setWidth_eq _)

theorem funct7_rType :
    (((rType funct7 rs2 rs1 funct3 rd opcode >>> 25) &&& 0x7f).setWidth 8 : U8) = funct7.setWidth 8 :=
  setWidth_field 8 (slices_rType funct7 rs2 rs1 funct3 rd opcode).2.2.2.2.2 rfl (by decide)

/-- The number of a CSR. -/
theorem csr_rType :
    (((rType funct7 rs2 rs1 funct3 rd opcode >>> 20) &&& 0x0fff).setWidth 16 : U16) =
      (funct7 ++ rs2).setWidth 16 := by
  have hslice : (rType funct7 rs2 rs1 funct3 rd opcode).extractLsb' 20 12 = funct7 ++ rs2 := by
    ext i hi
    simp only [rType]
    grind
  exact setWidth_field 16 hslice rfl (by decide)

/-! ## Immediates -/

/-- The offset of a branch, from the two fields it is spread over. -/
def bOffset : BitVec 12 :=
  funct7.extractLsb' 6 1 ++ rd.extractLsb' 0 1 ++ funct7.extractLsb' 0 6 ++ rd.extractLsb' 1 4

/-- The immediate of a `lui` or `auipc`. -/
def uImmediate : BitVec 20 := funct7 ++ rs2 ++ rs1 ++ funct3

/-- The offset of a jump, from the four fields it is spread over. -/
def jOffset : BitVec 20 :=
  funct7.extractLsb' 6 1 ++ rs1 ++ funct3 ++ rs2.extractLsb' 0 1 ++ funct7.extractLsb' 0 6 ++
    rs2.extractLsb' 1 4

theorem iType_append : iType rs1 funct3 rd opcode (funct7 ++ rs2) =
    rType funct7 rs2 rs1 funct3 rd opcode := rfl

theorem sType_append : sType rs2 rs1 funct3 opcode (funct7 ++ rd) =
    rType funct7 rs2 rs1 funct3 rd opcode := by
  unfold sType rType
  rw [BitVec.extractLsb'_append_eq_left, BitVec.extractLsb'_append_eq_right]

theorem bType_bOffset : bType rs2 rs1 funct3 opcode (bOffset funct7 rd) =
    rType funct7 rs2 rs1 funct3 rd opcode := by
  have hhigh : (bOffset funct7 rd).extractLsb' 11 1 ++ (bOffset funct7 rd).extractLsb' 4 6 = funct7 := by
    ext i hi
    simp only [bOffset, BitVec.getElem_append, BitVec.getElem_extractLsb', BitVec.getLsbD_append,
      BitVec.getLsbD_extractLsb']
    grind
  have hlow : (bOffset funct7 rd).extractLsb' 0 4 ++ (bOffset funct7 rd).extractLsb' 10 1 = rd := by
    ext i hi
    simp only [bOffset, BitVec.getElem_append, BitVec.getElem_extractLsb', BitVec.getLsbD_append,
      BitVec.getLsbD_extractLsb']
    grind
  rw [bType, hhigh, hlow, rType]

theorem jType_jOffset : jType rd opcode (jOffset funct7 rs2 rs1 funct3) =
    rType funct7 rs2 rs1 funct3 rd opcode := by
  have hslices : (jOffset funct7 rs2 rs1 funct3).extractLsb' 19 1 = funct7.extractLsb' 6 1 ∧
      (jOffset funct7 rs2 rs1 funct3).extractLsb' 0 10 =
        funct7.extractLsb' 0 6 ++ rs2.extractLsb' 1 4 ∧
      (jOffset funct7 rs2 rs1 funct3).extractLsb' 10 1 = rs2.extractLsb' 0 1 ∧
      (jOffset funct7 rs2 rs1 funct3).extractLsb' 11 8 = rs1 ++ funct3 := by
    refine ⟨?_, ?_, ?_, ?_⟩ <;>
    · ext i hi
      simp only [jOffset, BitVec.getElem_extractLsb', BitVec.getLsbD_append,
        BitVec.getLsbD_extractLsb']
      grind
  rw [jType, hslices.1, hslices.2.1, hslices.2.2.1, hslices.2.2.2]
  ext i hi
  simp only [rType]
  grind

/-- An immediate of twelve bits is read from its two parts. -/
theorem append_slices (imm : BitVec 12) : imm.extractLsb' 5 7 ++ imm.extractLsb' 0 5 = imm := by
  ext i hi
  simp only [BitVec.getElem_append, BitVec.getElem_extractLsb']
  grind

/-- The offset of a branch is read from its two fields. -/
theorem bOffset_slices (offset : BitVec 12) :
    bOffset (offset.extractLsb' 11 1 ++ offset.extractLsb' 4 6)
      (offset.extractLsb' 0 4 ++ offset.extractLsb' 10 1) = offset := by
  ext i hi
  simp only [bOffset]
  grind

/-- The immediate of a `lui` or `auipc` is read from its four fields. -/
theorem uImmediate_slices (imm : BitVec 20) :
    uImmediate (imm.extractLsb' 13 7) (imm.extractLsb' 8 5) (imm.extractLsb' 3 5) (imm.extractLsb' 0 3) =
      imm := by
  ext i hi
  simp only [uImmediate]
  grind

/-- The offset of a jump is read from its four fields. -/
theorem jOffset_slices (offset : BitVec 20) :
    jOffset (offset.extractLsb' 19 1 ++ offset.extractLsb' 4 6)
      (offset.extractLsb' 0 4 ++ offset.extractLsb' 10 1) (offset.extractLsb' 14 5)
      (offset.extractLsb' 11 3) = offset := by
  ext i hi
  simp only [jOffset]
  grind

/-! ## What the decoder reads -/

variable {funct7 rs2 rs1 funct3 rd opcode}

theorem immI_rType : immI (rType funct7 rs2 rs1 funct3 rd opcode) = (funct7 ++ rs2).signExtend 32 := by
  have hslice : rType funct7 rs2 rs1 funct3 rd opcode >>> 20 = (funct7 ++ rs2).setWidth 32 := by
    ext i hi
    simp only [rType]
    grind
  rw [immI, hslice, signExtend_setWidth (by decide) (by decide)]

theorem immS_rType : immS (rType funct7 rs2 rs1 funct3 rd opcode) = (funct7 ++ rd).signExtend 32 := by
  obtain ⟨-, hrd, -, -, -, hfunct7⟩ := slices_rType funct7 rs2 rs1 funct3 rd opcode
  rw [immS, field_eq ((0x1f : Nat) : U32) hrd rfl, field_eq 0x7f hfunct7 rfl, or_shiftLeft,
    signExtend_setWidth (by decide) (by decide)]

theorem immB_rType :
    immB (rType funct7 rs2 rs1 funct3 rd opcode) = (bOffset funct7 rd ++ 0#1).signExtend 32 := by
  have hslices : (rType funct7 rs2 rs1 funct3 rd opcode).extractLsb' 8 4 = rd.extractLsb' 1 4 ∧
      (rType funct7 rs2 rs1 funct3 rd opcode).extractLsb' 25 6 = funct7.extractLsb' 0 6 ∧
      (rType funct7 rs2 rs1 funct3 rd opcode).extractLsb' 7 1 = rd.extractLsb' 0 1 ∧
      (rType funct7 rs2 rs1 funct3 rd opcode).extractLsb' 31 1 = funct7.extractLsb' 6 1 := by
    refine ⟨?_, ?_, ?_, ?_⟩ <;>
    · ext i hi
      simp only [rType]
      grind
  have hvalue : (rd.extractLsb' 1 4).setWidth 32 <<< 1 ||| (funct7.extractLsb' 0 6).setWidth 32 <<< 5 |||
      (rd.extractLsb' 0 1).setWidth 32 <<< 11 ||| (funct7.extractLsb' 6 1).setWidth 32 <<< 12 =
        (bOffset funct7 rd ++ 0#1).setWidth 32 := by
    refine (or_shiftLeft_four 1 (rd.extractLsb' 1 4) (funct7.extractLsb' 0 6) (rd.extractLsb' 0 1)
      (funct7.extractLsb' 6 1)).trans ?_
    ext i hi
    simp only [bOffset, BitVec.getElem_setWidth, BitVec.getLsbD_append]
    grind
  rw [immB, field_eq 0x0f hslices.1 rfl, field_eq 0x3f hslices.2.1 rfl, field_eq 0x01 hslices.2.2.1 rfl,
    field_eq 0x01 hslices.2.2.2 rfl, hvalue, signExtend_setWidth (by decide) (by decide)]

theorem immU_rType : immU (rType funct7 rs2 rs1 funct3 rd opcode) =
    uImmediate funct7 rs2 rs1 funct3 ++ 0#12 := by
  have hmask : (0xfffff000 : U32) = BitVec.allOnes 20 ++ 0#12 := rfl
  have hraw : rType funct7 rs2 rs1 funct3 rd opcode = uImmediate funct7 rs2 rs1 funct3 ++ (rd ++ opcode) := by
    ext i hi
    simp only [rType, uImmediate]
    grind
  rw [immU, hmask, hraw, BitVec.and_append, BitVec.and_allOnes, BitVec.and_zero]

theorem immJ_rType : immJ (rType funct7 rs2 rs1 funct3 rd opcode) =
    (jOffset funct7 rs2 rs1 funct3 ++ 0#1).signExtend 32 := by
  have hslices : (rType funct7 rs2 rs1 funct3 rd opcode).extractLsb' 21 10 =
        funct7.extractLsb' 0 6 ++ rs2.extractLsb' 1 4 ∧
      (rType funct7 rs2 rs1 funct3 rd opcode).extractLsb' 20 1 = rs2.extractLsb' 0 1 ∧
      (rType funct7 rs2 rs1 funct3 rd opcode).extractLsb' 12 8 = rs1 ++ funct3 ∧
      (rType funct7 rs2 rs1 funct3 rd opcode).extractLsb' 31 1 = funct7.extractLsb' 6 1 := by
    refine ⟨?_, ?_, ?_, ?_⟩ <;>
    · ext i hi
      simp only [rType]
      grind
  have hvalue : (funct7.extractLsb' 0 6 ++ rs2.extractLsb' 1 4).setWidth 32 <<< 1 |||
      (rs2.extractLsb' 0 1).setWidth 32 <<< 11 ||| (rs1 ++ funct3).setWidth 32 <<< 12 |||
      (funct7.extractLsb' 6 1).setWidth 32 <<< 20 =
        (jOffset funct7 rs2 rs1 funct3 ++ 0#1).setWidth 32 := by
    refine (or_shiftLeft_four 1 (funct7.extractLsb' 0 6 ++ rs2.extractLsb' 1 4) (rs2.extractLsb' 0 1)
      (rs1 ++ funct3) (funct7.extractLsb' 6 1)).trans ?_
    ext i hi
    simp only [jOffset, BitVec.getElem_setWidth, BitVec.getLsbD_append]
    grind
  rw [immJ, field_eq 0x03ff hslices.1 rfl, field_eq 0x0001 hslices.2.1 rfl, field_eq 0x00ff hslices.2.2.1 rfl,
    field_eq 0x0001 hslices.2.2.2 rfl, hvalue, signExtend_setWidth (by decide) (by decide)]

end Fields

end RvSim
