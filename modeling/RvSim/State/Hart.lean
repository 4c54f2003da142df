import RvSim.State.CsrFile

/-!
# Architectural state

The register file with `x0` fixed at zero, and the hart state the two cores share.

## Main definitions

* `RegisterFile`: thirty-two words, `x0` zero by construction
* `HartState`: pc, registers, CSRs, privilege mode and the halted flag

## Main results

* `RegisterFile.read_zero`, `RegisterFile.read_write_same`, `RegisterFile.read_write_ne`
-/

namespace RvSim

/-- Integer register file for RV32I; no write can change `x0`. -/
structure RegisterFile where
  regs : Vector U32 32
  x0 : regs[0] = 0
  deriving DecidableEq

namespace RegisterFile

def read (registers : RegisterFile) (index : RegIndex) : U32 :=
  have : index.toNat < 32 := index.isLt
  registers.regs[index.toNat]

def write (registers : RegisterFile) (index : RegIndex) (value : U32) : RegisterFile :=
  if h : index ≠ 0 then
    { regs := registers.regs.set index.toNat value index.isLt
      x0 := by
        have hne : index.toNat ≠ 0 := fun hz => h (BitVec.eq_of_toNat_eq hz)
        rw [Vector.getElem_set_ne _ _ hne]
        exact registers.x0 }
  else registers

/-- `RegisterFile::default`. -/
def zeroed : RegisterFile where
  regs := Vector.replicate 32 0
  x0 := by simp

@[simp] theorem read_zero (registers : RegisterFile) : registers.read 0#5 = 0 := registers.x0

@[simp] theorem write_zero (registers : RegisterFile) (value : U32) :
    registers.write 0#5 value = registers := by simp [write]

theorem read_write_same (registers : RegisterFile) {index : RegIndex} (value : U32)
    (h : index ≠ 0) : (registers.write index value).read index = value := by
  simp only [write, read, dif_pos h, Vector.getElem_set_self]

theorem read_write_ne (registers : RegisterFile) {index other : RegIndex} (value : U32)
    (h : other ≠ index) : (registers.write index value).read other = registers.read other := by
  have hne : index.toNat ≠ other.toNat := fun e => h (BitVec.eq_of_toNat_eq e.symm)
  by_cases h0 : index = 0
  · subst h0
    exact congrArg (read · other) (registers.write_zero value)
  · simp only [write, read, dif_pos (show index ≠ 0 from h0), Vector.getElem_set_ne _ _ hne]

end RegisterFile

/-- Architectural state visible at instruction boundaries. -/
structure HartState where
  resetVector : U32
  pc : U32
  registers : RegisterFile
  csrs : CsrFile
  privilege : PrivilegeMode
  halted : Bool
  deriving DecidableEq

namespace HartState

/-- `HartState::new`, which `reset` repeats. -/
def new (resetVector : U32) : HartState where
  resetVector := resetVector
  pc := resetVector
  registers := .zeroed
  csrs := (({} : CsrFile).write .mtvec resetVector).write .stvec resetVector
  privilege := .machine
  halted := false

end HartState

end RvSim
