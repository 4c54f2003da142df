import RvSim.State.CsrFile

/-!
# The fields of the status word

Trap entry, trap return and the writes of `mstatus` and `sstatus` each set some of the fields and leave
the others.

## Main definitions

* `StatusFields`, `statusFields`: the fields that traps and returns use

## Main results

* `CsrFile.status_enterMachineTrap`, `CsrFile.status_enterSupervisorTrap`: the fields at entry
* `CsrFile.status_returnFromMachineTrap`, `CsrFile.status_returnFromSupervisorTrap`: at return
-/

namespace RvSim

/-! ## Masks of a word -/

section Masks

variable {value mask other bits : U32}

theorem clear_and_of_disjoint (h : mask &&& other = 0) :
    value &&& ~~~mask &&& other = value &&& other := by
  ext i hi
  have hbit : (mask &&& other)[i] = false := by rw [h]; simp
  rw [BitVec.getElem_and] at hbit
  rw [BitVec.getElem_and, BitVec.getElem_and, BitVec.getElem_and, BitVec.getElem_not]
  cases hmask : mask[i] <;> cases hother : other[i] <;> simp_all

theorem or_and_of_disjoint (h : bits &&& other = 0) : (value ||| bits) &&& other = value &&& other := by
  ext i hi
  have hbit : (bits &&& other)[i] = false := by rw [h]; simp
  rw [BitVec.getElem_and] at hbit
  rw [BitVec.getElem_and, BitVec.getElem_or, BitVec.getElem_and]
  cases hbits : bits[i] <;> cases hother : other[i] <;> simp_all

/-- Setting a flag leaves the other fields. -/
theorem setFlag_and_of_disjoint (h : mask &&& other = 0) (enabled : Bool) :
    setFlag value mask enabled &&& other = value &&& other := by
  cases enabled
  · exact clear_and_of_disjoint h
  · exact or_and_of_disjoint h

theorem replace_and_of_disjoint (hmask : mask &&& other = 0) (hbits : bits &&& other = 0) :
    (value &&& ~~~mask ||| bits) &&& other = value &&& other := by
  rw [or_and_of_disjoint hbits, clear_and_of_disjoint hmask]

/-- A field inside the mask is read from the word that is merged in. -/
theorem merge_and_of_subset (h : other &&& mask = other) :
    (value &&& ~~~mask ||| bits &&& mask) &&& other = bits &&& other := by
  ext i hi
  have hbit : (other &&& mask)[i] = other[i] := congrArg (·[i]) h
  rw [BitVec.getElem_and] at hbit
  rw [BitVec.getElem_and, BitVec.getElem_or, BitVec.getElem_and, BitVec.getElem_and,
    BitVec.getElem_and, BitVec.getElem_not]
  cases hmask : mask[i] <;> cases hother : other[i] <;> simp_all

theorem merge_and_of_disjoint (h : mask &&& other = 0) :
    (value &&& ~~~mask ||| bits &&& mask) &&& other = value &&& other := by
  refine replace_and_of_disjoint h ?_
  rw [BitVec.and_assoc, h]
  exact BitVec.and_zero

end Masks

/-! ## The fields -/

/-- The fields of the status word that traps and returns use. -/
@[ext] structure StatusFields where
  mie : Bool
  sie : Bool
  mpie : Bool
  spie : Bool
  spp : Bool
  mpp : PrivilegeMode
  deriving DecidableEq

def statusFields (mstatus : U32) : StatusFields where
  mie := (mstatus &&& mstatusMie) != 0
  sie := (mstatus &&& mstatusSie) != 0
  mpie := (mstatus &&& mstatusMpie) != 0
  spie := (mstatus &&& mstatusSpie) != 0
  spp := (mstatus &&& mstatusSpp) != 0
  mpp := privilegeFromBits ((mstatus &&& mstatusMppMask) >>> mstatusMppShift)

/-- `MPP` names the mode it was set to. -/
theorem privilegeFromBits_privilegeBits (mode : PrivilegeMode) :
    privilegeFromBits (privilegeBits mode >>> mstatusMppShift) = mode := by
  cases mode <;> decide

theorem privilegeBits_and (mode : PrivilegeMode) :
    privilegeBits mode &&& mstatusMppMask = privilegeBits mode := by
  cases mode <;> decide

theorem privilegeBits_disjoint (mode : PrivilegeMode) {other : U32} (h : mstatusMppMask &&& other = 0) :
    privilegeBits mode &&& other = 0 := by
  rw [← privilegeBits_and, BitVec.and_assoc, h]
  exact BitVec.and_zero

namespace CsrFile

variable (csrs : CsrFile)

theorem status_enterMachineTrap (trap : Trap) (pc : U32) (mode : PrivilegeMode) :
    statusFields (csrs.enterMachineTrap trap pc mode).2.machine.mstatus =
      { statusFields csrs.machine.mstatus with
        mie := false, mpie := (statusFields csrs.machine.mstatus).mie, mpp := mode } := by
  have hdisjoint {other : U32} (h : mstatusMppMask &&& other = 0) := privilegeBits_disjoint mode h
  simp only [enterMachineTrap, statusFields, replace_and_mask (privilegeBits_and mode),
    privilegeFromBits_privilegeBits, StatusFields.mk.injEq, and_true]
  refine ⟨?_, ?_, ?_, ?_, ?_⟩
  · rw [replace_and_of_disjoint (by decide) (hdisjoint (by decide)), clear_and_self]
    rfl
  · rw [replace_and_of_disjoint (by decide) (hdisjoint (by decide)), clear_and_of_disjoint (by decide),
      setFlag_and_of_disjoint (by decide)]
  · rw [replace_and_of_disjoint (by decide) (hdisjoint (by decide)), clear_and_of_disjoint (by decide),
      setFlag_test (by decide)]
  · rw [replace_and_of_disjoint (by decide) (hdisjoint (by decide)), clear_and_of_disjoint (by decide),
      setFlag_and_of_disjoint (by decide)]
  · rw [replace_and_of_disjoint (by decide) (hdisjoint (by decide)), clear_and_of_disjoint (by decide),
      setFlag_and_of_disjoint (by decide)]

theorem status_enterSupervisorTrap (trap : Trap) (pc : U32) (mode : PrivilegeMode) :
    statusFields (csrs.enterSupervisorTrap trap pc mode).2.machine.mstatus =
      { statusFields csrs.machine.mstatus with
        sie := false, spie := (statusFields csrs.machine.mstatus).sie, spp := mode == .supervisor } := by
  simp only [enterSupervisorTrap, statusFields, StatusFields.mk.injEq]
  refine ⟨?_, ?_, ?_, ?_, ?_, ?_⟩
  · rw [setFlag_and_of_disjoint (by decide), clear_and_of_disjoint (by decide),
      setFlag_and_of_disjoint (by decide)]
  · rw [setFlag_and_of_disjoint (by decide), clear_and_self]
    rfl
  · rw [setFlag_and_of_disjoint (by decide), clear_and_of_disjoint (by decide),
      setFlag_and_of_disjoint (by decide)]
  · rw [setFlag_and_of_disjoint (by decide), clear_and_of_disjoint (by decide),
      setFlag_test (by decide)]
  · rw [setFlag_test (by decide)]
  · rw [setFlag_and_of_disjoint (by decide), clear_and_of_disjoint (by decide),
      setFlag_and_of_disjoint (by decide)]

theorem status_returnFromMachineTrap :
    statusFields csrs.returnFromMachineTrap.2.2.machine.mstatus =
      { statusFields csrs.machine.mstatus with
        mie := (statusFields csrs.machine.mstatus).mpie, mpie := true, mpp := .user } := by
  simp only [returnFromMachineTrap, statusFields, StatusFields.mk.injEq]
  refine ⟨?_, ?_, ?_, ?_, ?_, ?_⟩
  · rw [clear_and_of_disjoint (by decide), or_and_of_disjoint (by decide), setFlag_test (by decide)]
  · rw [clear_and_of_disjoint (by decide), or_and_of_disjoint (by decide),
      setFlag_and_of_disjoint (by decide)]
  · rw [clear_and_of_disjoint (by decide)]
    exact setFlag_test (by decide) _ true
  · rw [clear_and_of_disjoint (by decide), or_and_of_disjoint (by decide),
      setFlag_and_of_disjoint (by decide)]
  · rw [clear_and_of_disjoint (by decide), or_and_of_disjoint (by decide),
      setFlag_and_of_disjoint (by decide)]
  · rw [clear_and_self]
    rfl

theorem status_returnFromSupervisorTrap :
    statusFields csrs.returnFromSupervisorTrap.2.2.machine.mstatus =
      { statusFields csrs.machine.mstatus with
        sie := (statusFields csrs.machine.mstatus).spie, spie := true, spp := false } := by
  simp only [returnFromSupervisorTrap, statusFields, StatusFields.mk.injEq]
  refine ⟨?_, ?_, ?_, ?_, ?_, ?_⟩
  · rw [clear_and_of_disjoint (by decide), or_and_of_disjoint (by decide),
      setFlag_and_of_disjoint (by decide)]
  · rw [clear_and_of_disjoint (by decide), or_and_of_disjoint (by decide), setFlag_test (by decide)]
  · rw [clear_and_of_disjoint (by decide), or_and_of_disjoint (by decide),
      setFlag_and_of_disjoint (by decide)]
  · rw [clear_and_of_disjoint (by decide)]
    exact setFlag_test (by decide) _ true
  · rw [clear_and_self]
    rfl
  · rw [clear_and_of_disjoint (by decide), or_and_of_disjoint (by decide),
      setFlag_and_of_disjoint (by decide)]

/-- A write of `sstatus` sets the supervisor's fields and no others. -/
theorem status_write_sstatus (value : U32) :
    statusFields (csrs.write .sstatus value).machine.mstatus =
      { statusFields csrs.machine.mstatus with
        sie := (statusFields value).sie, spie := (statusFields value).spie,
        spp := (statusFields value).spp } := by
  simp only [write, statusFields, StatusFields.mk.injEq]
  refine ⟨?_, ?_, ?_, ?_, ?_, ?_⟩
  · rw [merge_and_of_disjoint (by decide)]
  · rw [merge_and_of_subset (by decide)]
  · rw [merge_and_of_disjoint (by decide)]
  · rw [merge_and_of_subset (by decide)]
  · rw [merge_and_of_subset (by decide)]
  · rw [merge_and_of_disjoint (by decide)]

/-- The supervisor's fields can be read from `sstatus`. -/
theorem status_read_sstatus :
    (statusFields (csrs.read .sstatus)).spie = (statusFields csrs.machine.mstatus).spie ∧
      (statusFields (csrs.read .sstatus)).spp = (statusFields csrs.machine.mstatus).spp := by
  simp only [read, statusFields, BitVec.and_assoc]
  exact ⟨rfl, rfl⟩

end CsrFile

end RvSim
