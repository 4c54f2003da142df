import RvSim.Devices.Dram
import RvSim.Devices.Ram
import RvSim.System.FlatMemory
import RvSim.System.MemoryMap

/-!
# Devices that are memories

A device that holds bytes: it answers a load of an address at which it has one, and takes a store there.

## Main definitions

* `MemoryDevice`: the bytes of a device
* `MemoryDevice.Agrees`: the bytes are those of a memory

## Main results

* `MemoryDevice.loadBytesFrom_eq`, `MemoryDevice.storeBytesFrom_eq`: accesses of several bytes
* instances for the RAM, the DRAM and the latency adapter
-/

namespace RvSim

/-- A device that holds bytes at some of its addresses. -/
class MemoryDevice (D : Type) [Addressable D] where
  byte : D → Address → Option U8
  load8 {device : D} {addr : Address} {value : U8} : byte device addr = some value →
    (Addressable.load8 device addr).1 = .ok value ∧ byte (Addressable.load8 device addr).2 = byte device
  store8 {device : D} {addr : Address} (value : U8) : (byte device addr).isSome →
    (Addressable.store8 device addr value).1 = .ok () ∧
      byte (Addressable.store8 device addr value).2 = Function.update (byte device) addr (some value)
  tick (device : D) : byte (Addressable.tick device) = byte device
  latencyAsked (device : D) (addr : Address) (kind : AccessKind) (width : Nat) :
    byte (Addressable.latencyAsked device addr kind width) = byte device

namespace MemoryDevice

variable {D : Type} [Addressable D] [MemoryDevice D] {mapped : Address → Bool} {contents : ByteMemory}
  {device : D}

/-- The bytes of the device are those of a memory, where it is mapped. -/
def Agrees (mapped : Address → Bool) (contents : ByteMemory) (device : D) : Prop :=
  ∀ a, mapped a = true → byte device a = some (contents a)

theorem Agrees.congr {device' : D} (h : Agrees mapped contents device) (hbyte : byte device' = byte device) :
    Agrees mapped contents device' := fun a ha => (congrFun hbyte a).trans (h a ha)

/-- A load of bytes that are mapped. -/
theorem loadBytesFrom_eq (h : Agrees mapped contents device) (addr : Address) (offset count : Nat)
    (hmapped : ∀ i, offset ≤ i → i < offset + count → mapped (addr + BitVec.ofNat 64 i) = true) :
    ∃ device', MemoryMap.loadBytesFrom device addr offset count =
        (.ok ((List.range' offset count).map fun i => contents (addr + BitVec.ofNat 64 i)), device') ∧
      Agrees mapped contents device' := by
  induction count generalizing device offset with
  | zero => exact ⟨device, rfl, h⟩
  | succ count ih =>
    obtain ⟨hload, hbyte⟩ := load8 (h _ (hmapped offset le_rfl (by omega)))
    obtain ⟨device', hrest, hagrees⟩ := ih (h.congr hbyte) (offset + 1)
      fun i hle hlt => hmapped i (by omega) (by omega)
    refine ⟨device', ?_, hagrees⟩
    unfold MemoryMap.loadBytesFrom
    generalize Addressable.load8 device (addr + BitVec.ofNat 64 offset) = out at hload hrest
    obtain ⟨answer, after⟩ := out
    obtain rfl := hload
    dsimp only at hrest ⊢
    rw [hrest]
    rfl

/-- A store of bytes that are mapped: the bytes in front of an offset are stored already. -/
theorem storeBytesFrom_eq {addr : Address} {value : U32} (bytes : List U8) (offset : Nat)
    (h : Agrees mapped (contents.store ⟨addr, offset, value⟩) device)
    (hbytes : ∀ i (hi : i < bytes.length), (toLeBytes value)[offset + i]? = some bytes[i])
    (hmapped : ∀ i, offset ≤ i → i < offset + bytes.length →
      mapped (addr + BitVec.ofNat 64 i) = true) :
    ∃ device', MemoryMap.storeBytesFrom device addr offset bytes = (.ok (), device') ∧
      Agrees mapped (contents.store ⟨addr, offset + bytes.length, value⟩) device' := by
  induction bytes generalizing device offset with
  | nil => exact ⟨device, rfl, h⟩
  | cons byte bytes ih =>
    have hhere := hmapped offset le_rfl (Nat.lt_add_of_pos_right (Nat.succ_pos _))
    have hheld : (MemoryDevice.byte device (addr + BitVec.ofNat 64 offset)).isSome = true := by
      rw [h _ hhere]
      rfl
    obtain ⟨hstore, hbyte⟩ := store8 byte hheld
    have hfirst : (toLeBytes value)[offset]? = some byte := hbytes 0 (Nat.succ_pos _)
    have hoffset : offset < 4 := by
      by_contra hge
      rw [Vector.getElem?_eq_none (by omega)] at hfirst
      cases hfirst
    -- one more byte of the value is in the memory
    have hagrees : Agrees mapped (contents.store ⟨addr, offset + 1, value⟩)
        (Addressable.store8 device (addr + BitVec.ofNat 64 offset) byte).2 := by
      intro a ha
      rw [hbyte, ByteMemory.store_succ _ _ hoffset, hfirst]
      by_cases heq : a = addr + BitVec.ofNat 64 offset
      · rw [heq, Function.update_self, Function.update_self, Option.getD_some]
      · rw [Function.update_of_ne heq, Function.update_of_ne heq]
        exact h a ha
    obtain ⟨device', hrest, hagrees'⟩ := ih (offset + 1) hagrees
      (fun i hi => by
        have hnext := hbytes (i + 1) (Nat.succ_lt_succ hi)
        rwa [show offset + (i + 1) = offset + 1 + i by omega] at hnext)
      fun i hle hlt => hmapped i (by omega) (by rw [List.length_cons]; omega)
    refine ⟨device', ?_, ?_⟩
    · unfold MemoryMap.storeBytesFrom
      generalize Addressable.store8 device (addr + BitVec.ofNat 64 offset) byte = out at hstore hrest
      obtain ⟨answer, after⟩ := out
      obtain rfl := hstore
      exact hrest
    · rwa [List.length_cons, show offset + (bytes.length + 1) = offset + 1 + bytes.length by omega]

end MemoryDevice

/-! ## The memories -/

/-- The byte at an address of a range. -/
def AddressRange.byte (range : AddressRange) (data : List U8) (addr : Address) : Option U8 :=
  if range.contains addr then data[(addr - range.start).toNat]? else none

theorem AddressRange.lt_of_byte {range : AddressRange} {data : List U8} {addr : Address}
    (h : (range.byte data addr).isSome) :
    range.contains addr = true ∧ (addr - range.start).toNat < data.length := by
  unfold byte at h
  split at h
  · rename_i hcontains
    obtain ⟨value, hvalue⟩ := Option.isSome_iff_exists.1 h
    exact ⟨hcontains, (List.getElem?_eq_some_iff.1 hvalue).1⟩
  · cases h

/-- The bytes behind a store to one of them. -/
theorem AddressRange.byte_set {range : AddressRange} {data : List U8} {addr : Address}
    (h : (range.byte data addr).isSome) (value : U8) :
    range.byte (data.set (addr - range.start).toNat value) =
      Function.update (range.byte data) addr (some value) := by
  obtain ⟨hcontains, hlt⟩ := lt_of_byte h
  funext a
  by_cases heq : a = addr
  · subst heq
    rw [Function.update_self]
    unfold byte
    rw [if_pos hcontains, List.getElem?_set_self hlt]
  · rw [Function.update_of_ne heq]
    unfold byte
    split
    · refine List.getElem?_set_ne fun hsame => heq ?_
      have hoffset := BitVec.eq_of_toNat_eq hsame
      rw [← BitVec.sub_add_cancel addr range.start, hoffset, BitVec.sub_add_cancel]
    · rfl

instance : MemoryDevice Ram where
  byte ram := ram.range.byte ram.data
  load8 {ram addr value} h := by
    have hload : ram.load8 addr = (.ok value, ram) := by
      unfold Ram.load8 Ram.offset
      unfold AddressRange.byte at h
      split at h
      · rename_i hcontains
        rw [if_pos hcontains]
        dsimp only
        rw [h]
      · cases h
    have hafter : Addressable.load8 ram addr = (.ok value, ram) := hload
    rw [hafter]
    exact ⟨rfl, rfl⟩
  store8 {ram addr} value h := by
    obtain ⟨hcontains, hlt⟩ := AddressRange.lt_of_byte h
    have hstore : Addressable.store8 ram addr value =
        (.ok (), { ram with data := ram.data.set (addr - ram.range.start).toNat value }) := by
      show ram.store8 addr value = _
      unfold Ram.store8 Ram.offset
      rw [if_pos hcontains]
      exact if_pos hlt
    rw [hstore]
    exact ⟨rfl, AddressRange.byte_set h value⟩
  tick _ := rfl
  latencyAsked _ _ _ _ := rfl

theorem Dram.commitPendingAccess_data (dram : Dram) (addr : Address) :
    (dram.commitPendingAccess addr).range = dram.range ∧
      (dram.commitPendingAccess addr).data = dram.data := by
  unfold commitPendingAccess
  repeat' split
  all_goals exact ⟨rfl, rfl⟩

instance : MemoryDevice Dram where
  byte dram := dram.range.byte dram.data
  load8 {dram addr value} h := by
    obtain ⟨hrange, hdata⟩ := dram.commitPendingAccess_data addr
    have hafter : Addressable.load8 dram addr = (.ok value, dram.commitPendingAccess addr) := by
      show dram.load8 addr = _
      unfold Dram.load8 Dram.offset
      dsimp only
      unfold AddressRange.byte at h
      rw [hrange, hdata]
      split at h
      · rename_i hcontains
        rw [if_pos hcontains]
        dsimp only
        rw [h]
      · cases h
    rw [hafter]
    refine ⟨rfl, ?_⟩
    dsimp only
    rw [hrange, hdata]
  store8 {dram addr} value h := by
    obtain ⟨hrange, hdata⟩ := dram.commitPendingAccess_data addr
    obtain ⟨hcontains, hlt⟩ := AddressRange.lt_of_byte h
    have hstore : Addressable.store8 dram addr value =
        (.ok (), { dram.commitPendingAccess addr with
          data := dram.data.set (addr - dram.range.start).toNat value }) := by
      show dram.store8 addr value = _
      unfold Dram.store8 Dram.offset
      dsimp only
      rw [hrange, hdata, if_pos hcontains]
      exact if_pos hlt
    rw [hstore]
    refine ⟨rfl, ?_⟩
    dsimp only
    rw [hrange]
    exact AddressRange.byte_set h value
  tick _ := rfl
  latencyAsked _ _ _ _ := rfl

instance {D : Type} [Addressable D] [MemoryDevice D] : MemoryDevice (LatencyAdapter D) where
  byte adapter := MemoryDevice.byte adapter.inner
  load8 h := MemoryDevice.load8 (D := D) h
  store8 value h := MemoryDevice.store8 (D := D) value h
  tick adapter := MemoryDevice.tick adapter.inner
  latencyAsked _ _ _ _ := rfl

end RvSim
