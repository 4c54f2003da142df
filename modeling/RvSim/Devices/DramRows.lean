import RvSim.Devices.Dram
import RvSim.Devices.Layout
import RvSim.System.DeviceRelation

/-!
# The open row of the DRAM

A DRAM should keep the row of the last completed access open, and charge each access by it. A latency query
overwrites the note of the query before it, so this takes that nothing else is asked of the DRAM between the
query of an access and the access.

## Main definitions

* `RowEvent`, `rowLog`: the queries and accesses of a DRAM in a run of the memory map
* `Dram.RowsKept`: the rows and charges are those of the completed accesses
* `Dram.Undisturbed`: the DRAM was last asked for the access that it performs

## Main results

* `dram_run`: an undisturbed DRAM keeps its rows
* `dram_queries_overlap`: two transactions in flight lose a row
-/

namespace RvSim

/-! ## What happens to a DRAM -/

/-- A latency query with its answer, or an access with the rows that it leaves. -/
inductive RowEvent
  | asked (addr : Address) (width : Nat) (latency : U32)
  | performed (addr : Address) (width : Nat) (succeeded : Bool) (openRow : Option U64)
      (nextBurstAddr : Option Address)
  deriving DecidableEq, Repr

/-- The access that the DRAM was last asked for. -/
def lastAsked (log : List RowEvent) : Option (Address × Nat) :=
  (log.filterMap fun
    | .asked addr width _ => some (addr, width)
    | _ => none).getLast?

/-- The access that was completed last. -/
def lastCompleted (log : List RowEvent) : Option (Address × Nat) :=
  (log.filterMap fun
    | .performed addr width true _ _ => some (addr, width)
    | _ => none).getLast?

section Logs

variable (log : List RowEvent) (addr : Address) (width : Nat)

@[simp] theorem lastAsked_asked (latency : U32) :
    lastAsked (log ++ [.asked addr width latency]) = some (addr, width) := by
  simp [lastAsked]

@[simp] theorem lastCompleted_asked (latency : U32) :
    lastCompleted (log ++ [.asked addr width latency]) = lastCompleted log := by
  simp [lastCompleted]

@[simp] theorem lastAsked_performed (succeeded : Bool) (openRow : Option U64)
    (nextBurstAddr : Option Address) :
    lastAsked (log ++ [.performed addr width succeeded openRow nextBurstAddr]) = lastAsked log := by
  simp [lastAsked]

@[simp] theorem lastCompleted_performed (openRow : Option U64) (nextBurstAddr : Option Address) :
    lastCompleted (log ++ [.performed addr width true openRow nextBurstAddr]) = some (addr, width) := by
  simp [lastCompleted]

end Logs

namespace DeviceTransfer

/-- The number of bytes. -/
def width : DeviceTransfer → Nat
  | load count => count
  | store bytes => bytes.length
  | unsupported => 0

end DeviceTransfer

namespace AccessAnswer

def succeeded : AccessAnswer → Bool
  | transaction answer => answer.isOk
  | beat answer => answer.isOk

end AccessAnswer

section Log

variable {E : Type} {n : Nat} [Addressable E]

/-- The rows of a device that is a DRAM. -/
def rowsOf : Dram ⊕ E → Option U64 × Option Address
  | .inl dram => (dram.openRow, dram.nextBurstAddr)
  | .inr _ => (none, none)

/-- The monitor of a DRAM. An access that is not supported does not reach it. -/
def rowMonitor (index : Fin n) : Monitor (Dram ⊕ E) n RowEvent where
  asked map access :=
    if access.deviceIndex = index then [.asked access.addr access.width (access.latency map)] else []
  performed map access :=
    if access.deviceIndex = index ∧ access.transfer.width ≠ 0 then
      let out := access.perform map
      [.performed access.addr access.width out.1.succeeded (rowsOf (out.2.device index)).1
        (rowsOf (out.2.device index)).2]
    else []
  ticked _ := []

/-- What has happened to the device at an index. -/
def rowLog (index : Fin n) (devices : Vector (DeviceSlot (Dram ⊕ E)) n) (ops : List MapOp) :
    List RowEvent :=
  (Automata.run (rowMonitor index).apply ⟨MemoryMap.fresh devices, []⟩ ops).log

end Log

/-! ## What the rows should be -/

namespace Dram

variable (dram : Dram)

/-- The address behind an access is in the row of the access. -/
def Continues (addr : Address) (width : Nat) : Prop :=
  addr.toNat + width < 2 ^ 64 ∧ dram.rowIndex (addr + BitVec.ofNat 64 width) = dram.rowIndex addr

/-- The latency of an access behind the last completed one. -/
def latencyAfter (last : Option (Address × Nat)) (addr : Address) : U32 :=
  match last with
  | none => dram.config.rowMissLatency
  | some (start, width) =>
    if dram.rowIndex start = dram.rowIndex addr then
      if addr.toNat = start.toNat + width then dram.config.burstLatency else dram.config.rowHitLatency
    else dram.config.rowMissLatency

/-- After each completed access its row is open, and the address behind it is noted where the row goes on.
Each access is charged by the completed ones. -/
structure RowsKept (log : List RowEvent) : Prop where
  rows : ∀ past addr width openRow nextBurstAddr,
    past ++ [.performed addr width true openRow nextBurstAddr] <+: log →
      openRow = some (dram.rowIndex addr) ∧
        (dram.Continues addr width → nextBurstAddr = some (addr + BitVec.ofNat 64 width))
  charges : ∀ past addr width latency, past ++ [.asked addr width latency] <+: log →
    latency = dram.latencyAfter (lastCompleted past) addr

/-- Every access that reaches the DRAM lies within it, and is the one that the DRAM was last asked for. -/
def Undisturbed (log : List RowEvent) : Prop :=
  ∀ past addr width succeeded openRow nextBurstAddr,
    past ++ [.performed addr width succeeded openRow nextBurstAddr] <+: log →
      lastAsked past = some (addr, width) ∧
        ∀ i < width, dram.range.contains (addr + BitVec.ofNat 64 i) = true

variable {dram} {log : List RowEvent} {event : RowEvent}

theorem Undisturbed.of_append (h : dram.Undisturbed (log ++ [event])) : dram.Undisturbed log :=
  fun past addr width succeeded openRow nextBurstAddr hpast =>
    h past addr width succeeded openRow nextBurstAddr (hpast.trans (List.prefix_append _ _))

theorem undisturbed_nil : dram.Undisturbed [] := by
  intro past addr width succeeded openRow nextBurstAddr hpast
  exact absurd (List.prefix_nil.1 hpast) (by simp)

theorem Undisturbed.asked (h : dram.Undisturbed log) (addr : Address) (width : Nat) (latency : U32) :
    dram.Undisturbed (log ++ [.asked addr width latency]) := by
  intro past addr' width' succeeded openRow nextBurstAddr hpast
  rcases List.prefix_concat_iff.1 hpast with heq | hold
  · cases (List.append_inj' heq rfl).2
  · exact h past addr' width' succeeded openRow nextBurstAddr hold

theorem Undisturbed.performed (h : dram.Undisturbed log) {addr : Address} {width : Nat}
    (hasked : lastAsked log = some (addr, width))
    (hin : ∀ i < width, dram.range.contains (addr + BitVec.ofNat 64 i) = true) (succeeded : Bool)
    (openRow : Option U64) (nextBurstAddr : Option Address) :
    dram.Undisturbed (log ++ [.performed addr width succeeded openRow nextBurstAddr]) := by
  intro past addr' width' succeeded' openRow' nextBurstAddr' hpast
  rcases List.prefix_concat_iff.1 hpast with heq | hold
  · obtain ⟨rfl, hevent⟩ := List.append_inj' heq rfl
    cases hevent
    exact ⟨hasked, hin⟩
  · exact h past addr' width' succeeded' openRow' nextBurstAddr' hold

theorem RowsKept.asked (h : dram.RowsKept log) (addr : Address) (width : Nat) {latency : U32}
    (hlatency : latency = dram.latencyAfter (lastCompleted log) addr) :
    dram.RowsKept (log ++ [.asked addr width latency]) where
  rows past addr' width' openRow nextBurstAddr hpast := by
    rcases List.prefix_concat_iff.1 hpast with heq | hold
    · cases (List.append_inj' heq rfl).2
    · exact h.rows past addr' width' openRow nextBurstAddr hold
  charges past addr' width' latency' hpast := by
    rcases List.prefix_concat_iff.1 hpast with heq | hold
    · obtain ⟨rfl, hevent⟩ := List.append_inj' heq rfl
      cases hevent
      exact hlatency
    · exact h.charges past addr' width' latency' hold

theorem RowsKept.performed (h : dram.RowsKept log) (addr : Address) (width : Nat) (succeeded : Bool)
    {openRow : Option U64} {nextBurstAddr : Option Address} (hopen : openRow = some (dram.rowIndex addr))
    (hnext : dram.Continues addr width → nextBurstAddr = some (addr + BitVec.ofNat 64 width)) :
    dram.RowsKept (log ++ [.performed addr width succeeded openRow nextBurstAddr]) where
  rows past addr' width' openRow' nextBurstAddr' hpast := by
    rcases List.prefix_concat_iff.1 hpast with heq | hold
    · obtain ⟨rfl, hevent⟩ := List.append_inj' heq rfl
      cases hevent
      exact ⟨hopen, hnext⟩
    · exact h.rows past addr' width' openRow' nextBurstAddr' hold
  charges past addr' width' latency' hpast := by
    rcases List.prefix_concat_iff.1 hpast with heq | hold
    · cases (List.append_inj' heq rfl).2
    · exact h.charges past addr' width' latency' hold

/-! ## The address behind an access -/

section Arithmetic

variable {addr next : Address} {width : Nat}

theorem toNat_rowIndex (dram : Dram) (addr : Address) :
    (dram.rowIndex addr).toNat = (addr - dram.range.start).toNat / dram.config.rowSize.toNat :=
  BitVec.toNat_udiv

/-- A row that an access ends in front of has its last byte too. -/
theorem rowIndex_pred (dram : Dram) (hwidth : width ≠ 0) (hsmall : width ≤ 4)
    (hnext : next.toNat = addr.toNat + width) (hrow : dram.rowIndex next = dram.rowIndex addr) :
    dram.rowIndex (next - 1) = dram.rowIndex addr := by
  have hfour := dram.config.four_le
  have hhalf : dram.config.rowSize.toNat ≤ 2 ^ 63 := by
    obtain ⟨k, hk⟩ := dram.config.rowSize_pow
    have hlt : 2 ^ k < 2 ^ 64 := hk ▸ dram.config.rowSize.isLt
    exact hk ▸ Nat.pow_le_pow_right (by decide)
      (Nat.lt_succ_iff.1 ((Nat.pow_lt_pow_iff_right (by decide)).1 hlt))
  have hrow' := congrArg BitVec.toNat hrow
  rw [toNat_rowIndex, toNat_rowIndex] at hrow'
  refine BitVec.eq_of_toNat_eq ?_
  rw [toNat_rowIndex, toNat_rowIndex]
  have hstart := dram.range.start.isLt
  have haddr := addr.isLt
  -- the offsets of the three addresses, modulo the address space
  have hoffset : (next - dram.range.start).toNat = ((addr - dram.range.start).toNat + width) % 2 ^ 64 := by
    rw [BitVec.toNat_sub, BitVec.toNat_sub]
    omega
  have hlast : (next - 1 - dram.range.start).toNat =
      ((addr - dram.range.start).toNat + width - 1) % 2 ^ 64 := by
    have hone : (next - 1).toNat = next.toNat - 1 := by
      have hlt := next.isLt
      rw [BitVec.toNat_sub, show (1 : Address).toNat = 1 from rfl]
      omega
    rw [BitVec.toNat_sub (next - 1), BitVec.toNat_sub addr, hone]
    omega
  have hbound := (addr - dram.range.start).isLt
  rw [hoffset] at hrow'
  rw [hlast]
  generalize (addr - dram.range.start).toNat = offset at hrow' hbound ⊢
  generalize dram.config.rowSize.toNat = size at hrow' hfour hhalf ⊢
  by_cases hwrap : offset + width < 2 ^ 64
  · rw [Nat.mod_eq_of_lt hwrap] at hrow'
    rw [Nat.mod_eq_of_lt (by omega)]
    refine le_antisymm ?_ (Nat.div_le_div_right (by omega))
    exact (Nat.div_le_div_right (by omega)).trans hrow'.le
  · -- a row is no longer than half the address space, so it does not go round it
    have hzero : (offset + width) % 2 ^ 64 / size = 0 := Nat.div_eq_of_lt (by omega)
    rw [hzero] at hrow'
    have hlt := Nat.lt_of_div_eq_zero (by omega) hrow'.symm
    omega

/-- The address behind an access is noted exactly where the row goes on. -/
theorem burstAddrAfter_eq_some_iff (dram : Dram) (hwidth : width ≠ 0) (hsmall : width ≤ 4)
    (hrow : dram.rowIndex next = dram.rowIndex addr) :
    dram.burstAddrAfter addr width (dram.rowIndex addr) = some next ↔ next.toNat = addr.toNat + width := by
  unfold burstAddrAfter
  have hsum (h : addr.toNat + width < 2 ^ 64) :
      (addr + BitVec.ofNat 64 width).toNat = addr.toNat + width := by
    rw [BitVec.toNat_add, BitVec.toNat_ofNat]
    omega
  constructor
  · intro h
    split at h
    · rename_i hlt
      dsimp only at h
      split at h <;> split at h
      all_goals first | (cases h; exact hsum hlt) | cases h
    · cases h
  · intro hnext
    have hlt : addr.toNat + width < 2 ^ 64 := hnext ▸ next.isLt
    have heq : addr + BitVec.ofNat 64 width = next := BitVec.eq_of_toNat_eq ((hsum hlt).trans hnext.symm)
    rw [if_pos hlt, heq]
    have hne : next ≠ 0 := by
      rintro rfl
      rw [show (0 : Address).toNat = 0 from rfl] at hnext
      omega
    dsimp only
    rw [if_neg hne, if_pos (dram.rowIndex_pred hwidth hsmall hnext hrow)]

theorem burstAddrAfter_of_continues (dram : Dram) (hwidth : width ≠ 0) (hsmall : width ≤ 4)
    (h : dram.Continues addr width) :
    dram.burstAddrAfter addr width (dram.rowIndex addr) = some (addr + BitVec.ofNat 64 width) := by
  refine (dram.burstAddrAfter_eq_some_iff hwidth hsmall h.2).2 ?_
  have hlt := h.1
  rw [BitVec.toNat_add, BitVec.toNat_ofNat]
  omega

end Arithmetic

/-! ## The cells -/

/-- The rows after a completed access. -/
def rowsAfter (dram : Dram) (last : Option (Address × Nat)) : Option U64 × Option Address :=
  match last with
  | none => (none, none)
  | some (addr, width) =>
    (some (dram.rowIndex addr), dram.burstAddrAfter addr width (dram.rowIndex addr))

/-- What a latency query notes. -/
def noted (dram : Dram) (addr : Address) (width : Nat) : PendingAccess :=
  ⟨addr, dram.rowIndex addr, dram.burstAddrAfter addr width (dram.rowIndex addr)⟩

/-- The DRAM `dram` after the events of a log: its rows are those of the last completed access, and a note is
that of the last query, which is used up if that access was the last one. -/
structure Tracks (start dram : Dram) (log : List RowEvent) : Prop where
  range : dram.range = start.range
  config : dram.config = start.config
  length : dram.data.length = start.data.length
  rows : (dram.openRow, dram.nextBurstAddr) = start.rowsAfter (lastCompleted log)
  width : ∀ addr width, lastCompleted log = some (addr, width) → width ≠ 0 ∧ width ≤ 4
  pending : ∀ pending, dram.pendingAccess = some pending →
    ∃ addr width, lastAsked log = some (addr, width) ∧ pending = start.noted addr width
  used : dram.pendingAccess = none → lastAsked log = lastCompleted log

section Tracks

variable {start dram : Dram} {log : List RowEvent}

theorem rowIndex_congr (hrange : dram.range = start.range) (hconfig : dram.config = start.config)
    (addr : Address) : dram.rowIndex addr = start.rowIndex addr := by
  unfold rowIndex
  rw [hrange, hconfig]

theorem burstAddrAfter_congr (hrange : dram.range = start.range) (hconfig : dram.config = start.config)
    (addr : Address) (width : Nat) (rowIndex : U64) :
    dram.burstAddrAfter addr width rowIndex = start.burstAddrAfter addr width rowIndex := by
  unfold burstAddrAfter Dram.rowIndex
  rw [hrange, hconfig]

theorem tracks_new (base : Address) (size : Nat) (config : DramConfig) :
    Tracks (new base size config) (new base size config) [] where
  range := rfl
  config := rfl
  length := rfl
  rows := rfl
  width := nofun
  pending := nofun
  used _ := rfl

/-- An access is charged by the last completed one. -/
theorem Tracks.accessLatency (h : Tracks start dram log) (addr : Address) (kind : AccessKind)
    (width : Nat) : dram.accessLatency addr kind width = start.latencyAfter (lastCompleted log) addr := by
  have hrows := h.rows
  unfold Dram.accessLatency
  rw [rowIndex_congr h.range h.config, h.config]
  rcases hlast : lastCompleted log with _ | ⟨first, length⟩
  · rw [hlast] at hrows
    rw [show dram.openRow = none from congrArg Prod.fst hrows]
    exact if_neg nofun
  · rw [hlast] at hrows
    obtain ⟨hlength, hsmall⟩ := h.width first length hlast
    rw [show dram.openRow = some (start.rowIndex first) from congrArg Prod.fst hrows,
      show dram.nextBurstAddr = _ from congrArg Prod.snd hrows]
    unfold latencyAfter
    dsimp only
    by_cases hrow : start.rowIndex first = start.rowIndex addr
    · rw [if_pos hrow, if_pos (congrArg some hrow)]
      exact if_congr (start.burstAddrAfter_eq_some_iff hlength hsmall hrow.symm) rfl rfl
    · rw [if_neg hrow, if_neg fun heq => hrow (Option.some.inj heq)]

/-- A query notes its access. -/
theorem Tracks.latencyAsked (h : Tracks start dram log) (addr : Address) (kind : AccessKind)
    (width : Nat) (latency : U32) :
    Tracks start (dram.latencyAsked addr kind width) (log ++ [.asked addr width latency]) where
  range := h.range
  config := h.config
  length := h.length
  rows := by
    rw [lastCompleted_asked]
    exact h.rows
  width addr' width' hlast := by
    rw [lastCompleted_asked] at hlast
    exact h.width addr' width' hlast
  pending pending hpending := by
    refine ⟨addr, width, lastAsked_asked log addr width latency, ?_⟩
    rw [← Option.some.inj hpending]
    unfold noted
    rw [rowIndex_congr h.range h.config, burstAddrAfter_congr h.range h.config]
  used hpending := by cases hpending

/-! ### An access -/

/-- The bytes of an access that was asked for last are served with its row open and no note left. -/
structure Opened (start dram : Dram) (addr : Address) (width : Nat) : Prop where
  range : dram.range = start.range
  config : dram.config = start.config
  length : dram.data.length = start.data.length
  rows : (dram.openRow, dram.nextBurstAddr) = start.rowsAfter (some (addr, width))
  used : dram.pendingAccess = none

/-- The first byte of the access that was asked for last opens its row. -/
theorem Tracks.opened (h : Tracks start dram log) {addr : Address} {width : Nat}
    (hasked : lastAsked log = some (addr, width)) :
    Opened start (dram.commitPendingAccess addr) addr width := by
  unfold commitPendingAccess
  rcases hpending : dram.pendingAccess with _ | pending
  · -- the access was completed before: its row is open already
    have hrows := h.rows
    rw [← h.used hpending, hasked] at hrows
    exact ⟨h.range, h.config, h.length, hrows, hpending⟩
  · obtain ⟨addr', width', hlast, rfl⟩ := h.pending pending hpending
    obtain ⟨rfl, rfl⟩ := Prod.mk.inj (Option.some.inj (hasked.symm.trans hlast))
    dsimp only
    rw [if_pos (show (start.noted addr width).start = addr from rfl)]
    exact ⟨h.range, h.config, h.length, rfl, rfl⟩

theorem commitPendingAccess_of_used (h : dram.pendingAccess = none) (addr : Address) :
    dram.commitPendingAccess addr = dram := by
  unfold commitPendingAccess
  rw [h]

variable {addr byteAddr : Address} {width : Nat}

theorem Opened.offset (h : Opened start dram addr width)
    (hsize : start.range.size.toNat ≤ start.data.length) (hin : start.range.contains byteAddr = true) :
    ∃ offset, dram.offset byteAddr = .ok offset ∧ offset < dram.data.length := by
  have hlt := (AddressRange.toNat_sub hin).2
  refine ⟨(byteAddr - start.range.start).toNat, ?_, h.length ▸ hlt.trans_le hsize⟩
  unfold Dram.offset
  rw [h.range, if_pos hin]

theorem Opened.load8 (h : Opened start dram addr width)
    (hsize : start.range.size.toNat ≤ start.data.length) (hin : start.range.contains byteAddr = true) :
    ∃ byte, dram.load8 byteAddr = (.ok byte, dram) := by
  obtain ⟨offset, hoffset, hlt⟩ := h.offset hsize hin
  refine ⟨dram.data[offset], ?_⟩
  unfold Dram.load8
  rw [commitPendingAccess_of_used h.used]
  dsimp only
  rw [hoffset]
  dsimp only
  rw [List.getElem?_eq_getElem hlt]

theorem Opened.store8 (h : Opened start dram addr width)
    (hsize : start.range.size.toNat ≤ start.data.length) (hin : start.range.contains byteAddr = true)
    (value : U8) : ∃ after, dram.store8 byteAddr value = (.ok (), after) ∧ Opened start after addr width := by
  obtain ⟨offset, hoffset, hlt⟩ := h.offset hsize hin
  refine ⟨{ dram with data := dram.data.set offset value }, ?_, h.range, h.config,
    List.length_set.trans h.length, h.rows, h.used⟩
  unfold Dram.store8
  rw [commitPendingAccess_of_used h.used]
  dsimp only
  rw [hoffset]
  dsimp only
  rw [if_pos hlt]

theorem Opened.loadBytesFrom (h : Opened start dram addr width)
    (hsize : start.range.size.toNat ≤ start.data.length) (count offset : Nat)
    (hin : ∀ i < offset + count, start.range.contains (addr + BitVec.ofNat 64 i) = true) :
    ∃ bytes, MemoryMap.loadBytesFrom dram addr offset count = (.ok bytes, dram) := by
  induction count generalizing offset with
  | zero => exact ⟨[], rfl⟩
  | succ count ih =>
    obtain ⟨byte, hbyte⟩ := h.load8 hsize (hin offset (by omega))
    obtain ⟨bytes, hbytes⟩ := ih (offset + 1) fun i hi => hin i (by omega)
    refine ⟨byte :: bytes, ?_⟩
    unfold MemoryMap.loadBytesFrom
    rw [show Addressable.load8 dram (addr + BitVec.ofNat 64 offset) = (.ok byte, dram) from hbyte]
    dsimp only
    rw [hbytes]

theorem Opened.storeBytesFrom (h : Opened start dram addr width)
    (hsize : start.range.size.toNat ≤ start.data.length) (bytes : List U8) (offset : Nat)
    (hin : ∀ i < offset + bytes.length, start.range.contains (addr + BitVec.ofNat 64 i) = true) :
    ∃ after, MemoryMap.storeBytesFrom dram addr offset bytes = (.ok (), after) ∧
      Opened start after addr width := by
  induction bytes generalizing dram offset with
  | nil => exact ⟨dram, rfl, h⟩
  | cons byte bytes ih =>
    rw [List.length_cons] at hin
    obtain ⟨after, hbyte, hafter⟩ := h.store8 hsize (hin offset (by omega)) byte
    obtain ⟨last, hlast, hopened⟩ := ih hafter (offset + 1) fun i hi => hin i (by omega)
    refine ⟨last, ?_, hopened⟩
    unfold MemoryMap.storeBytesFrom
    rw [show Addressable.store8 dram (addr + BitVec.ofNat 64 offset) byte = (.ok (), after) from hbyte]
    exact hlast

/-- The bytes of an access of an opened row. -/
theorem Opened.run (h : Opened start dram addr width)
    (hsize : start.range.size.toNat ≤ start.data.length) (transfer : DeviceTransfer)
    (hin : ∀ i < transfer.width, start.range.contains (addr + BitVec.ofNat 64 i) = true) :
    (transfer.run dram addr).1.isOk = true ∧ Opened start (transfer.run dram addr).2 addr width := by
  cases transfer with
  | load count =>
    obtain ⟨bytes, hbytes⟩ := h.loadBytesFrom hsize count 0 fun i hi =>
      hin i (by simpa [DeviceTransfer.width] using hi)
    unfold DeviceTransfer.run
    dsimp only
    rw [hbytes]
    exact ⟨rfl, h⟩
  | store bytes =>
    obtain ⟨after, hbytes, hafter⟩ := h.storeBytesFrom hsize bytes 0 fun i hi =>
      hin i (by simpa [DeviceTransfer.width] using hi)
    unfold DeviceTransfer.run
    dsimp only
    rw [hbytes]
    exact ⟨rfl, hafter⟩
  | unsupported => exact ⟨rfl, h⟩

theorem commitPendingAccess_commitPendingAccess (dram : Dram) (addr : Address) :
    (dram.commitPendingAccess addr).commitPendingAccess addr = dram.commitPendingAccess addr := by
  rcases hpending : dram.pendingAccess with _ | pending
  · rw [commitPendingAccess_of_used hpending, commitPendingAccess_of_used hpending]
  · unfold commitPendingAccess
    rw [hpending]
    by_cases h : pending.start = addr
    · simp [h]
    · simp [h, hpending]

/-- The first byte commits before anything else. -/
theorem run_commitPendingAccess (dram : Dram) (addr : Address) {transfer : DeviceTransfer}
    (h : transfer.width ≠ 0) :
    transfer.run (dram.commitPendingAccess addr) addr = transfer.run dram addr := by
  have hfirst : addr + BitVec.ofNat 64 0 = addr := BitVec.add_zero _
  have hcommit := dram.commitPendingAccess_commitPendingAccess addr
  cases transfer with
  | load count =>
    obtain ⟨count, rfl⟩ := Nat.exists_eq_succ_of_ne_zero h
    have hload : Addressable.load8 (dram.commitPendingAccess addr) addr = Addressable.load8 dram addr := by
      show Dram.load8 _ _ = Dram.load8 _ _
      unfold Dram.load8
      rw [hcommit]
    show MemoryMap.loadBytesFrom _ _ _ _ = MemoryMap.loadBytesFrom _ _ _ _
    unfold MemoryMap.loadBytesFrom
    rw [hfirst, hload]
  | store bytes =>
    rcases bytes with _ | ⟨byte, bytes⟩
    · exact absurd rfl h
    · have hstore : Addressable.store8 (dram.commitPendingAccess addr) addr byte =
          Addressable.store8 dram addr byte := by
        show Dram.store8 _ _ _ = Dram.store8 _ _ _
        unfold Dram.store8
        rw [hcommit]
      have hbytes : MemoryMap.storeBytesFrom (dram.commitPendingAccess addr) addr 0 (byte :: bytes) =
          MemoryMap.storeBytesFrom dram addr 0 (byte :: bytes) := by
        unfold MemoryMap.storeBytesFrom
        rw [hfirst, hstore]
      unfold DeviceTransfer.run
      dsimp only
      rw [hbytes]
  | unsupported => exact absurd rfl h

/-- **An access that was asked for last** is completed, with its row open. -/
theorem Tracks.run (h : Tracks start dram log) (hsize : start.range.size.toNat ≤ start.data.length)
    (hasked : lastAsked log = some (addr, width)) {transfer : DeviceTransfer}
    (hwidth : transfer.width = width) (hne : width ≠ 0)
    (hin : ∀ i < width, start.range.contains (addr + BitVec.ofNat 64 i) = true) :
    (transfer.run dram addr).1.isOk = true ∧ Opened start (transfer.run dram addr).2 addr width := by
  rw [← run_commitPendingAccess dram addr (hwidth ▸ hne)]
  exact (h.opened hasked).run hsize transfer (hwidth ▸ hin)

/-- A completed access is tracked. -/
theorem Opened.tracks (h : Opened start dram addr width) (hasked : lastAsked log = some (addr, width))
    (hne : width ≠ 0) (hsmall : width ≤ 4) (openRow : Option U64) (nextBurstAddr : Option Address) :
    Tracks start dram (log ++ [.performed addr width true openRow nextBurstAddr]) where
  range := h.range
  config := h.config
  length := h.length
  rows := by
    rw [lastCompleted_performed]
    exact h.rows
  width addr' width' hlast := by
    rw [lastCompleted_performed] at hlast
    obtain ⟨rfl, rfl⟩ := Prod.mk.inj (Option.some.inj hlast)
    exact ⟨hne, hsmall⟩
  pending pending hpending := by
    rw [h.used] at hpending
    cases hpending
  used _ := by
    rw [lastAsked_performed, lastCompleted_performed]
    exact hasked

end Tracks

end Dram

/-! ## Runs -/

/-- A supported access transfers as many bytes as it is wide. -/
theorem TransactionRequest.width_transfer (request : TransactionRequest) (h : request.transfer.width ≠ 0) :
    request.transfer.width = request.width ∧ request.width ≤ 4 := by
  obtain ⟨addr, kind, width, writeData⟩ := request
  unfold TransactionRequest.transfer at h ⊢
  dsimp only at h ⊢
  split at h <;>
    first
    | exact ⟨rfl, by decide⟩
    | exact absurd rfl h
    | exact ⟨by simp [DeviceTransfer.width], by decide⟩

theorem Access.width_transfer {n : Nat} (access : Access n) (h : access.transfer.width ≠ 0) :
    access.transfer.width = access.width ∧ access.width ≤ 4 := by
  cases access with
  | transaction deviceIndex request => exact request.width_transfer h
  | beat deviceIndex request beatIndex =>
    refine ⟨?_, le_rfl⟩
    cases request with
    | readWords baseAddr beats kind => rfl
    | writeWords baseAddr words => exact Vector.length_toList

theorem succeeded_answered {n : Nat} (access : Access n) (h : access.transfer.width ≠ 0)
    (bytes : Except BusError (List U8)) : (access.answered bytes).succeeded = bytes.isOk := by
  cases access with
  | transaction deviceIndex request =>
    have hsupported : request.transfer.width ≠ 0 := h
    unfold Access.answered AccessAnswer.succeeded
    dsimp only
    rcases htransfer : request.transfer with count | stored | _
    · cases bytes <;> rfl
    · cases bytes <;> rfl
    · rw [htransfer] at hsupported
      exact absurd rfl hsupported
  | beat deviceIndex request beatIndex => cases request <;> cases bytes <;> rfl

/-- An access that is not supported leaves its device alone. -/
theorem DeviceTransfer.run_of_width_eq_zero {D : Type} [Addressable D] {transfer : DeviceTransfer}
    (h : transfer.width = 0) (device : D) (addr : Address) : (transfer.run device addr).2 = device := by
  cases transfer with
  | load count =>
    obtain rfl : count = 0 := h
    rfl
  | store bytes =>
    obtain rfl := List.eq_nil_of_length_eq_zero h
    rfl
  | unsupported => rfl

section Runs

variable {E : Type} {n : Nat} [Addressable E]

theorem answerAlike_inl : AnswerAlike fun (device : Dram ⊕ E) (dram : Dram) => device = .inl dram where
  load8 _ h := h ▸ ⟨rfl, rfl⟩
  store8 _ _ h := h ▸ ⟨rfl, rfl⟩

/-- The events of a run so far, and the DRAM after them. -/
def RowInvariant (start : Dram) (index : Fin n) (map : MemoryMap (Dram ⊕ E) n) (log : List RowEvent) :
    Prop :=
  start.Undisturbed log →
    start.RowsKept log ∧ ∃ dram, map.device index = .inl dram ∧ start.Tracks dram log

theorem keeps_rowInvariant {start : Dram} (hsize : start.range.size.toNat ≤ start.data.length)
    (index : Fin n) : (rowMonitor (E := E) index).Keeps (RowInvariant start index) where
  traffic map map' log hdevices h hundisturbed := by
    have hdevice : map'.device index = map.device index := by
      unfold MemoryMap.device
      rw [hdevices]
    rw [hdevice]
    exact h hundisturbed
  asked map log access h hundisturbed := by
    unfold Access.ask MemoryMap.askLatency
    rw [MemoryMap.device_setDevice]
    by_cases hindex : access.deviceIndex = index
    · subst hindex
      rw [if_pos rfl]
      have hevents : (rowMonitor access.deviceIndex).asked map access =
          [.asked access.addr access.width (access.latency map)] := if_pos rfl
      rw [hevents] at hundisturbed ⊢
      obtain ⟨hkept, dram, hdram, htracks⟩ := h hundisturbed.of_append
      have hlatency : access.latency map = start.latencyAfter (lastCompleted log) access.addr := by
        unfold Access.latency
        rw [hdram]
        exact htracks.accessLatency _ _ _
      refine ⟨hkept.asked _ _ hlatency, dram.latencyAsked access.addr access.kind access.width, ?_,
        htracks.latencyAsked _ _ _ _⟩
      rw [hdram]
      rfl
    · rw [if_neg fun heq => hindex heq.symm]
      have hevents : (rowMonitor index).asked map access = [] := if_neg hindex
      rw [hevents, List.append_nil] at hundisturbed ⊢
      exact h hundisturbed
  performed map log access h hundisturbed := by
    rw [access.perform_eq map]
    by_cases hreached : access.deviceIndex = index ∧ access.transfer.width ≠ 0
    · obtain ⟨rfl, hne⟩ := hreached
      obtain ⟨hwidth, hsmall⟩ := access.width_transfer hne
      have hevents : (rowMonitor access.deviceIndex).performed map access =
          [.performed access.addr access.width (access.perform map).1.succeeded
            (rowsOf ((access.perform map).2.device access.deviceIndex)).1
            (rowsOf ((access.perform map).2.device access.deviceIndex)).2] := if_pos ⟨rfl, hne⟩
      rw [hevents, access.perform_eq map] at hundisturbed ⊢
      dsimp only at hundisturbed ⊢
      obtain ⟨hkept, dram, hdram, htracks⟩ := h hundisturbed.of_append
      obtain ⟨hasked, hin⟩ := hundisturbed log _ _ _ _ _ List.prefix_rfl
      obtain ⟨hok, hopened⟩ := htracks.run hsize hasked hwidth (hwidth ▸ hne) hin
      -- the device is the DRAM, so that the access leaves the DRAM behind it
      obtain ⟨hanswer, hafter⟩ := answerAlike_inl.run hdram access.transfer access.addr
      rw [MemoryMap.device_setDevice, if_pos rfl, hanswer, hafter, succeeded_answered access hne, hok]
      have hopen := congrArg Prod.fst hopened.rows
      have hnext := congrArg Prod.snd hopened.rows
      refine ⟨hkept.performed _ _ _ hopen fun hcontinues => ?_, _, rfl,
        hopened.tracks hasked (hwidth ▸ hne) hsmall _ _⟩
      exact hnext.trans (start.burstAddrAfter_of_continues (hwidth ▸ hne) hsmall hcontinues)
    · have hevents : (rowMonitor index).performed map access = [] := if_neg hreached
      rw [hevents, List.append_nil] at hundisturbed ⊢
      obtain ⟨hkept, dram, hdram, htracks⟩ := h hundisturbed
      refine ⟨hkept, dram, ?_, htracks⟩
      dsimp only
      rw [MemoryMap.device_setDevice]
      split
      · rename_i hindex
        subst hindex
        have hzero : access.transfer.width = 0 := not_not.1 fun hne => hreached ⟨rfl, hne⟩
        rw [DeviceTransfer.run_of_width_eq_zero hzero]
        exact hdram
      · exact hdram
  ticked map log h hundisturbed := by
    have hevents : (rowMonitor (E := E) index).ticked map.tickDevices = [] := rfl
    rw [hevents, List.append_nil] at hundisturbed ⊢
    obtain ⟨hkept, dram, hdram, htracks⟩ := h hundisturbed
    refine ⟨hkept, dram, ?_, htracks⟩
    rw [MemoryMap.device_tickDevices, hdram]
    rfl

/-- **The rows of a DRAM**, among any other devices and in any interleaving of transactions and bursts: if
the DRAM was last asked for each access that it performs, and the access lies within it, then every completed
access leaves its row open, and every access is charged by the completed ones. -/
theorem dram_run (devices : Vector (DeviceSlot (Dram ⊕ E)) n) (index : Fin n) (base : Address) (size : Nat)
    (config : DramConfig) (hdevice : (devices.get index).device = .inl (.new base size config))
    (ops : List MapOp) (h : (Dram.new base size config).Undisturbed (rowLog index devices ops)) :
    (Dram.new base size config).RowsKept (rowLog index devices ops) := by
  have hsize : (BitVec.ofNat 64 size).toNat ≤ (List.replicate size (0 : U8)).length := by
    rw [BitVec.toNat_ofNat, List.length_replicate]
    exact Nat.mod_le _ _
  have hstart : RowInvariant (Dram.new base size config) index (MemoryMap.fresh devices) [] := by
    refine fun _ => ⟨⟨?_, ?_⟩, _, hdevice, Dram.tracks_new base size config⟩
    · intro past addr width openRow nextBurstAddr hpast
      exact absurd (List.prefix_nil.1 hpast) (by simp)
    · intro past addr width latency hpast
      exact absurd (List.prefix_nil.1 hpast) (by simp)
  exact ((keeps_rowInvariant (E := E) hsize index).run (s := ⟨_, []⟩) hstart ops h).1

end Runs

/-! ## Two rows of sixteen bytes -/

/-- A DRAM of two rows, with latencies of five, two and one cycle. -/
def twoRows : Dram := .new 0 32
  { rowSize := 16, rowMissLatency := 5, rowHitLatency := 2, burstLatency := 1
    rowSize_pow := ⟨4, rfl⟩, four_dvd := by decide, hit_le_miss := by decide, burst_le_hit := by decide }

def twoRowsMap : Vector (DeviceSlot (Dram ⊕ Ram)) 1 := #v[⟨⟨0, 32⟩, .inl twoRows⟩]

/-- One load after the other: the second one goes on in the row, and waits a cycle. -/
def loadsInOrder : List MapOp :=
  .request (.load32 0) :: List.replicate 5 .tick ++
    [.request (.load32 0), .request (.load32 4), .tick, .request (.load32 4)]

theorem rowLog_loadsInOrder : rowLog 0 twoRowsMap loadsInOrder =
    [.asked 0 4 5, .performed 0 4 true (some 0) (some 4), .asked 4 4 1,
      .performed 4 4 true (some 0) (some 8)] := by
  decide +kernel

theorem dram_run_loadsInOrder : twoRows.RowsKept (rowLog 0 twoRowsMap loadsInOrder) := by
  have hin (addr : Address) (h : (List.range 4).all
      (fun i => twoRows.range.contains (addr + BitVec.ofNat 64 i)) = true) :
      ∀ i < 4, twoRows.range.contains (addr + BitVec.ofNat 64 i) = true :=
    fun i hi => List.all_eq_true.1 h i (List.mem_range.2 hi)
  have hfirst := (Dram.undisturbed_nil.asked 0 4 5).performed rfl (hin 0 (by decide)) true (some 0) (some 4)
  have hsecond := (hfirst.asked 4 4 1).performed rfl (hin 4 (by decide)) true (some 0) (some 8)
  exact dram_run twoRowsMap 0 0 32 twoRows.config rfl loadsInOrder (rowLog_loadsInOrder ▸ hsecond)

/-- Loads of two rows in flight at once. -/
def loadsAtOnce : List MapOp :=
  [.submitTransaction (.load 0 4), .submitTransaction (.load 16 4)] ++ List.replicate 6 .tick

/-- The query of the second load overwrites the note of the first one, which leaves no row open behind it. -/
theorem dram_queries_overlap :
    rowLog 0 twoRowsMap loadsAtOnce =
      [.asked 0 4 5, .asked 16 4 5, .performed 0 4 true none none,
        .performed 16 4 true (some 1) (some 20)] ∧
      ¬ twoRows.RowsKept (rowLog 0 twoRowsMap loadsAtOnce) := by
  have hlog : rowLog 0 twoRowsMap loadsAtOnce =
      [.asked 0 4 5, .asked 16 4 5, .performed 0 4 true none none,
        .performed 16 4 true (some 1) (some 20)] := by
    decide +kernel
  refine ⟨hlog, fun h => ?_⟩
  rw [hlog] at h
  have hrows := (h.rows [.asked 0 4 5, .asked 16 4 5] 0 4 none none ⟨[_], rfl⟩).1
  cases hrows

end RvSim
