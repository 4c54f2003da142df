import RvSim.System.Protocol

/-!
# The DRAM

Byte memory with an open row and cheaper sequential bursts. A latency query notes the access it was for; the
first byte of that access opens its row.

## Main definitions

* `DramConfig`: the timing parameters
* `Dram`, `Dram.accessLatency`, `Dram.latencyAsked`, `Dram.commitPendingAccess`
-/

namespace RvSim

/-- Timing parameters for the simple DRAM model, with what `new` asserts of them. -/
structure DramConfig where
  rowSize : U64
  rowMissLatency : U32
  rowHitLatency : U32
  burstLatency : U32
  rowSize_pow : ∃ k, rowSize.toNat = 2 ^ k
  four_dvd : 4 ∣ rowSize.toNat
  hit_le_miss : rowHitLatency ≤ rowMissLatency
  burst_le_hit : burstLatency ≤ rowHitLatency
  deriving DecidableEq

theorem DramConfig.four_le (config : DramConfig) : 4 ≤ config.rowSize.toNat := by
  obtain ⟨k, hk⟩ := config.rowSize_pow
  exact Nat.le_of_dvd (hk ▸ Nat.two_pow_pos k) config.four_dvd

/-- The access of the last latency query. -/
structure PendingAccess where
  start : Address
  rowIndex : U64
  nextBurstAddr : Option Address
  deriving DecidableEq, Repr

/-- DRAM-like memory with an open-row model and cheaper sequential bursts. -/
structure Dram where
  range : AddressRange
  data : List U8
  config : DramConfig
  openRow : Option U64 := none
  nextBurstAddr : Option Address := none
  pendingAccess : Option PendingAccess := none
  deriving DecidableEq

namespace Dram

def new (base : Address) (size : Nat) (config : DramConfig) : Dram where
  range := ⟨base, BitVec.ofNat 64 size⟩
  data := List.replicate size 0
  config

def offset (dram : Dram) (addr : Address) : Except BusError Nat :=
  if dram.range.contains addr then .ok (addr - dram.range.start).toNat
  else .error (.unmappedAddress addr)

def rowIndex (dram : Dram) (addr : Address) : U64 := (addr - dram.range.start) / dram.config.rowSize

/-- `next_burst_addr` of the source: the address behind an access, if its last byte is in the row. -/
def burstAddrAfter (dram : Dram) (addr : Address) (width : Nat) (rowIndex : U64) : Option Address :=
  if addr.toNat + width < 2 ^ 64 then
    let nextAddr := addr + BitVec.ofNat 64 width
    -- `saturating_sub`
    let last := if nextAddr = 0 then 0 else nextAddr - 1
    if dram.rowIndex last = rowIndex then some nextAddr else none
  else none

def commitPendingAccess (dram : Dram) (addr : Address) : Dram :=
  match dram.pendingAccess with
  | none => dram
  | some pending =>
    if pending.start = addr then
      { dram with
        openRow := some pending.rowIndex
        nextBurstAddr := pending.nextBurstAddr
        pendingAccess := none }
    else dram

def accessLatency (dram : Dram) (addr : Address) (_kind : AccessKind) (_width : Nat) : U32 :=
  if dram.openRow = some (dram.rowIndex addr) then
    if dram.nextBurstAddr = some addr then dram.config.burstLatency else dram.config.rowHitLatency
  else dram.config.rowMissLatency

/-- The cells after `access_latency`. -/
def latencyAsked (dram : Dram) (addr : Address) (_kind : AccessKind) (width : Nat) : Dram :=
  { dram with
    pendingAccess := some
      { start := addr
        rowIndex := dram.rowIndex addr
        nextBurstAddr := dram.burstAddrAfter addr width (dram.rowIndex addr) } }

-- the row is opened before the address is checked
def load8 (dram : Dram) (addr : Address) : Except BusError U8 × Dram :=
  let dram := dram.commitPendingAccess addr
  match dram.offset addr with
  | .ok offset =>
    match dram.data[offset]? with
    | some byte => (.ok byte, dram)
    | none => (.error (.unmappedAddress addr), dram)
  | .error error => (.error error, dram)

def store8 (dram : Dram) (addr : Address) (value : U8) : Except BusError Unit × Dram :=
  let dram := dram.commitPendingAccess addr
  match dram.offset addr with
  | .ok offset =>
    if offset < dram.data.length then (.ok (), { dram with data := dram.data.set offset value })
    else (.error (.unmappedAddress addr), dram)
  | .error error => (.error error, dram)

instance : Addressable Dram where
  load8 := load8
  store8 := store8
  accessLatency := accessLatency
  latencyAsked := latencyAsked

end Dram

end RvSim
