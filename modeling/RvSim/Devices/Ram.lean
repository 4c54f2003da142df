import RvSim.System.Protocol

/-!
# Memory devices

## Main definitions

* `Ram`: read-write memory
* `Rom`: immutable program memory
* `LatencyAdapter`: a device with a fixed access latency
-/

namespace RvSim

/-- Read-write memory backed by a byte vector. -/
structure Ram where
  range : AddressRange
  data : List U8
  deriving DecidableEq

namespace Ram

def new (base : Address) (size : Nat) : Ram where
  range := ⟨base, BitVec.ofNat 64 size⟩
  data := List.replicate size 0

def offset (ram : Ram) (addr : Address) : Except BusError Nat :=
  if ram.range.contains addr then .ok (addr - ram.range.start).toNat
  else .error (.unmappedAddress addr)

def load8 (ram : Ram) (addr : Address) : Except BusError U8 × Ram :=
  match ram.offset addr with
  | .ok offset =>
    match ram.data[offset]? with
    | some byte => (.ok byte, ram)
    | none => (.error (.unmappedAddress addr), ram)
  | .error error => (.error error, ram)

def store8 (ram : Ram) (addr : Address) (value : U8) : Except BusError Unit × Ram :=
  match ram.offset addr with
  | .ok offset =>
    if offset < ram.data.length then (.ok (), { ram with data := ram.data.set offset value })
    else (.error (.unmappedAddress addr), ram)
  | .error error => (.error error, ram)

instance : Addressable Ram where
  load8 := load8
  store8 := store8

end Ram

/-- Immutable program memory backed by bytes. -/
structure Rom where
  range : AddressRange
  data : List U8
  deriving DecidableEq

namespace Rom

def fromWords (base : Address) (words : List U32) : Rom where
  range := ⟨base, BitVec.ofNat 64 (words.length * 4)⟩
  data := words.flatMap fun word => (toLeBytes word).toList

def offset (rom : Rom) (addr : Address) : Except BusError Nat :=
  if rom.range.contains addr then .ok (addr - rom.range.start).toNat
  else .error (.unmappedAddress addr)

def load8 (rom : Rom) (addr : Address) : Except BusError U8 × Rom :=
  match rom.offset addr with
  | .ok offset =>
    match rom.data[offset]? with
    | some byte => (.ok byte, rom)
    | none => (.error (.unmappedAddress addr), rom)
  | .error error => (.error error, rom)

def store8 (rom : Rom) (addr : Address) (_value : U8) : Except BusError Unit × Rom :=
  (.error (.readOnlyAddress addr), rom)

instance : Addressable Rom where
  load8 := load8
  store8 := store8

end Rom

/-- Wrap any addressable device with a fixed access latency measured in cycles. -/
structure LatencyAdapter (D : Type) where
  inner : D
  latencyCycles : U32
  deriving DecidableEq

namespace LatencyAdapter

variable {D : Type} [Addressable D]

/-- The device behind the adapter has answered. -/
def wrap {α : Type} (adapter : LatencyAdapter D) (out : Except BusError α × D) :
    Except BusError α × LatencyAdapter D := (out.1, { adapter with inner := out.2 })

-- `machine_time` is not forwarded
instance : Addressable (LatencyAdapter D) where
  load8 adapter addr := adapter.wrap (Addressable.load8 adapter.inner addr)
  store8 adapter addr value := adapter.wrap (Addressable.store8 adapter.inner addr value)
  tick adapter := { adapter with inner := Addressable.tick adapter.inner }
  accessLatency adapter _ _ _ := adapter.latencyCycles
  pendingInterrupts adapter := Addressable.pendingInterrupts adapter.inner

end LatencyAdapter

end RvSim
