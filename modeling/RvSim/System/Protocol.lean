import RvSim.System.Bus

/-!
# Transactions and bursts

The protocol layers over the bus trait: single transactions and word bursts with an explicit life
cycle, the maintenance of caches, and the contract of a device.

A failed `expect` or an `unreachable!` of the source ends the program. Where the model reaches one, it
answers a device fault with the message (`panicked`).

## Main definitions

* `TransactionRequest`, `TransactionResponse`, `TransactionPhase`
* `BurstRequest`, `BurstResponse`, `BurstPhase`
* `TransactionBus`, `BurstBus`, `CacheMaintenance`, `BusMaster`, `Addressable`: the traits
* `BusRequest`: a request of a client of the bus trait
-/

namespace RvSim

/-- Direction of a bus access used by timing models. -/
inductive AccessKind
  | fetch | load | store
  deriving DecidableEq, Repr

/-- How `{:?}` shows the kind. -/
def AccessKind.debugText : AccessKind → String
  | .fetch => "Fetch"
  | .load => "Load"
  | .store => "Store"

/-- A half-open physical address range. -/
structure AddressRange where
  start : Address
  size : U64
  deriving DecidableEq, Repr

namespace AddressRange

/-- `end` of the source. -/
def endAddress (range : AddressRange) : Address := range.start + range.size

def contains (range : AddressRange) (addr : Address) : Bool :=
  range.start ≤ addr && addr < range.endAddress

end AddressRange

/-- The answer of a call in which the source panics. -/
def panicked {α : Type} (addr : Address) (message : String) : Except BusError α :=
  .error (.deviceFault addr message)

/-! ## Little-endian words -/

/-- `u32::to_le_bytes`. -/
def toLeBytes (word : U32) : Vector U8 4 :=
  #v[word.setWidth 8, (word >>> 8).setWidth 8, (word >>> 16).setWidth 8, (word >>> 24).setWidth 8]

/-- `u32::from_le_bytes`. -/
def fromLeBytes (bytes : Vector U8 4) : U32 := bytes[3] ++ bytes[2] ++ bytes[1] ++ bytes[0]

theorem toList_four {α : Type} (data : Vector α 4) : data.toList = [data[0], data[1], data[2], data[3]] := by
  obtain ⟨⟨bytes⟩, hlength⟩ := data
  match bytes, hlength with
  | [_, _, _, _], _ => rfl

@[simp] theorem fromLeBytes_toLeBytes (word : U32) : fromLeBytes (toLeBytes word) = word := by
  show (word >>> 24).setWidth 8 ++ (word >>> 16).setWidth 8 ++ (word >>> 8).setWidth 8 ++
    word.setWidth 8 = word
  refine BitVec.eq_of_getLsbD_eq fun i hi => ?_
  simp only [BitVec.getLsbD_append, BitVec.getLsbD_setWidth, BitVec.getLsbD_ushiftRight]
  by_cases h8 : i < 8
  · simp [h8]
  · by_cases h16 : i - 8 < 8
    · simp [h8, h16, show 8 + (i - 8) = i by omega]
    · by_cases h24 : i - 8 - 8 < 8
      · simp [h8, h16, h24, show 16 + (i - 8 - 8) = i by omega]
      · have h32 : i - 8 - 8 - 8 < 8 := by omega
        simp [h8, h16, h24, h32, show 24 + (i - 8 - 8 - 8) = i by omega]

/-- The bytes of a word that is put together of bytes. -/
theorem toLeBytes_append (b0 b1 b2 b3 : U8) : toLeBytes (b3 ++ b2 ++ b1 ++ b0) = #v[b0, b1, b2, b3] := by
  have h0 : (b3 ++ b2 ++ b1 ++ b0).setWidth 8 = b0 := by
    refine BitVec.eq_of_getLsbD_eq fun i hi => ?_
    simp only [BitVec.getLsbD_setWidth, BitVec.getLsbD_append]
    simp [hi]
  have h1 : ((b3 ++ b2 ++ b1 ++ b0) >>> 8).setWidth 8 = b1 := by
    refine BitVec.eq_of_getLsbD_eq fun i hi => ?_
    simp only [BitVec.getLsbD_setWidth, BitVec.getLsbD_ushiftRight, BitVec.getLsbD_append]
    simp [hi]
  have h2 : ((b3 ++ b2 ++ b1 ++ b0) >>> 16).setWidth 8 = b2 := by
    refine BitVec.eq_of_getLsbD_eq fun i hi => ?_
    simp only [BitVec.getLsbD_setWidth, BitVec.getLsbD_ushiftRight, BitVec.getLsbD_append]
    simp [hi, show 16 + i - 8 - 8 = i by omega, show ¬ 16 + i - 8 < 8 by omega,
      show ¬ 16 + i < 8 by omega]
  have h3 : ((b3 ++ b2 ++ b1 ++ b0) >>> 24).setWidth 8 = b3 := by
    refine BitVec.eq_of_getLsbD_eq fun i hi => ?_
    simp only [BitVec.getLsbD_setWidth, BitVec.getLsbD_ushiftRight, BitVec.getLsbD_append]
    simp [hi, show 24 + i - 8 - 8 - 8 = i by omega, show ¬ 24 + i - 8 < 8 by omega,
      show ¬ 24 + i - 8 - 8 < 8 by omega, show ¬ 24 + i < 8 by omega]
  show #v[(b3 ++ b2 ++ b1 ++ b0).setWidth 8, ((b3 ++ b2 ++ b1 ++ b0) >>> 8).setWidth 8,
    ((b3 ++ b2 ++ b1 ++ b0) >>> 16).setWidth 8, ((b3 ++ b2 ++ b1 ++ b0) >>> 24).setWidth 8] = _
  rw [h0, h1, h2, h3]

@[simp] theorem toLeBytes_fromLeBytes (bytes : Vector U8 4) : toLeBytes (fromLeBytes bytes) = bytes := by
  refine (toLeBytes_append bytes[0] bytes[1] bytes[2] bytes[3]).trans ?_
  refine Vector.ext fun i hi => ?_
  match i, hi with
  | 0, _ => rfl
  | 1, _ => rfl
  | 2, _ => rfl
  | 3, _ => rfl

/-- The first byte of the data of an access. -/
def firstByte (data : Vector U8 4) : U8 := data[0]

/-- The second byte of the data of an access. -/
def secondByte (data : Vector U8 4) : U8 := data[1]

/-! ## Transactions -/

/-- A transaction request accepted by the timing-aware bus fabric. -/
structure TransactionRequest where
  addr : Address
  kind : AccessKind
  width : Nat
  writeData : Vector U8 4
  deriving DecidableEq

namespace TransactionRequest

def fetch32 (addr : Address) : TransactionRequest := ⟨addr, .fetch, 4, #v[0, 0, 0, 0]⟩

def load (addr : Address) (width : Nat) : TransactionRequest := ⟨addr, .load, width, #v[0, 0, 0, 0]⟩

def store (addr : Address) (width : Nat) (writeData : Vector U8 4) : TransactionRequest :=
  ⟨addr, .store, width, writeData⟩

def store8 (addr : Address) (value : U8) : TransactionRequest := .store addr 1 #v[value, 0, 0, 0]

def store16 (addr : Address) (value : U16) : TransactionRequest :=
  .store addr 2 #v[value.setWidth 8, (value >>> 8).setWidth 8, 0, 0]

end TransactionRequest

/-- Response payload produced by a completed transaction. -/
inductive TransactionResponse
  | read (data : Vector U8 4) (width : Nat)
  | writeComplete
  deriving DecidableEq

/-- Observable lifecycle state for an outstanding bus transaction. -/
inductive TransactionPhase
  | accepted
  | inFlight (remainingCycles : U32)
  | ready (response : TransactionResponse)
  | failed (error : BusError)
  deriving DecidableEq

/-! ## Bursts -/

/-- A beat-oriented burst request over contiguous 32-bit words. -/
inductive BurstRequest
  | readWords (baseAddr : Address) (beats : Nat) (kind : AccessKind)
  | writeWords (baseAddr : Address) (words : List U32)
  deriving DecidableEq, Repr

namespace BurstRequest

def beats : BurstRequest → Nat
  | .readWords _ beats _ => beats
  | .writeWords _ words => words.length

def baseAddr : BurstRequest → Address
  | .readWords baseAddr _ _ => baseAddr
  | .writeWords baseAddr _ => baseAddr

def beatAddr (request : BurstRequest) (beatIndex : Nat) : Address :=
  request.baseAddr + BitVec.ofNat 64 beatIndex * 4

def beatKind : BurstRequest → AccessKind
  | .readWords _ _ kind => kind
  | .writeWords _ _ => .store

end BurstRequest

/-- Response payload produced by a completed burst request. -/
inductive BurstResponse
  | readWords (words : List U32)
  | writeComplete (beats : Nat)
  deriving DecidableEq, Repr

/-- Observable lifecycle state for an outstanding burst. -/
inductive BurstPhase
  | accepted (beatIndex totalBeats : Nat)
  | inFlight (beatIndex totalBeats : Nat) (remainingCycles : U32)
  | ready (completedBeats : Nat)
  | failed (error : BusError)
  deriving DecidableEq, Repr

/-- A burst-capable bus that exposes an explicit burst lifecycle. `burstRounds` is not part of the
source's trait: it bounds how many times a burst can be advanced until it blocks or ends, so that the
loop that drives a burst is a function. -/
class BurstBus (β : Type) extends Bus β where
  submitBurst : β → BurstRequest → Except BusError U64 × β
  burstPhase : β → U64 → Option BurstPhase
  advanceBurst : β → U64 → Option BurstPhase × β
  takeBurstResponse : β → U64 → Option (Except BusError BurstResponse) × β
  burstRounds : β → U64 → Nat

/-- A transaction-capable bus that exposes an explicit transaction lifecycle. -/
class TransactionBus (β : Type) extends Bus β where
  submitTransaction : β → TransactionRequest → Except BusError U64 × β
  transactionPhase : β → U64 → Option TransactionPhase
  advanceTransaction : β → U64 → Option TransactionPhase × β
  takeTransactionResponse : β → U64 → Option (Except BusError TransactionResponse) × β

/-- `TransactionBus + BurstBus`: the lower fabric. -/
class FabricBus (β : Type) extends TransactionBus β, BurstBus β

/-- Software-managed cache maintenance hooks for DMA and self-modifying-code experiments. -/
class CacheMaintenance (β : Type) where
  writeBackRange : β → Address → U64 → Except BusError Unit × β
  invalidateRange : β → Address → U64 → Except BusError Unit × β

/-! ## Masters -/

/-- A bus request issued by a non-CPU bus master. -/
inductive BusMasterRequest
  | load32 (addr : Address)
  | store32 (addr : Address) (value : U32)
  | readWords (baseAddr : Address) (beats : Nat)
  | writeWords (baseAddr : Address) (words : List U32)
  deriving DecidableEq, Repr

/-- Completion value returned to a non-CPU bus master. -/
inductive BusMasterResponse
  | load32 (value : U32)
  | storeComplete
  | readWords (words : List U32)
  | writeWordsComplete (beats : Nat)
  deriving DecidableEq, Repr

/-- A peripheral-side initiator that can compete with the CPU for bus access. -/
class BusMaster (M : Type) where
  maxOutstandingRequests : M → Nat := fun _ => 1
  request : M → Option BusMasterRequest × M
  onResponse : M → Except BusError BusMasterResponse → M

/-! ## Devices -/

/-- A memory-mapped device that can respond to byte loads and stores. `access_latency` takes the device by
reference, but a device with cells inside may note the query there: `latencyAsked` is the device then. -/
class Addressable (D : Type) where
  load8 : D → Address → Except BusError U8 × D
  store8 : D → Address → U8 → Except BusError Unit × D
  tick : D → D := fun device => device
  machineTime : D → Option U64 := fun _ => none
  accessLatency : D → Address → AccessKind → Nat → U32 := fun _ _ _ _ => 0
  latencyAsked : D → Address → AccessKind → Nat → D := fun device _ _ _ => device
  pendingInterrupts : D → InterruptSet := fun _ => .empty

/-! ## Requests of a client -/

/-- A call of the bus trait that a client repeats until it is answered. -/
inductive BusRequest
  | fetch32 (addr : Address)
  | load8 (addr : Address)
  | load16 (addr : Address)
  | load32 (addr : Address)
  | store8 (addr : Address) (value : U8)
  | store16 (addr : Address) (value : U16)
  | store32 (addr : Address) (value : U32)
  deriving DecidableEq, Repr

namespace BusRequest

variable {β : Type} [Bus β]

/-- Make the call. A read answers its value, zero-extended, and a store answers zero. -/
def call (request : BusRequest) (bus : β) : Except BusError U32 × β :=
  match request with
  | .fetch32 addr => Bus.fetch32 bus addr
  | .load8 addr => ((Bus.load8 bus addr).1.map (·.setWidth 32), (Bus.load8 bus addr).2)
  | .load16 addr => ((Bus.load16 bus addr).1.map (·.setWidth 32), (Bus.load16 bus addr).2)
  | .load32 addr => Bus.load32 bus addr
  | .store8 addr value => ((Bus.store8 bus addr value).1.map fun _ => 0, (Bus.store8 bus addr value).2)
  | .store16 addr value =>
    ((Bus.store16 bus addr value).1.map fun _ => 0, (Bus.store16 bus addr value).2)
  | .store32 addr value =>
    ((Bus.store32 bus addr value).1.map fun _ => 0, (Bus.store32 bus addr value).2)

/-- The bus after `n` rounds of the call with a tick behind it. -/
def rounds (request : BusRequest) (bus : β) : Nat → β
  | 0 => bus
  | n + 1 => Bus.tick (request.call (request.rounds bus n)).2

end BusRequest

end RvSim
