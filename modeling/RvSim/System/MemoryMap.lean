import RvSim.System.Protocol

/-!
# The memory map

The address-decoded bus in front of the mapped devices. Transactions and bursts are accepted, wait for
the latency of their device, and are performed; the calls of the bus trait go through a compatibility
slot that holds one transaction.

The number `n` of devices is a parameter of the type, so a device index is always one of a device.

## Main definitions

* `MemoryMap`, `MemoryMap.submitTransaction`, `MemoryMap.advanceTransaction`,
  `MemoryMap.takeTransactionResponse`, and the same for bursts
* `MemoryMap.performRequest`: the compatibility path
* `MemoryMap.tick`: every transaction and burst goes a step further
-/

namespace RvSim

/-- A mapped device. -/
structure DeviceSlot (D : Type) where
  range : AddressRange
  device : D
  deriving DecidableEq

structure ActiveTransaction (n : Nat) where
  id : U64
  deviceIndex : Fin n
  request : TransactionRequest
  phase : TransactionPhase
  deriving DecidableEq

structure ActiveBurst (n : Nat) where
  id : U64
  deviceIndex : Fin n
  request : BurstRequest
  beatIndex : Nat
  readWords : List U32
  phase : BurstPhase
  deriving DecidableEq

/-- The transaction of the compatibility path. -/
structure CompatTransaction where
  id : U64
  request : TransactionRequest
  deriving DecidableEq

/-- What a step of a burst does. -/
inductive BeatAdvance
  | phase (phase : BurstPhase)
  | completed (readWord : Option U32)
  | failed (error : BusError)

/-- `cycles.max(1)`. -/
def atLeastOne (cycles : U32) : U32 := if cycles = 0 then 1 else cycles

/-- `Vec::swap_remove`: the last element takes the place of the removed one. -/
def swapRemove {α : Type} (l : List α) (index : Nat) : List α :=
  match l.getLast? with
  | some last => (l.set index last).dropLast
  | none => []

/-- A simple bus that routes accesses to the first mapped device that contains the address. -/
structure MemoryMap (D : Type) (n : Nat) where
  devices : Vector (DeviceSlot D) n
  activeTransactions : List (ActiveTransaction n) := []
  activeBursts : List (ActiveBurst n) := []
  compatTransaction : Option CompatTransaction := none
  nextTransactionId : U64 := 0
  deriving DecidableEq

namespace MemoryMap

variable {D : Type} {n : Nat}

def findDeviceIndex (map : MemoryMap D n) (addr : Address) : Option (Fin n) :=
  (List.finRange n).find? fun index => map.devices[index].range.contains addr

/-- The device behind an index. -/
def device (map : MemoryMap D n) (index : Fin n) : D := map.devices[index].device

def setDevice (map : MemoryMap D n) (index : Fin n) (device : D) : MemoryMap D n :=
  { map with devices := map.devices.set index { map.devices[index] with device } }

theorem device_setDevice (map : MemoryMap D n) (index other : Fin n) (device : D) :
    (map.setDevice index device).device other = if other = index then device else map.device other := by
  unfold MemoryMap.device setDevice
  by_cases h : other = index
  · subst h
    simp
  · have hval : ¬ index.val = other.val := fun heq => h (Fin.ext heq.symm)
    rw [if_neg h]
    simp [Vector.getElem_set_ne, hval]

variable [Addressable D]

/-! ## Accesses of a device -/

/-- The map after a device was asked for a latency. -/
def askLatency (map : MemoryMap D n) (deviceIndex : Fin n) (addr : Address) (kind : AccessKind)
    (width : Nat) : MemoryMap D n :=
  map.setDevice deviceIndex (Addressable.latencyAsked (map.device deviceIndex) addr kind width)

/-- `load_bytes`, from an offset on: the bytes before an error have been read. -/
def loadBytesFrom (device : D) (addr : Address) (offset : Nat) : Nat → Except BusError (List U8) × D
  | 0 => (.ok [], device)
  | count + 1 =>
    match Addressable.load8 device (addr + BitVec.ofNat 64 offset) with
    | (.ok byte, device) =>
      match loadBytesFrom device addr (offset + 1) count with
      | (.ok bytes, device) => (.ok (byte :: bytes), device)
      | (.error error, device) => (.error error, device)
    | (.error error, device) => (.error error, device)

/-- `store_bytes`, from an offset on: the bytes before an error have been written. -/
def storeBytesFrom (device : D) (addr : Address) (offset : Nat) :
    List U8 → Except BusError Unit × D
  | [] => (.ok (), device)
  | byte :: bytes =>
    match Addressable.store8 device (addr + BitVec.ofNat 64 offset) byte with
    | (.ok (), device) => storeBytesFrom device addr (offset + 1) bytes
    | (.error error, device) => (.error error, device)

/-- Bytes at the start of an array of four. -/
def padBytes (bytes : List U8) : Vector U8 4 := Vector.ofFn fun i => bytes[i.val]?.getD 0

def readResponse (width : Nat) (answer : Except BusError (List U8)) :
    Except BusError TransactionResponse :=
  answer.map fun bytes => .read (padBytes bytes) width

def executeRequest (map : MemoryMap D n) (deviceIndex : Fin n) (request : TransactionRequest) :
    Except BusError TransactionResponse × MemoryMap D n :=
  let device := map.device deviceIndex
  match request.kind, request.width with
  | .fetch, 4 | .load, 4 =>
    let out := loadBytesFrom device request.addr 0 4
    (readResponse 4 out.1, map.setDevice deviceIndex out.2)
  | .load, 2 =>
    let out := loadBytesFrom device request.addr 0 2
    (readResponse 2 out.1, map.setDevice deviceIndex out.2)
  | .load, 1 =>
    let out := loadBytesFrom device request.addr 0 1
    (readResponse 1 out.1, map.setDevice deviceIndex out.2)
  | .store, 4 =>
    let out := storeBytesFrom device request.addr 0 request.writeData.toList
    (out.1.map fun _ => .writeComplete, map.setDevice deviceIndex out.2)
  | .store, 2 =>
    let bytes := [firstByte request.writeData, secondByte request.writeData]
    let out := storeBytesFrom device request.addr 0 bytes
    (out.1.map fun _ => .writeComplete, map.setDevice deviceIndex out.2)
  | .store, 1 =>
    let out := storeBytesFrom device request.addr 0 [firstByte request.writeData]
    (out.1.map fun _ => .writeComplete, map.setDevice deviceIndex out.2)
  | _, _ =>
    (.error (.deviceFault request.addr
      s!"unsupported transaction {request.kind.debugText} width {request.width}"), map)

def executeBurstBeat (map : MemoryMap D n) (deviceIndex : Fin n) (request : BurstRequest)
    (beatIndex : Nat) : Except BusError (Option U32) × MemoryMap D n :=
  let addr := request.beatAddr beatIndex
  let device := map.device deviceIndex
  match request with
  | .readWords _ _ _ =>
    let out := loadBytesFrom device addr 0 4
    (out.1.map fun bytes => some (fromLeBytes (padBytes bytes)), map.setDevice deviceIndex out.2)
  | .writeWords _ words =>
    let out := storeBytesFrom device addr 0 (toLeBytes (words[beatIndex]?.getD 0)).toList
    (out.1.map fun _ => none, map.setDevice deviceIndex out.2)

/-! ## Transactions -/

def transactionRemainingCycles : TransactionPhase → U32
  | .inFlight remainingCycles => remainingCycles
  | _ => 1

def transactionIndex (map : MemoryMap D n) (id : U64) : Option Nat :=
  map.activeTransactions.findIdx? (·.id == id)

/-- The transaction with an id. -/
def transaction (map : MemoryMap D n) (id : U64) : Option (ActiveTransaction n) :=
  (map.transactionIndex id).bind (map.activeTransactions[·]?)

def transactionPhase (map : MemoryMap D n) (id : U64) : Option TransactionPhase :=
  (map.transaction id).map (·.phase)

def compatRemainingCycles (map : MemoryMap D n) : U32 :=
  match map.compatTransaction with
  | some compat =>
    match map.transactionPhase compat.id with
    | some phase => transactionRemainingCycles phase
    | none => 0
  | none => 0

/-- Perform a transaction. -/
def completeRequest (map : MemoryMap D n) (active : ActiveTransaction n) :
    TransactionPhase × MemoryMap D n :=
  match map.executeRequest active.deviceIndex active.request with
  | (.ok response, map) => (.ready response, map)
  | (.error error, map) => (.failed error, map)

/-- A step of a transaction. -/
def stepTransaction (map : MemoryMap D n) (active : ActiveTransaction n) :
    TransactionPhase × MemoryMap D n :=
  match active.phase with
  | .accepted =>
    let latency := Addressable.accessLatency (map.device active.deviceIndex) active.request.addr
      active.request.kind active.request.width
    let map := map.askLatency active.deviceIndex active.request.addr active.request.kind
      active.request.width
    if latency = 0 then map.completeRequest active else (.inFlight latency, map)
  | .inFlight remainingCycles =>
    if 1 < remainingCycles then (.inFlight (remainingCycles - 1), map)
    else map.completeRequest active
  | phase => (phase, map)

def advanceTransactionAt (map : MemoryMap D n) (index : Nat) : MemoryMap D n :=
  match map.activeTransactions[index]? with
  | none => map
  | some active =>
    let (phase, map) := map.stepTransaction active
    { map with activeTransactions := map.activeTransactions.set index { active with phase } }

/-- The map with a new transaction. -/
def acceptTransaction (map : MemoryMap D n) (deviceIndex : Fin n) (request : TransactionRequest) :
    MemoryMap D n :=
  { map with
    nextTransactionId := map.nextTransactionId + 1
    activeTransactions := map.activeTransactions ++
      [{ id := map.nextTransactionId, deviceIndex, request, phase := .accepted }] }

def submitTransaction (map : MemoryMap D n) (request : TransactionRequest) :
    Except BusError U64 × MemoryMap D n :=
  match map.findDeviceIndex request.addr with
  | none => (.error (.unmappedAddress request.addr), map)
  | some deviceIndex => (.ok map.nextTransactionId, map.acceptTransaction deviceIndex request)

def advanceTransaction (map : MemoryMap D n) (id : U64) :
    Option TransactionPhase × MemoryMap D n :=
  match map.transactionIndex id with
  | none => (none, map)
  | some index =>
    let map := map.advanceTransactionAt index
    (map.transactionPhase id, map)

def clearCompatIfMatches (map : MemoryMap D n) (id : U64) : MemoryMap D n :=
  if map.compatTransaction.any (·.id == id) then { map with compatTransaction := none } else map

/-- Remove a transaction that has been answered. -/
def removeTransaction (map : MemoryMap D n) (index : Nat) (id : U64) : MemoryMap D n :=
  { map with activeTransactions := swapRemove map.activeTransactions index }.clearCompatIfMatches id

def takeTransactionResponse (map : MemoryMap D n) (id : U64) :
    Option (Except BusError TransactionResponse) × MemoryMap D n :=
  match map.transactionIndex id, map.transactionPhase id with
  | some index, some (.ready response) => (some (.ok response), map.removeTransaction index id)
  | some index, some (.failed error) => (some (.error error), map.removeTransaction index id)
  | _, _ => (none, map)

/-! ## Bursts -/

def burstIndex (map : MemoryMap D n) (id : U64) : Option Nat :=
  map.activeBursts.findIdx? (·.id == id)

/-- The burst with an id. -/
def burst (map : MemoryMap D n) (id : U64) : Option (ActiveBurst n) :=
  (map.burstIndex id).bind (map.activeBursts[·]?)

def burstPhase (map : MemoryMap D n) (id : U64) : Option BurstPhase :=
  (map.burst id).map (·.phase)

/-- Perform a beat. -/
def completeBeat (map : MemoryMap D n) (active : ActiveBurst n) : BeatAdvance × MemoryMap D n :=
  match map.executeBurstBeat active.deviceIndex active.request active.beatIndex with
  | (.ok readWord, map) => (.completed readWord, map)
  | (.error error, map) => (.failed error, map)

/-- What the next step of a burst does. -/
def stepBurst (map : MemoryMap D n) (active : ActiveBurst n) : BeatAdvance × MemoryMap D n :=
  match active.phase with
  | .accepted _ _ =>
    let latency := Addressable.accessLatency (map.device active.deviceIndex)
      (active.request.beatAddr active.beatIndex) active.request.beatKind 4
    let map := map.askLatency active.deviceIndex (active.request.beatAddr active.beatIndex)
      active.request.beatKind 4
    if latency = 0 then map.completeBeat active
    else (.phase (.inFlight active.beatIndex active.request.beats latency), map)
  | .inFlight _ _ remainingCycles =>
    if 1 < remainingCycles then
      (.phase (.inFlight active.beatIndex active.request.beats (remainingCycles - 1)), map)
    else map.completeBeat active
  | phase => (.phase phase, map)

/-- The burst after a step. -/
def ActiveBurst.advanced (active : ActiveBurst n) : BeatAdvance → ActiveBurst n
  | .phase phase => { active with phase }
  | .completed readWord =>
    { active with
      readWords := match readWord with
        | some word => active.readWords.set active.beatIndex word
        | none => active.readWords
      beatIndex := active.beatIndex + 1
      phase :=
        if active.beatIndex + 1 = active.request.beats then .ready active.request.beats
        else .accepted (active.beatIndex + 1) active.request.beats }
  | .failed error => { active with phase := .failed error }

def advanceBurstAt (map : MemoryMap D n) (index : Nat) : MemoryMap D n :=
  match map.activeBursts[index]? with
  | none => map
  | some active =>
    let (advance, map) := map.stepBurst active
    { map with activeBursts := map.activeBursts.set index (ActiveBurst.advanced active advance) }

/-- The first beat of a burst that is not on the device of the first one. -/
def crossing (map : MemoryMap D n) (request : BurstRequest) (deviceIndex : Fin n) : Option Address :=
  ((List.range request.beats).drop 1).findSome? fun beatIndex =>
    let addr := request.beatAddr beatIndex
    if map.findDeviceIndex addr ≠ some deviceIndex then some addr else none

def submitBurst (map : MemoryMap D n) (request : BurstRequest) :
    Except BusError U64 × MemoryMap D n :=
  if request.beats = 0 then
    (panicked request.baseAddr "burst request must contain at least one beat", map)
  else
    match map.findDeviceIndex request.baseAddr with
    | none => (.error (.unmappedAddress request.baseAddr), map)
    | some deviceIndex =>
      match map.crossing request deviceIndex with
      | some addr => (.error (.deviceFault addr "burst crosses device boundary"), map)
      | none =>
        let id := map.nextTransactionId
        (.ok id,
          { map with
            nextTransactionId := id + 1
            activeBursts := map.activeBursts ++
              [{ id, deviceIndex, request, beatIndex := 0
                 readWords := List.replicate request.beats 0
                 phase := .accepted 0 request.beats }] })

def advanceBurst (map : MemoryMap D n) (id : U64) : Option BurstPhase × MemoryMap D n :=
  match map.burstIndex id with
  | none => (none, map)
  | some index =>
    let map := map.advanceBurstAt index
    (map.burstPhase id, map)

/-- The response of a burst that is ready. -/
def ActiveBurst.response (active : ActiveBurst n) (completedBeats : Nat) : BurstResponse :=
  match active.request with
  | .readWords _ _ _ => .readWords active.readWords
  | .writeWords _ _ => .writeComplete completedBeats

def takeBurstResponse (map : MemoryMap D n) (id : U64) :
    Option (Except BusError BurstResponse) × MemoryMap D n :=
  match map.burstIndex id, map.burst id with
  | some index, some active =>
    match active.phase with
    | .ready completedBeats =>
      (some (.ok (ActiveBurst.response active completedBeats)),
        { map with activeBursts := swapRemove map.activeBursts index })
    | .failed error =>
      (some (.error error), { map with activeBursts := swapRemove map.activeBursts index })
    | _ => (none, map)
  | _, _ => (none, map)

/-! ## The bus -/

/-- Take the answer of the transaction in the slot. -/
def answerCompat (map : MemoryMap D n) (compat : CompatTransaction) :
    Except BusError TransactionResponse × MemoryMap D n :=
  match map.takeTransactionResponse compat.id with
  | (some result, map) => (result, { map with compatTransaction := none })
  | (none, map) => (.error (.busy (atLeastOne map.compatRemainingCycles)), map)

/-- The end of the compatibility path, with the transaction in the slot. -/
def awaitCompat (map : MemoryMap D n) (compat : CompatTransaction) :
    Except BusError TransactionResponse × MemoryMap D n :=
  if map.transactionPhase compat.id = some .accepted then
    (map.advanceTransaction compat.id).2.answerCompat compat
  else map.answerCompat compat

def performRequest (map : MemoryMap D n) (request : TransactionRequest) :
    Except BusError TransactionResponse × MemoryMap D n :=
  match map.compatTransaction with
  | some compat =>
    if compat.request ≠ request then (.error (.busy (atLeastOne map.compatRemainingCycles)), map)
    else if map.transactionPhase compat.id = none then
      (panicked request.addr "compatibility path should install a transaction",
        { map with compatTransaction := none })
    else map.awaitCompat compat
  | none =>
    match map.submitTransaction request with
    | (.ok id, map) =>
      { map with compatTransaction := some { id, request } }.awaitCompat { id, request }
    | (.error error, map) => (.error error, map)

/-- The value of a read of some width. -/
def readValue {α : Type} (addr : Address) (width : Nat) (value : Vector U8 4 → α)
    (answer : Except BusError TransactionResponse) : Except BusError α :=
  match answer with
  | .ok (.read data width') =>
    if width' = width then .ok (value data)
    else panicked addr "a read should complete with a response of its width"
  | .ok .writeComplete => panicked addr "a read should complete with a response of its width"
  | .error error => .error error

/-- A read of some width through the compatibility path. -/
def read {α : Type} (map : MemoryMap D n) (request : TransactionRequest)
    (value : Vector U8 4 → α) : Except BusError α × MemoryMap D n :=
  if request.addr % BitVec.ofNat 64 request.width ≠ 0 then
    (.error (.misalignedAccess request.addr request.width), map)
  else
    let out := map.performRequest request
    (readValue request.addr request.width value out.1, out.2)

/-- A write of some width through the compatibility path. -/
def write (map : MemoryMap D n) (request : TransactionRequest) :
    Except BusError Unit × MemoryMap D n :=
  if request.addr % BitVec.ofNat 64 request.width ≠ 0 then
    (.error (.misalignedAccess request.addr request.width), map)
  else
    let out := map.performRequest request
    (out.1.map fun _ => (), out.2)

def tick (map : MemoryMap D n) : MemoryMap D n :=
  let map := (List.range map.activeTransactions.length).foldl advanceTransactionAt map
  let map := (List.range map.activeBursts.length).foldl advanceBurstAt map
  { map with
    devices := map.devices.map fun slot => { slot with device := Addressable.tick slot.device } }

instance : Bus (MemoryMap D n) where
  tick := tick
  machineTime map := map.devices.toList.findSome? fun slot => Addressable.machineTime slot.device
  isBusy map := !map.activeTransactions.isEmpty || !map.activeBursts.isEmpty
  pendingInterrupts map := map.devices.toList.foldl
    (fun interrupts slot => interrupts.union (Addressable.pendingInterrupts slot.device)) .empty
  fetch32 map addr := map.read (.fetch32 addr) fromLeBytes
  load8 map addr := map.read (.load addr 1) firstByte
  load16 map addr := map.read (.load addr 2) fun data => secondByte data ++ firstByte data
  load32 map addr := map.read (.load addr 4) fromLeBytes
  store8 map addr value := map.write (.store8 addr value)
  store16 map addr value := map.write (.store16 addr value)
  store32 map addr value := map.write (.store addr 4 (toLeBytes value))

/-- The beats that are left, and the end. -/
def burstRounds (map : MemoryMap D n) (id : U64) : Nat :=
  match map.burst id with
  | some active => active.request.beats + 1 - active.beatIndex
  | none => 0

instance : FabricBus (MemoryMap D n) where
  submitTransaction := submitTransaction
  transactionPhase := transactionPhase
  advanceTransaction := advanceTransaction
  takeTransactionResponse := takeTransactionResponse
  submitBurst := submitBurst
  burstPhase := burstPhase
  advanceBurst := advanceBurst
  takeBurstResponse := takeBurstResponse
  burstRounds := burstRounds

instance : CacheMaintenance (MemoryMap D n) where
  writeBackRange map _ _ := (.ok (), map)
  invalidateRange map _ _ := (.ok (), map)

end MemoryMap

end RvSim
