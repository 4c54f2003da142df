import RvSim.System.MemoryMap

/-!
# The byte accesses of a request

The memory map performs a request byte by byte, in ascending order, and stops at the first byte that fails.

## Main definitions

* `ByteAccess`: an access of a device, with its answer
* `Recorded`: a device that keeps a record of its calls
* `MemoryMap.Records`: what a step of a map adds to the records of its devices
* `TransactionRequest.Performed`, `BurstRequest.PerformedBeat`: the accesses that belong to an answer

## Main results

* `loadBytesFrom_recorded`, `storeBytesFrom_recorded`: the answer is made of the accesses that are recorded
* `executeRequest_performed`, `executeBurstBeat_performed`: the device of a request records the accesses of its
  answer, and no other device is called
-/

namespace RvSim

/-- An access of a device, with its answer. -/
inductive ByteAccess
  | load (addr : Address) (answer : Except BusError U8)
  | store (addr : Address) (value : U8) (answer : Except BusError Unit)

namespace ByteAccess

/-- The loads of bytes from an offset on, each of which succeeds. -/
def loads (addr : Address) (offset : Nat) : List U8 → List ByteAccess
  | [] => []
  | byte :: bytes => .load (addr + BitVec.ofNat 64 offset) (.ok byte) :: loads addr (offset + 1) bytes

/-- The stores of bytes from an offset on, each of which succeeds. -/
def stores (addr : Address) (offset : Nat) : List U8 → List ByteAccess
  | [] => []
  | byte :: bytes =>
    .store (addr + BitVec.ofNat 64 offset) byte (.ok ()) :: stores addr (offset + 1) bytes

/-- The accesses of a load of `count` bytes that has this answer. -/
def Loaded (addr : Address) (offset count : Nat) (answer : Except BusError (List U8))
    (accesses : List ByteAccess) : Prop :=
  match answer with
  | .ok bytes => bytes.length = count ∧ accesses = loads addr offset bytes
  | .error error => ∃ bytes : List U8, bytes.length < count ∧ accesses = loads addr offset bytes ++
    [.load (addr + BitVec.ofNat 64 (offset + bytes.length)) (.error error)]

/-- The accesses of a store of some bytes that has this answer. -/
def Stored (addr : Address) (offset : Nat) (bytes : List U8) (answer : Except BusError Unit)
    (accesses : List ByteAccess) : Prop :=
  match answer with
  | .ok () => accesses = stores addr offset bytes
  | .error error => ∃ before byte after, bytes = before ++ byte :: after ∧
    accesses = stores addr offset before ++
      [.store (addr + BitVec.ofNat 64 (offset + before.length)) byte (.error error)]

end ByteAccess

/-- What a device is asked: the latency of an access, or a byte. -/
inductive DeviceCall
  | latency (addr : Address) (kind : AccessKind) (width : Nat) (cycles : U32)
  | access (access : ByteAccess)

/-- A device that keeps a record of its calls. -/
structure Recorded (D : Type) where
  inner : D
  record : List DeviceCall := []

instance {D : Type} [Addressable D] : Addressable (Recorded D) where
  load8 device addr := ((Addressable.load8 device.inner addr).1,
    ⟨(Addressable.load8 device.inner addr).2,
      device.record ++ [.access (.load addr (Addressable.load8 device.inner addr).1)]⟩)
  store8 device addr value := ((Addressable.store8 device.inner addr value).1,
    ⟨(Addressable.store8 device.inner addr value).2,
      device.record ++ [.access (.store addr value (Addressable.store8 device.inner addr value).1)]⟩)
  tick device := { device with inner := Addressable.tick device.inner }
  machineTime device := Addressable.machineTime device.inner
  accessLatency device := Addressable.accessLatency device.inner
  latencyAsked device addr kind width :=
    ⟨Addressable.latencyAsked device.inner addr kind width,
      device.record ++ [.latency addr kind width (Addressable.accessLatency device.inner addr kind width)]⟩
  pendingInterrupts device := Addressable.pendingInterrupts device.inner

open ByteAccess

namespace MemoryMap

variable {D : Type} {n : Nat} [Addressable D]

/-- **A load is made of the accesses that its device records.** -/
theorem loadBytesFrom_recorded (device : Recorded D) (addr : Address) (offset count : Nat) :
    ∃ accesses, Loaded addr offset count (loadBytesFrom device addr offset count).1 accesses ∧
      (loadBytesFrom device addr offset count).2.record = device.record ++ accesses.map .access := by
  induction count generalizing device offset with
  | zero => exact ⟨[], ⟨rfl, rfl⟩, (List.append_nil _).symm⟩
  | succ count ih =>
    have hrecord : (Addressable.load8 device (addr + BitVec.ofNat 64 offset)).2.record = device.record ++
      [.access (.load (addr + BitVec.ofNat 64 offset)
        (Addressable.load8 device (addr + BitVec.ofNat 64 offset)).1)] := rfl
    unfold loadBytesFrom
    generalize Addressable.load8 device (addr + BitVec.ofNat 64 offset) = out at hrecord ⊢
    obtain ⟨error | byte, after⟩ := out
    · exact ⟨_, ⟨[], Nat.succ_pos _, rfl⟩, hrecord⟩
    · obtain ⟨accesses, hloaded, hrest⟩ := ih after (offset + 1)
      dsimp only at hrecord ⊢
      rw [hrecord, List.append_assoc] at hrest
      generalize loadBytesFrom after addr (offset + 1) count = out at hloaded hrest ⊢
      refine ⟨.load (addr + BitVec.ofNat 64 offset) (.ok byte) :: accesses, ?_, ?_⟩
      · obtain ⟨error | bytes, last⟩ := out
        · obtain ⟨bytes, hlt, rfl⟩ := hloaded
          refine ⟨byte :: bytes, Nat.succ_lt_succ hlt, ?_⟩
          rw [List.length_cons, show offset + (bytes.length + 1) = offset + 1 + bytes.length by omega]
          rfl
        · obtain ⟨hlength, rfl⟩ := hloaded
          exact ⟨congrArg Nat.succ hlength, rfl⟩
      · obtain ⟨error | bytes, last⟩ := out <;> exact hrest

/-- **A store is made of the accesses that its device records.** -/
theorem storeBytesFrom_recorded (device : Recorded D) (addr : Address) (offset : Nat) (bytes : List U8) :
    ∃ accesses, Stored addr offset bytes (storeBytesFrom device addr offset bytes).1 accesses ∧
      (storeBytesFrom device addr offset bytes).2.record = device.record ++ accesses.map .access := by
  induction bytes generalizing device offset with
  | nil => exact ⟨[], rfl, (List.append_nil _).symm⟩
  | cons byte bytes ih =>
    have hrecord : (Addressable.store8 device (addr + BitVec.ofNat 64 offset) byte).2.record =
      device.record ++ [.access (.store (addr + BitVec.ofNat 64 offset) byte
        (Addressable.store8 device (addr + BitVec.ofNat 64 offset) byte).1)] := rfl
    unfold storeBytesFrom
    generalize Addressable.store8 device (addr + BitVec.ofNat 64 offset) byte = out at hrecord ⊢
    obtain ⟨error | _, after⟩ := out
    · exact ⟨_, ⟨[], byte, bytes, rfl, rfl⟩, hrecord⟩
    · obtain ⟨accesses, hstored, hrest⟩ := ih after (offset + 1)
      dsimp only at hrecord ⊢
      rw [hrecord, List.append_assoc] at hrest
      generalize storeBytesFrom after addr (offset + 1) bytes = out at hstored hrest ⊢
      refine ⟨.store (addr + BitVec.ofNat 64 offset) byte (.ok ()) :: accesses, ?_, hrest⟩
      obtain ⟨error | _, last⟩ := out
      · obtain ⟨before, failed, rest, rfl, rfl⟩ := hstored
        refine ⟨byte :: before, failed, rest, rfl, ?_⟩
        rw [List.length_cons, show offset + (before.length + 1) = offset + 1 + before.length by omega]
        rfl
      · exact congrArg _ (show accesses = stores addr (offset + 1) bytes from hstored)

end MemoryMap

/-! ## Requests -/

/-- The accesses that belong to an answer of a transaction. -/
def TransactionRequest.Performed (request : TransactionRequest)
    (answer : Except BusError TransactionResponse) (accesses : List ByteAccess) : Prop :=
  if (request.kind = .fetch ∧ request.width = 4) ∨
      (request.kind = .load ∧ (request.width = 1 ∨ request.width = 2 ∨ request.width = 4)) then
    ∃ read, Loaded request.addr 0 request.width read accesses ∧
      answer = MemoryMap.readResponse request.width read
  else if request.kind = .store ∧ (request.width = 1 ∨ request.width = 2 ∨ request.width = 4) then
    ∃ written, Stored request.addr 0 (request.writeData.toList.take request.width) written accesses ∧
      answer = written.map fun _ => .writeComplete
  else accesses = [] ∧ ∃ error, answer = .error error

/-- The accesses that belong to an answer of a beat. -/
def BurstRequest.PerformedBeat (request : BurstRequest) (beatIndex : Nat)
    (answer : Except BusError (Option U32)) (accesses : List ByteAccess) : Prop :=
  match request with
  | .readWords _ _ _ => ∃ read, Loaded (request.beatAddr beatIndex) 0 4 read accesses ∧
    answer = read.map fun bytes => some (fromLeBytes (MemoryMap.padBytes bytes))
  | .writeWords _ words =>
    ∃ written, Stored (request.beatAddr beatIndex) 0 (toLeBytes (words[beatIndex]?.getD 0)).toList written
      accesses ∧ answer = written.map fun _ => none

namespace MemoryMap

variable {D : Type} {n : Nat}

/-- The devices of a step: the one at the index has recorded these calls, and no other one has been called. -/
def Records (map map' : MemoryMap (Recorded D) n) (index : Fin n) (calls : List DeviceCall) : Prop :=
  ∀ other, (map'.device other).record =
    (map.device other).record ++ if other = index then calls else []

section Records

variable {map map' map'' : MemoryMap (Recorded D) n} {index : Fin n} {calls more : List DeviceCall}

theorem Records.of_devices (h : map'.devices = map.devices) (index : Fin n) : map.Records map' index [] := by
  intro other
  unfold MemoryMap.device
  rw [h, ite_self, List.append_nil]

theorem Records.trans (h : map.Records map' index calls) (h' : map'.Records map'' index more) :
    map.Records map'' index (calls ++ more) := by
  intro other
  rw [h' other, h other, List.append_assoc]
  split
  · rfl
  · rfl

theorem records_setDevice {device : Recorded D} (h : device.record = (map.device index).record ++ calls) :
    map.Records (map.setDevice index device) index calls := by
  intro other
  rw [device_setDevice]
  by_cases hindex : other = index
  · rw [if_pos hindex, if_pos hindex, h, hindex]
  · rw [if_neg hindex, if_neg hindex, List.append_nil]

/-- What the device at an index has recorded since. -/
def newCalls (map map' : MemoryMap (Recorded D) n) (index : Fin n) : List DeviceCall :=
  (map'.device index).record.drop (map.device index).record.length

theorem Records.newCalls_eq (h : map.Records map' index calls) : map.newCalls map' index = calls := by
  unfold newCalls
  rw [h index, if_pos rfl, List.drop_left]

end Records

variable [Addressable D]

theorem records_askLatency (map : MemoryMap (Recorded D) n) (index : Fin n) (addr : Address)
    (kind : AccessKind) (width : Nat) : map.Records (map.askLatency index addr kind width) index
      [.latency addr kind width (Addressable.accessLatency (map.device index) addr kind width)] :=
  records_setDevice rfl

/-- **The answer of a transaction** is made of the accesses that its device records. -/
theorem executeRequest_performed (map : MemoryMap (Recorded D) n) (index : Fin n)
    (request : TransactionRequest) : ∃ accesses,
    request.Performed (map.executeRequest index request).1 accesses ∧
      map.Records (map.executeRequest index request).2 index (accesses.map .access) := by
  obtain ⟨addr, kind, width, writeData⟩ := request
  unfold TransactionRequest.Performed
  dsimp only
  have hload (count : Nat) := loadBytesFrom_recorded (map.device index) addr 0 count
  have hstore (bytes : List U8) := storeBytesFrom_recorded (map.device index) addr 0 bytes
  by_cases h4 : width = 4
  · subst h4
    cases kind with
    | fetch | load =>
      obtain ⟨accesses, hloaded, hrecord⟩ := hload 4
      exact ⟨accesses, ⟨_, hloaded, rfl⟩, records_setDevice hrecord⟩
    | store =>
      obtain ⟨accesses, hstored, hrecord⟩ := hstore writeData.toList
      refine ⟨accesses, ?_, records_setDevice hrecord⟩
      rw [if_neg (by simp), if_pos (by simp), List.take_of_length_le Vector.length_toList.le]
      exact ⟨_, hstored, rfl⟩
  by_cases h2 : width = 2
  · subst h2
    cases kind with
    | fetch => exact ⟨[], ⟨rfl, _, rfl⟩, .of_devices rfl index⟩
    | load =>
      obtain ⟨accesses, hloaded, hrecord⟩ := hload 2
      exact ⟨accesses, ⟨_, hloaded, rfl⟩, records_setDevice hrecord⟩
    | store =>
      obtain ⟨accesses, hstored, hrecord⟩ := hstore [firstByte writeData, secondByte writeData]
      refine ⟨accesses, ?_, records_setDevice hrecord⟩
      rw [if_neg (by simp), if_pos (by simp), toList_four]
      exact ⟨_, hstored, rfl⟩
  by_cases h1 : width = 1
  · subst h1
    cases kind with
    | fetch => exact ⟨[], ⟨rfl, _, rfl⟩, .of_devices rfl index⟩
    | load =>
      obtain ⟨accesses, hloaded, hrecord⟩ := hload 1
      exact ⟨accesses, ⟨_, hloaded, rfl⟩, records_setDevice hrecord⟩
    | store =>
      obtain ⟨accesses, hstored, hrecord⟩ := hstore [firstByte writeData]
      refine ⟨accesses, ?_, records_setDevice hrecord⟩
      rw [if_neg (by simp), if_pos (by simp), toList_four]
      exact ⟨_, hstored, rfl⟩
  -- No other width is supported.
  have hexecute : map.executeRequest index ⟨addr, kind, width, writeData⟩ =
      (.error (.deviceFault addr s!"unsupported transaction {kind.debugText} width {width}"), map) := by
    unfold executeRequest
    dsimp only
    split <;> first | exact absurd rfl h4 | exact absurd rfl h2 | exact absurd rfl h1 | rfl
  rw [hexecute]
  refine ⟨[], ?_, .of_devices rfl index⟩
  rw [if_neg (by simp [h1, h2, h4]), if_neg (by simp [h1, h2, h4])]
  exact ⟨rfl, _, rfl⟩

/-- **The answer of a beat** is made of the accesses that its device records. -/
theorem executeBurstBeat_performed (map : MemoryMap (Recorded D) n) (index : Fin n) (request : BurstRequest)
    (beatIndex : Nat) : ∃ accesses,
    request.PerformedBeat beatIndex (map.executeBurstBeat index request beatIndex).1 accesses ∧
      map.Records (map.executeBurstBeat index request beatIndex).2 index (accesses.map .access) := by
  cases request with
  | readWords baseAddr beats kind =>
    obtain ⟨accesses, hloaded, hrecord⟩ := loadBytesFrom_recorded (map.device index)
      ((BurstRequest.readWords baseAddr beats kind).beatAddr beatIndex) 0 4
    exact ⟨accesses, ⟨_, hloaded, rfl⟩, records_setDevice hrecord⟩
  | writeWords baseAddr words =>
    obtain ⟨accesses, hstored, hrecord⟩ := storeBytesFrom_recorded (map.device index)
      ((BurstRequest.writeWords baseAddr words).beatAddr beatIndex) 0
      (toLeBytes (words[beatIndex]?.getD 0)).toList
    exact ⟨accesses, ⟨_, hstored, rfl⟩, records_setDevice hrecord⟩

end MemoryMap

end RvSim
