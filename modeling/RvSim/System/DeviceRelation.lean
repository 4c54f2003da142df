import RvSim.System.Monitor

/-!
# Devices that answer alike

Two maps whose devices answer every load and store alike perform every access alike, however the devices
are kept.

## Main definitions

* `AnswerAlike`: a relation between devices that loads and stores keep
* The device of one of two kinds

## Main results

* `AnswerAlike.perform`: related maps give the same answers
-/

namespace RvSim

/-! ## Two kinds of devices -/

instance {A B : Type} [Addressable A] [Addressable B] : Addressable (A ⊕ B) where
  load8
    | .inl a, addr => ((Addressable.load8 a addr).1, .inl (Addressable.load8 a addr).2)
    | .inr b, addr => ((Addressable.load8 b addr).1, .inr (Addressable.load8 b addr).2)
  store8
    | .inl a, addr, value => ((Addressable.store8 a addr value).1, .inl (Addressable.store8 a addr value).2)
    | .inr b, addr, value => ((Addressable.store8 b addr value).1, .inr (Addressable.store8 b addr value).2)
  tick
    | .inl a => .inl (Addressable.tick a)
    | .inr b => .inr (Addressable.tick b)
  machineTime
    | .inl a => Addressable.machineTime a
    | .inr b => Addressable.machineTime b
  accessLatency
    | .inl a => Addressable.accessLatency a
    | .inr b => Addressable.accessLatency b
  latencyAsked
    | .inl a, addr, kind, width => .inl (Addressable.latencyAsked a addr kind width)
    | .inr b, addr, kind, width => .inr (Addressable.latencyAsked b addr kind width)
  pendingInterrupts
    | .inl a => Addressable.pendingInterrupts a
    | .inr b => Addressable.pendingInterrupts b

/-! ## Related devices -/

/-- Related devices answer loads and stores alike, and stay related. -/
structure AnswerAlike {A B : Type} [Addressable A] [Addressable B] (R : A → B → Prop) : Prop where
  load8 : ∀ {a b} addr, R a b → (Addressable.load8 a addr).1 = (Addressable.load8 b addr).1 ∧
    R (Addressable.load8 a addr).2 (Addressable.load8 b addr).2
  store8 : ∀ {a b} addr value, R a b →
    (Addressable.store8 a addr value).1 = (Addressable.store8 b addr value).1 ∧
      R (Addressable.store8 a addr value).2 (Addressable.store8 b addr value).2

namespace AnswerAlike

open MemoryMap

variable {A B : Type} {n : Nat} [Addressable A] [Addressable B] {R : A → B → Prop}

theorem loadBytesFrom (alike : AnswerAlike R) {a : A} {b : B} (h : R a b) (addr : Address)
    (offset count : Nat) :
    (MemoryMap.loadBytesFrom a addr offset count).1 = (MemoryMap.loadBytesFrom b addr offset count).1 ∧
      R (MemoryMap.loadBytesFrom a addr offset count).2 (MemoryMap.loadBytesFrom b addr offset count).2 := by
  induction count generalizing a b offset with
  | zero => exact ⟨rfl, h⟩
  | succ count ih =>
    obtain ⟨hanswer, hafter⟩ := alike.load8 (addr + BitVec.ofNat 64 offset) h
    unfold MemoryMap.loadBytesFrom
    generalize Addressable.load8 a (addr + BitVec.ofNat 64 offset) = left at hanswer hafter ⊢
    generalize Addressable.load8 b (addr + BitVec.ofNat 64 offset) = right at hanswer hafter ⊢
    obtain ⟨answer, a'⟩ := left
    obtain ⟨_, b'⟩ := right
    obtain rfl := hanswer
    cases answer with
    | error error => exact ⟨rfl, hafter⟩
    | ok byte =>
      obtain ⟨hrest, hlast⟩ := ih hafter (offset + 1)
      dsimp only
      generalize MemoryMap.loadBytesFrom a' addr (offset + 1) count = left at hrest hlast ⊢
      generalize MemoryMap.loadBytesFrom b' addr (offset + 1) count = right at hrest hlast ⊢
      obtain ⟨answer, a''⟩ := left
      obtain ⟨_, b''⟩ := right
      obtain rfl := hrest
      cases answer <;> exact ⟨rfl, hlast⟩

theorem storeBytesFrom (alike : AnswerAlike R) {a : A} {b : B} (h : R a b) (addr : Address)
    (offset : Nat) (bytes : List U8) :
    (MemoryMap.storeBytesFrom a addr offset bytes).1 = (MemoryMap.storeBytesFrom b addr offset bytes).1 ∧
      R (MemoryMap.storeBytesFrom a addr offset bytes).2
        (MemoryMap.storeBytesFrom b addr offset bytes).2 := by
  induction bytes generalizing a b offset with
  | nil => exact ⟨rfl, h⟩
  | cons byte bytes ih =>
    obtain ⟨hanswer, hafter⟩ := alike.store8 (addr + BitVec.ofNat 64 offset) byte h
    unfold MemoryMap.storeBytesFrom
    generalize Addressable.store8 a (addr + BitVec.ofNat 64 offset) byte = left at hanswer hafter ⊢
    generalize Addressable.store8 b (addr + BitVec.ofNat 64 offset) byte = right at hanswer hafter ⊢
    obtain ⟨answer, a'⟩ := left
    obtain ⟨_, b'⟩ := right
    obtain rfl := hanswer
    cases answer with
    | error error => exact ⟨rfl, hafter⟩
    | ok _ => exact ih hafter (offset + 1)

end AnswerAlike

/-! ## What an access does to its device -/

/-- The bytes of an access: so many are loaded, or these are stored. -/
inductive DeviceTransfer
  | load (count : Nat)
  | store (bytes : List U8)
  | unsupported

namespace DeviceTransfer

variable {D : Type} [Addressable D]

def run (transfer : DeviceTransfer) (device : D) (addr : Address) : Except BusError (List U8) × D :=
  match transfer with
  | load count => MemoryMap.loadBytesFrom device addr 0 count
  | store bytes =>
    ((MemoryMap.storeBytesFrom device addr 0 bytes).1.map fun _ => [],
      (MemoryMap.storeBytesFrom device addr 0 bytes).2)
  | unsupported => (.ok [], device)

end DeviceTransfer

def TransactionRequest.transfer (request : TransactionRequest) : DeviceTransfer :=
  match request.kind, request.width with
  | .fetch, 4 | .load, 4 => .load 4
  | .load, 2 => .load 2
  | .load, 1 => .load 1
  | .store, 4 => .store request.writeData.toList
  | .store, 2 => .store [firstByte request.writeData, secondByte request.writeData]
  | .store, 1 => .store [firstByte request.writeData]
  | _, _ => .unsupported

def BurstRequest.transfer (request : BurstRequest) (beatIndex : Nat) : DeviceTransfer :=
  match request with
  | .readWords _ _ _ => .load 4
  | .writeWords _ words => .store (toLeBytes (words[beatIndex]?.getD 0)).toList

namespace Access

variable {D : Type} {n : Nat}

def transfer : Access n → DeviceTransfer
  | transaction _ request => request.transfer
  | beat _ request beatIndex => request.transfer beatIndex

/-- The answer that the bytes make. -/
def answered (access : Access n) (bytes : Except BusError (List U8)) : AccessAnswer :=
  match access with
  | transaction _ request =>
    .transaction <| match request.transfer with
      | .load count => MemoryMap.readResponse count bytes
      | .store _ => bytes.map fun _ => .writeComplete
      | .unsupported => .error (.deviceFault request.addr
          s!"unsupported transaction {request.kind.debugText} width {request.width}")
  | beat _ request _ =>
    .beat <| match request with
      | .readWords _ _ _ => bytes.map fun bytes => some (fromLeBytes (MemoryMap.padBytes bytes))
      | .writeWords _ _ => bytes.map fun _ => none

end Access

namespace MemoryMap

variable {D : Type} {n : Nat}

theorem setDevice_device (map : MemoryMap D n) (index : Fin n) :
    map.setDevice index (map.device index) = map := by
  have hdevices : map.devices.set index { map.devices[index] with device := map.device index } =
      map.devices := Vector.set_getElem_self _
  unfold setDevice
  rw [hdevices]

variable [Addressable D]

theorem device_tickDevices (map : MemoryMap D n) (index : Fin n) :
    map.tickDevices.device index = Addressable.tick (map.device index) := by
  unfold MemoryMap.device tickDevices
  simp

end MemoryMap

namespace Access

variable {D : Type} {n : Nat} [Addressable D]

theorem map_const_except {α γ : Type} (answer : Except BusError Unit) (value : γ) (bytes : α) :
    (answer.map fun _ => value) = (answer.map fun _ => bytes).map fun _ => value := by
  cases answer <;> rfl

/-- **An access is a transfer** of bytes on its device. -/
theorem perform_eq (access : Access n) (map : MemoryMap D n) :
    access.perform map =
      (access.answered (access.transfer.run (map.device access.deviceIndex) access.addr).1,
        map.setDevice access.deviceIndex
          (access.transfer.run (map.device access.deviceIndex) access.addr).2) := by
  cases access with
  | beat deviceIndex request beatIndex =>
    cases request with
    | readWords baseAddr beats kind => rfl
    | writeWords baseAddr words =>
      exact Prod.ext (congrArg AccessAnswer.beat (map_const_except _ _ _)) rfl
  | transaction deviceIndex request =>
    obtain ⟨addr, kind, width, writeData⟩ := request
    have hself := map.setDevice_device deviceIndex
    by_cases h4 : width = 4
    · subst h4
      cases kind with
      | store => exact Prod.ext (congrArg AccessAnswer.transaction (map_const_except _ _ _)) rfl
      | _ => rfl
    by_cases h2 : width = 2
    · subst h2
      cases kind with
      | fetch => exact Prod.ext rfl hself.symm
      | load => rfl
      | store => exact Prod.ext (congrArg AccessAnswer.transaction (map_const_except _ _ _)) rfl
    by_cases h1 : width = 1
    · subst h1
      cases kind with
      | fetch => exact Prod.ext rfl hself.symm
      | load => rfl
      | store => exact Prod.ext (congrArg AccessAnswer.transaction (map_const_except _ _ _)) rfl
    -- no other width is supported, and the device is left alone
    have htransfer : TransactionRequest.transfer ⟨addr, kind, width, writeData⟩ = .unsupported := by
      unfold TransactionRequest.transfer
      dsimp only
      split <;> first | exact absurd rfl h4 | exact absurd rfl h2 | exact absurd rfl h1 | rfl
    have hexecute : map.executeRequest deviceIndex ⟨addr, kind, width, writeData⟩ =
        (.error (.deviceFault addr s!"unsupported transaction {kind.debugText} width {width}"), map) := by
      unfold MemoryMap.executeRequest
      dsimp only
      split <;> first | exact absurd rfl h4 | exact absurd rfl h2 | exact absurd rfl h1 | rfl
    unfold perform answered transfer
    dsimp only
    rw [htransfer, hexecute]
    exact Prod.ext rfl hself.symm

end Access

namespace AnswerAlike

variable {A B : Type} {n : Nat} [Addressable A] [Addressable B] {R : A → B → Prop}

theorem run (alike : AnswerAlike R) {a : A} {b : B} (h : R a b) (transfer : DeviceTransfer)
    (addr : Address) :
    (transfer.run a addr).1 = (transfer.run b addr).1 ∧
      R (transfer.run a addr).2 (transfer.run b addr).2 := by
  cases transfer with
  | load count => exact alike.loadBytesFrom h addr 0 count
  | store bytes =>
    obtain ⟨hanswer, hafter⟩ := alike.storeBytesFrom h addr 0 bytes
    exact ⟨congrArg (Except.map fun _ => []) hanswer, hafter⟩
  | unsupported => exact ⟨rfl, h⟩

/-- **Related maps perform an access alike.** -/
theorem perform (alike : AnswerAlike R) {map : MemoryMap A n} {map' : MemoryMap B n}
    (h : ∀ index, R (map.device index) (map'.device index)) (access : Access n) :
    (access.perform map).1 = (access.perform map').1 ∧
      ∀ index, R ((access.perform map).2.device index) ((access.perform map').2.device index) := by
  obtain ⟨hanswer, hafter⟩ := alike.run (h access.deviceIndex) access.transfer access.addr
  rw [access.perform_eq map, access.perform_eq map']
  refine ⟨congrArg access.answered hanswer, fun index => ?_⟩
  dsimp only
  rw [MemoryMap.device_setDevice, MemoryMap.device_setDevice]
  by_cases hindex : index = access.deviceIndex
  · rw [if_pos hindex, if_pos hindex]
    exact hafter
  · rw [if_neg hindex, if_neg hindex]
    exact h index

end AnswerAlike

end RvSim
