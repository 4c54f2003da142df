import RvSim.Devices.Registers

/-!
# The block device

A simple RAM-backed block device with a one-block staging window. Software selects a block, fills or
drains the window, and starts a command through the control register; commands take a fixed number of
ticks.

## Main definitions

* `BlockDevice`, `BlockDevice.startCommand`, `BlockDevice.finishCommand`, `BlockDevice.tick`
-/

namespace RvSim

inductive BlockCommand
  | readBlock | writeBlock
  deriving DecidableEq, Repr

structure ActiveCommand where
  kind : BlockCommand
  remainingCycles : U32
  deriving DecidableEq

/-- A simple RAM-backed MMIO block device with a one-block staging window. It has at least one block, and a
block is a number of words. -/
structure BlockDevice where
  range : AddressRange
  blockCount : U32
  blockBytes : Nat
  blockCount_pos : 0 < blockCount
  blockBytes_words : 0 < blockBytes ∧ blockBytes % 4 = 0
  operationLatency : U32
  selectedBlock : U32 := 0
  irqEnabled : Bool := false
  done : Bool := false
  error : Bool := false
  interruptRoute : InterruptRoute := .machineExternal
  staging : List U8
  storage : List U8
  active : Option ActiveCommand := none
  deriving DecidableEq

namespace BlockDevice

def controlOffset : Address := 4
def blockCountOffset : Address := 8
def blockBytesOffset : Address := 12
def dataWindowOffset : Address := 16

def controlStartRead : U32 := 1 <<< 0
def controlStartWrite : U32 := 1 <<< 1
def statusBusy : U32 := 1 <<< 2
def statusDone : U32 := 1 <<< 3
def controlIrqEnable : U32 := 1 <<< 4
def statusError : U32 := 1 <<< 5

def routeOffset (blockBytes : Nat) : Address := dataWindowOffset + BitVec.ofNat 64 blockBytes

/-- The device that is built if the two assertions of the constructor hold. -/
def new (base : Address) (blockCount : U32) (blockBytes : Nat) (operationLatency : U32)
    (blockCount_pos : 0 < blockCount) (blockBytes_words : 0 < blockBytes ∧ blockBytes % 4 = 0) :
    BlockDevice where
  range := ⟨base, routeOffset blockBytes + 4⟩
  blockCount
  blockBytes
  blockCount_pos
  blockBytes_words
  operationLatency
  staging := List.replicate blockBytes 0
  storage := List.replicate (blockCount.toNat * blockBytes) 0

def offset (device : BlockDevice) (addr : Address) : Except BusError Address :=
  if device.range.contains addr then .ok (addr - device.range.start) else .error (.unmappedAddress addr)

/-- The first byte of a block of the storage. -/
def blockRange (device : BlockDevice) (index : U32) : Option Nat :=
  if device.blockCount ≤ index then none else some (index.toNat * device.blockBytes)

def routeOffsetForInstance (device : BlockDevice) : Address := routeOffset device.blockBytes

def controlWord (device : BlockDevice) : U32 :=
  (if device.active.isSome then statusBusy else 0) ||| (if device.done then statusDone else 0)
    ||| (if device.irqEnabled then controlIrqEnable else 0) ||| (if device.error then statusError else 0)

def finishCommand (device : BlockDevice) (kind : BlockCommand) : BlockDevice :=
  match device.blockRange device.selectedBlock with
  | none => { device with error := true, done := false }
  | some start =>
    match kind with
    | .readBlock =>
      { device with staging := (device.storage.drop start).take device.blockBytes, done := true }
    | .writeBlock =>
      { device with
        storage := device.storage.take start ++ device.staging ++
          device.storage.drop (start + device.blockBytes)
        done := true }

def startCommand (device : BlockDevice) (kind : BlockCommand) : BlockDevice :=
  let device := { device with done := false, error := false }
  if device.active.isSome then { device with error := true }
  else if device.operationLatency = 0 then device.finishCommand kind
  else { device with active := some ⟨kind, device.operationLatency⟩ }

def applyControlByte (device : BlockDevice) (value : U8) : BlockDevice :=
  let control : U32 := value.setWidth 32
  let device := { device with irqEnabled := (control &&& controlIrqEnable) != 0 }
  let device := if control &&& statusDone ≠ 0 then { device with done := false } else device
  let device := if control &&& statusError ≠ 0 then { device with error := false } else device
  match (control &&& controlStartRead) != 0, (control &&& controlStartWrite) != 0 with
  | true, false => device.startCommand .readBlock
  | false, true => device.startCommand .writeBlock
  | true, true => { device with done := false, error := true }
  | false, false => device

/-- The offset is in the route register. -/
def isRoute (device : BlockDevice) (offset : Address) : Prop :=
  device.routeOffsetForInstance ≤ offset ∧ offset < device.routeOffsetForInstance + 4

instance (device : BlockDevice) (offset : Address) : Decidable (device.isRoute offset) :=
  inferInstanceAs (Decidable (_ ∧ _))

def readRegisterByte (device : BlockDevice) (offset : Address) : Except BusError U8 :=
  if offset < controlOffset then .ok ((toLeBytes device.selectedBlock).get (byteIndex offset))
  else if offset < blockCountOffset then
    .ok ((toLeBytes device.controlWord).get (byteIndex (offset - controlOffset)))
  else if offset < blockBytesOffset then
    .ok ((toLeBytes device.blockCount).get (byteIndex (offset - blockCountOffset)))
  else if offset < dataWindowOffset then
    .ok ((toLeBytes (BitVec.ofNat 32 device.blockBytes)).get (byteIndex (offset - blockBytesOffset)))
  else if device.isRoute offset then
    .ok ((toLeBytes device.interruptRoute.registerBits).get
      (byteIndex (offset - device.routeOffsetForInstance)))
  else
    match device.staging[(offset - dataWindowOffset).toNat]? with
    | some byte => .ok byte
    | none => .error (.unmappedAddress (device.range.start + offset))

def load8 (device : BlockDevice) (addr : Address) : Except BusError U8 × BlockDevice :=
  match device.offset addr with
  | .error error => (.error error, device)
  | .ok offset => (device.readRegisterByte offset, device)

/-- The register file after a store at an offset. -/
def storeRegister (device : BlockDevice) (addr offset : Address) (value : U8) :
    Except BusError Unit × BlockDevice :=
  if offset < controlOffset then
    (.ok (),
      { device with selectedBlock := writeU32Byte device.selectedBlock (byteIndex offset) value })
  else if offset < blockCountOffset then
    (.ok (), if offset = controlOffset then device.applyControlByte value else device)
  else if offset < dataWindowOffset then (.error (.readOnlyAddress addr), device)
  else if device.isRoute offset then
    let route := writeU32Byte device.interruptRoute.registerBits
      (byteIndex (offset - device.routeOffsetForInstance)) value
    (.ok (), { device with interruptRoute := InterruptRoute.fromRegister route })
  else
    let index := (offset - dataWindowOffset).toNat
    if index < device.staging.length then
      (.ok (), { device with staging := device.staging.set index value })
    else (.error (.unmappedAddress (device.range.start + offset)), device)

def store8 (device : BlockDevice) (addr : Address) (value : U8) : Except BusError Unit × BlockDevice :=
  match device.offset addr with
  | .error error => (.error error, device)
  | .ok offset => device.storeRegister addr offset value

def tick (device : BlockDevice) : BlockDevice :=
  match device.active with
  | none => device
  | some active =>
    if 1 < active.remainingCycles then
      { device with active := some { active with remainingCycles := active.remainingCycles - 1 } }
    else { device with active := none }.finishCommand active.kind

def pendingInterrupts (device : BlockDevice) : InterruptSet :=
  if device.irqEnabled && (device.done || device.error) then
    .fromLine device.interruptRoute.interruptLine
  else .empty

instance : Addressable BlockDevice where
  load8 := load8
  store8 := store8
  tick := tick
  pendingInterrupts := pendingInterrupts

end BlockDevice

end RvSim
