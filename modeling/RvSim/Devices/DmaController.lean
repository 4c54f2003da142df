import RvSim.Devices.Registers

/-!
# The DMA controller

A memory-to-memory DMA engine with bounded read-ahead bursts. Software programs it through registers; as
a bus master it issues read bursts, buffers what they return, and writes it out.

## Main definitions

* `ActiveTransfer`, `DmaController`
* `DmaController.applyControlByte`, `DmaController.startTransfer`: what the control register does
* `DmaController.request`, `DmaController.onResponse`: the bus master
-/

namespace RvSim

structure PendingWriteBurst where
  destination : Address
  words : List U32
  deriving DecidableEq

inductive IssuedDmaRequest
  | readBurst (destination : Address) (beats : Nat)
  | writeBurst (beats : Nat)
  deriving DecidableEq

def IssuedDmaRequest.isRead : IssuedDmaRequest → Bool
  | readBurst _ _ => true
  | writeBurst _ => false

structure ActiveTransfer where
  nextSource : Address
  nextDestination : Address
  remainingWords : U32
  readyWrites : List PendingWriteBurst := []
  issuedRequests : List IssuedDmaRequest := []
  deriving DecidableEq

namespace ActiveTransfer

def bufferedReadBursts (active : ActiveTransfer) : Nat :=
  active.readyWrites.length + (active.issuedRequests.filter (·.isRead)).length

def isComplete (active : ActiveTransfer) : Bool :=
  active.remainingWords == 0 && active.readyWrites.isEmpty && active.issuedRequests.isEmpty

end ActiveTransfer

/-- A simple memory-to-memory DMA engine with bounded read-ahead bursts. -/
structure DmaController where
  range : AddressRange
  source : U32 := 0
  destination : U32 := 0
  lengthWords : U32 := 0
  transferredWords : U32 := 0
  irqEnabled : Bool := false
  done : Bool := false
  error : Bool := false
  interruptRoute : InterruptRoute := .machineExternal
  active : Option ActiveTransfer := none
  deriving DecidableEq

namespace DmaController

def maxBurstWords : Nat := 8
def maxOutstandingRequests : Nat := 4

def sourceOffset : Address := 0
def destinationOffset : Address := 4
def lengthOffset : Address := 8
def controlOffset : Address := 12
def transferredOffset : Address := 16
def routeOffset : Address := 20

def controlStart : U32 := 1 <<< 0
def statusBusy : U32 := 1 <<< 1
def statusDone : U32 := 1 <<< 2
def controlIrqEnable : U32 := 1 <<< 3
def statusError : U32 := 1 <<< 4

def new (base : Address) : DmaController where
  range := ⟨base, 24⟩

def isBusy (dma : DmaController) : Bool := dma.active.isSome

/-! ## Registers -/

def offset (dma : DmaController) (addr : Address) : Except BusError Address :=
  if dma.range.contains addr then .ok (addr - dma.range.start) else .error (.unmappedAddress addr)

def controlWord (dma : DmaController) : U32 :=
  (if dma.isBusy then statusBusy else 0) ||| (if dma.done then statusDone else 0)
    ||| (if dma.irqEnabled then controlIrqEnable else 0) ||| (if dma.error then statusError else 0)

def readRegisterWord (dma : DmaController) (offset : Address) : Except BusError U32 :=
  if offset = sourceOffset then .ok dma.source
  else if offset = destinationOffset then .ok dma.destination
  else if offset = lengthOffset then .ok dma.lengthWords
  else if offset = controlOffset then .ok dma.controlWord
  else if offset = transferredOffset then .ok dma.transferredWords
  else if offset = routeOffset then .ok dma.interruptRoute.registerBits
  else .error (.unmappedAddress (dma.range.start + offset))

def startTransfer (dma : DmaController) : DmaController :=
  if dma.isBusy then dma
  else
    let dma := { dma with done := false, error := false, transferredWords := 0 }
    if dma.lengthWords = 0 then { dma with error := true }
    else
      { dma with active := some {
          nextSource := dma.source.setWidth 64
          nextDestination := dma.destination.setWidth 64
          remainingWords := dma.lengthWords } }

def burstWords (remainingWords : U32) : Nat := min remainingWords.toNat maxBurstWords

def applyControlByte (dma : DmaController) (value : U8) : DmaController :=
  let value : U32 := value.setWidth 32
  let dma := { dma with irqEnabled := (value &&& controlIrqEnable) != 0 }
  let dma := if value &&& statusDone ≠ 0 then { dma with done := false } else dma
  let dma := if value &&& statusError ≠ 0 then { dma with error := false } else dma
  if value &&& controlStart ≠ 0 then dma.startTransfer else dma

def load8 (dma : DmaController) (addr : Address) : Except BusError U8 × DmaController :=
  match dma.offset addr with
  | .error error => (.error error, dma)
  | .ok offset =>
    match dma.readRegisterWord (offset &&& ~~~0b11) with
    | .error error => (.error error, dma)
    | .ok word => (.ok (toLeBytes word)[byteIndex offset], dma)

/-- The register file after a store at an offset. -/
def storeRegister (dma : DmaController) (addr offset : Address) (value : U8) :
    Except BusError Unit × DmaController :=
  let index := byteIndex offset
  if offset &&& ~~~0b11 = sourceOffset then
    (.ok (), { dma with source := writeU32Byte dma.source index value })
  else if offset &&& ~~~0b11 = destinationOffset then
    (.ok (), { dma with destination := writeU32Byte dma.destination index value })
  else if offset &&& ~~~0b11 = lengthOffset then
    (.ok (), { dma with lengthWords := writeU32Byte dma.lengthWords index value })
  else if offset &&& ~~~0b11 = controlOffset then
    (.ok (), if index = 0 then dma.applyControlByte value else dma)
  else if offset &&& ~~~0b11 = transferredOffset then (.error (.readOnlyAddress addr), dma)
  else if offset &&& ~~~0b11 = routeOffset then
    let route := writeU32Byte dma.interruptRoute.registerBits index value
    (.ok (), { dma with interruptRoute := InterruptRoute.fromRegister route })
  else (.error (.unmappedAddress addr), dma)

def store8 (dma : DmaController) (addr : Address) (value : U8) :
    Except BusError Unit × DmaController :=
  match dma.offset addr with
  | .error error => (.error error, dma)
  | .ok offset => dma.storeRegister addr offset value

def pendingInterrupts (dma : DmaController) : InterruptSet :=
  if dma.irqEnabled && (dma.done || dma.error) then .fromLine dma.interruptRoute.interruptLine
  else .empty

instance : Addressable DmaController where
  load8 := load8
  store8 := store8
  pendingInterrupts := pendingInterrupts

/-! ## The bus master -/

/-- Issue the first buffered write. -/
def issueWrite (active : ActiveTransfer) : Option (BusMasterRequest × ActiveTransfer) :=
  match active.readyWrites with
  | [] => none
  | write :: readyWrites =>
    some (.writeWords write.destination write.words,
      { active with
        readyWrites
        issuedRequests := active.issuedRequests ++ [.writeBurst write.words.length] })

/-- Issue the next read. -/
def issueRead (active : ActiveTransfer) : BusMasterRequest × ActiveTransfer :=
  let beats := burstWords active.remainingWords
  let advanceWords : U32 := BitVec.ofNat 32 beats
  (.readWords active.nextSource beats,
    { active with
      nextSource := active.nextSource + advanceWords.setWidth 64 * 4
      nextDestination := active.nextDestination + advanceWords.setWidth 64 * 4
      remainingWords := active.remainingWords - advanceWords
      issuedRequests := active.issuedRequests ++ [.readBurst active.nextDestination beats] })

/-- What the controller asks for next. -/
def nextRequest (active : ActiveTransfer) : Option (BusMasterRequest × ActiveTransfer) :=
  if active.readyWrites ≠ [] ∧
      (active.remainingWords = 0 ∨ maxOutstandingRequests ≤ active.bufferedReadBursts) then
    issueWrite active
  else if 0 < active.remainingWords ∧ active.bufferedReadBursts < maxOutstandingRequests then
    some (issueRead active)
  else issueWrite active

def request (dma : DmaController) : Option BusMasterRequest × DmaController :=
  match dma.active.bind nextRequest with
  | some (request, active) => (some request, { dma with active := some active })
  | none => (none, dma)

/-- What a response does to the transfer whose oldest request it is for; `none` is an error. -/
def pair (dma : DmaController) (active : ActiveTransfer) (issued : IssuedDmaRequest)
    (response : Except BusError BusMasterResponse) : Option (DmaController × ActiveTransfer) :=
  match issued, response with
  | .readBurst destination beats, .ok (.readWords words) =>
    if words.length = beats then
      some (dma, { active with readyWrites := active.readyWrites ++ [⟨destination, words⟩] })
    else none
  | .writeBurst beats, .ok (.writeWordsComplete completedBeats) =>
    if completedBeats = beats then
      some ({ dma with transferredWords := dma.transferredWords + BitVec.ofNat 32 beats }, active)
    else none
  | _, _ => none

def onResponse (dma : DmaController) (response : Except BusError BusMasterResponse) :
    DmaController :=
  match dma.active with
  | none => dma
  | some active =>
    match active.issuedRequests with
    | [] => { dma with active := none, error := true }
    | issued :: issuedRequests =>
      match dma.pair { active with issuedRequests } issued response with
      | none => { dma with active := none, error := true }
      | some (dma, active) =>
        if active.isComplete then { dma with active := none, done := true }
        else { dma with active := some active }

instance : BusMaster DmaController where
  maxOutstandingRequests _ := maxOutstandingRequests
  request := request
  onResponse := onResponse

end DmaController

end RvSim
