import RvSim.Devices.Registers

/-!
# The interrupt controller

A minimal external interrupt controller with 32 software-visible sources. A read of the claim register
latches the claimed source on its first byte, and a write completes a source with its last byte.

## Main definitions

* `InterruptController`, `InterruptController.claimNext`, `InterruptController.completeSource`
-/

namespace RvSim

/-- A minimal external interrupt controller with 32 software-visible sources. -/
structure InterruptController where
  range : AddressRange
  pending : U32 := 0
  enable : U32 := 0
  claimed : U32 := 0
  route : InterruptRoute := .machineExternal
  claimLatch : Option U32 := none
  completeStaging : Vector U8 4 := .replicate 4 0
  deriving DecidableEq

namespace InterruptController

def enableOffset : Address := 4
def setPendingOffset : Address := 8
def claimCompleteOffset : Address := 12
def routeOffset : Address := 16

def new (base : Address) : InterruptController where
  range := ⟨base, 20⟩

def offset (controller : InterruptController) (addr : Address) : Except BusError Address :=
  if controller.range.contains addr then .ok (addr - controller.range.start)
  else .error (.unmappedAddress addr)

def enabledPending (controller : InterruptController) : U32 := controller.pending &&& controller.enable

def sourceMask (sourceId : U32) : U32 :=
  if 1 ≤ sourceId ∧ sourceId ≤ 32 then (1 : U32) <<< (sourceId - 1) else 0

/-- `u32::trailing_zeros`. -/
def trailingZeros (word : U32) : Nat := ((List.range 32).find? (word.getLsbD ·)).getD 32

def highestPriorityPendingSource (controller : InterruptController) : U32 :=
  if controller.enabledPending = 0 then 0
  else BitVec.ofNat 32 (trailingZeros controller.enabledPending) + 1

def claimNext (controller : InterruptController) : U32 × InterruptController :=
  let sourceId := controller.highestPriorityPendingSource
  if sourceId ≠ 0 then
    let mask := sourceMask sourceId
    (sourceId,
      { controller with
        pending := controller.pending &&& ~~~mask
        claimed := controller.claimed ||| mask })
  else (sourceId, controller)

def completeSource (controller : InterruptController) (sourceId : U32) : InterruptController :=
  { controller with claimed := controller.claimed &&& ~~~sourceMask sourceId }

def readRegisterByte (controller : InterruptController) (offset : Address) : U8 :=
  if offset < enableOffset then (toLeBytes controller.pending).get (byteIndex offset)
  else if offset < setPendingOffset then
    (toLeBytes controller.enable).get (byteIndex (offset - enableOffset))
  else if offset < claimCompleteOffset then 0
  else if offset < routeOffset then
    (toLeBytes (controller.claimLatch.getD 0)).get (byteIndex (offset - claimCompleteOffset))
  else if offset < 20 then
    (toLeBytes controller.route.registerBits).get (byteIndex (offset - routeOffset))
  else 0

def load8 (controller : InterruptController) (addr : Address) : Except BusError U8 × InterruptController :=
  match controller.offset addr with
  | .error error => (.error error, controller)
  | .ok offset =>
    let latched :=
      if offset = claimCompleteOffset then
        { controller.claimNext.2 with claimLatch := some controller.claimNext.1 }
      else controller
    (.ok (latched.readRegisterByte offset),
      if offset = claimCompleteOffset + 3 then { latched with claimLatch := none } else latched)

/-- The register file after a store at an offset. -/
def storeRegister (controller : InterruptController) (addr offset : Address) (value : U8) :
    Except BusError Unit × InterruptController :=
  if offset < enableOffset then (.error (.readOnlyAddress addr), controller)
  else if offset < setPendingOffset then
    (.ok (),
      { controller with
        enable := writeU32Byte controller.enable (byteIndex (offset - enableOffset)) value })
  else if offset < claimCompleteOffset then
    let mask : U32 := value.setWidth 32 <<< (8 * (offset &&& 0b11).toNat)
    (.ok (), { controller with pending := controller.pending ||| mask &&& ~~~controller.claimed })
  else if offset < routeOffset then
    let staged :=
      { controller with
        completeStaging :=
          controller.completeStaging.set (byteIndex (offset - claimCompleteOffset)) value }
    (.ok (),
      if offset = claimCompleteOffset + 3 then
        { staged.completeSource (fromLeBytes staged.completeStaging) with
          completeStaging := .replicate 4 0 }
      else staged)
  else if offset < 20 then
    let route := writeU32Byte controller.route.registerBits (byteIndex (offset - routeOffset)) value
    (.ok (), { controller with route := InterruptRoute.fromRegister route })
  else (.error (.unmappedAddress addr), controller)

def store8 (controller : InterruptController) (addr : Address) (value : U8) :
    Except BusError Unit × InterruptController :=
  match controller.offset addr with
  | .error error => (.error error, controller)
  | .ok offset => controller.storeRegister addr offset value

def pendingInterrupts (controller : InterruptController) : InterruptSet :=
  if controller.enabledPending ≠ 0 then .fromLine controller.route.interruptLine else .empty

instance : Addressable InterruptController where
  load8 := load8
  store8 := store8
  pendingInterrupts := pendingInterrupts

end InterruptController

end RvSim
