import RvSim.System.Protocol

/-!
# Registers of devices

What the register blocks of the devices have in common, and the two simplest of them.

## Main definitions

* `writeU32Byte`, `byteIndex`: the bytes of a register
* `InterruptRoute`: the line that a device raises
* `SimpleUart`, `MachineTimer`
-/

namespace RvSim

/-! ## The bytes of a word -/

/-- A word with one byte replaced. -/
def writeU32Byte (value : U32) (byteIndex : Fin 4) (byte : U8) : U32 :=
  fromLeBytes ((toLeBytes value).set byteIndex byte)

/-- The byte of a word that an offset names. -/
def byteIndex (offset : Address) : Fin 4 := (offset &&& 0b11).toFin.castLT (by
  have hle : offset.toNat &&& 3 ≤ 3 := Nat.and_le_right
  have heq : (offset &&& 0b11).toFin.val = offset.toNat &&& 3 := BitVec.toNat_and _ _
  omega)

@[simp] theorem toLeBytes_writeU32Byte (value : U32) (index : Fin 4) (byte : U8) :
    toLeBytes (writeU32Byte value index byte) = (toLeBytes value).set index byte :=
  toLeBytes_fromLeBytes _

/-! ## Interrupt routes -/

inductive InterruptRoute
  | machineExternal | supervisorExternal
  deriving DecidableEq, Repr

namespace InterruptRoute

def fromRegister (value : U32) : InterruptRoute :=
  if value &&& 1 ≠ 0 then supervisorExternal else machineExternal

def registerBits : InterruptRoute → U32
  | machineExternal => 0
  | supervisorExternal => 1

def interruptLine : InterruptRoute → InterruptLine
  | machineExternal => .machineExternal
  | supervisorExternal => .supervisorExternal

/-- Only the lowest byte of the route register counts. -/
theorem fromRegister_congr {value value' : U32} (h : (toLeBytes value).get 0 = (toLeBytes value').get 0) :
    fromRegister value = fromRegister value' := by
  have hlow (word : U32) : word &&& (1 : U32) = ((toLeBytes word).get 0 &&& (1 : U8)).setWidth 32 := by
    show word &&& (1 : U32) = (word.setWidth 8 &&& (1 : U8)).setWidth 32
    refine BitVec.eq_of_getLsbD_eq fun i hi => ?_
    rcases Nat.eq_zero_or_pos i with rfl | hpos
    · simp
    · simp [BitVec.getLsbD_setWidth, hi, Nat.ne_of_gt hpos]
  unfold fromRegister
  rw [hlow, hlow value', h]

theorem fromRegister_registerBits (route : InterruptRoute) : fromRegister route.registerBits = route := by
  cases route <;> rfl

theorem fromRegister_writeU32Byte (route : InterruptRoute) {index : Fin 4} (hindex : index ≠ 0)
    (byte : U8) : fromRegister (writeU32Byte route.registerBits index byte) = route := by
  have hindex' : index.val ≠ 0 := fun h => hindex (Fin.ext h)
  refine (fromRegister_congr ?_).trans route.fromRegister_registerBits
  rw [toLeBytes_writeU32Byte]
  exact Vector.getElem_set_ne _ _ hindex'

end InterruptRoute

/-! ## The UART -/

/-- A tiny UART model with one transmit register and one status register. -/
structure SimpleUart where
  range : AddressRange
  txBuffer : List U8 := []
  deriving DecidableEq

namespace SimpleUart

def txOffset : Address := 0
def statusOffset : Address := 4

def new (base : Address) : SimpleUart where
  range := ⟨base, 8⟩

def offset (uart : SimpleUart) (addr : Address) : Except BusError Address :=
  if uart.range.contains addr then .ok (addr - uart.range.start) else .error (.unmappedAddress addr)

def load8 (uart : SimpleUart) (addr : Address) : Except BusError U8 × SimpleUart :=
  match uart.offset addr with
  | .error error => (.error error, uart)
  | .ok offset => (.ok (if offset = statusOffset then 1 else 0), uart)

def store8 (uart : SimpleUart) (addr : Address) (value : U8) : Except BusError Unit × SimpleUart :=
  match uart.offset addr with
  | .error error => (.error error, uart)
  | .ok offset =>
    if offset = txOffset then (.ok (), { uart with txBuffer := uart.txBuffer ++ [value] })
    else if offset = statusOffset then (.ok (), uart)
    else (.error (.unmappedAddress addr), uart)

instance : Addressable SimpleUart where
  load8 := load8
  store8 := store8

end SimpleUart

/-! ## The machine timer -/

/-- A minimal memory-mapped machine timer with `mtime` and `mtimecmp`. -/
structure MachineTimer where
  range : AddressRange
  mtime : U64 := 0
  mtimecmp : U64 := .allOnes 64
  deriving DecidableEq

namespace MachineTimer

def mtimeHighOffset : Address := 4
def mtimecmpLowOffset : Address := 8
def mtimecmpHighOffset : Address := 12

def new (base : Address) : MachineTimer where
  range := ⟨base, 16⟩

def offset (timer : MachineTimer) (addr : Address) : Except BusError Address :=
  if timer.range.contains addr then .ok (addr - timer.range.start) else .error (.unmappedAddress addr)

/-- The low half of a double word. -/
def low (word : U64) : U32 := word.setWidth 32

/-- The high half of a double word. -/
def high (word : U64) : U32 := (word >>> 32).setWidth 32

/-- A double word with another low half. -/
def withLow (word : U64) (half : U32) : U64 := word &&& ~~~0xffff_ffff ||| half.setWidth 64

/-- A double word with another high half. -/
def withHigh (word : U64) (half : U32) : U64 := half.setWidth 64 <<< 32 ||| word &&& 0xffff_ffff

def readRegisterByte (timer : MachineTimer) (offset : Address) : U8 :=
  if offset < mtimeHighOffset then (toLeBytes (low timer.mtime)).get (byteIndex offset)
  else if offset < mtimecmpLowOffset then
    (toLeBytes (high timer.mtime)).get (byteIndex (offset - mtimeHighOffset))
  else if offset < mtimecmpHighOffset then
    (toLeBytes (low timer.mtimecmp)).get (byteIndex (offset - mtimecmpLowOffset))
  else if offset < 16 then
    (toLeBytes (high timer.mtimecmp)).get (byteIndex (offset - mtimecmpHighOffset))
  else 0

def writeRegisterByte (timer : MachineTimer) (offset : Address) (value : U8) : MachineTimer :=
  if offset < mtimeHighOffset then
    { timer with
      mtime := withLow timer.mtime (writeU32Byte (low timer.mtime) (byteIndex offset) value) }
  else if offset < mtimecmpLowOffset then
    { timer with
      mtime := withHigh timer.mtime
        (writeU32Byte (high timer.mtime) (byteIndex (offset - mtimeHighOffset)) value) }
  else if offset < mtimecmpHighOffset then
    { timer with
      mtimecmp := withLow timer.mtimecmp
        (writeU32Byte (low timer.mtimecmp) (byteIndex (offset - mtimecmpLowOffset)) value) }
  else if offset < 16 then
    { timer with
      mtimecmp := withHigh timer.mtimecmp
        (writeU32Byte (high timer.mtimecmp) (byteIndex (offset - mtimecmpHighOffset)) value) }
  else timer

def load8 (timer : MachineTimer) (addr : Address) : Except BusError U8 × MachineTimer :=
  match timer.offset addr with
  | .error error => (.error error, timer)
  | .ok offset => (.ok (timer.readRegisterByte offset), timer)

def store8 (timer : MachineTimer) (addr : Address) (value : U8) : Except BusError Unit × MachineTimer :=
  match timer.offset addr with
  | .error error => (.error error, timer)
  | .ok offset => (.ok (), timer.writeRegisterByte offset value)

def tick (timer : MachineTimer) : MachineTimer := { timer with mtime := timer.mtime + 1 }

def pendingInterrupts (timer : MachineTimer) : InterruptSet :=
  if timer.mtimecmp ≤ timer.mtime then .fromLine .machineTimer else .empty

instance : Addressable MachineTimer where
  load8 := load8
  store8 := store8
  tick := tick
  machineTime timer := some timer.mtime
  pendingInterrupts := pendingInterrupts

end MachineTimer

end RvSim
