import RvSim.System.Machine

/-!
# A small bus for worked runs

A memory from address zero with interrupt lines, as the repository's own tests use, whose data
accesses and fetches can be kept busy. The ticks of a worked run set the lines and the busy flags.

## Main definitions

* `TestBus`, `TestBus.ofWords`
* `Machine.boot`: a pipeline core with a chosen hart state in front of a bus
-/

namespace RvSim

structure TestBus where
  bytes : List U8
  interrupts : InterruptSet := .empty
  dataBusy : Bool := false
  fetchBusy : Bool := false
  deriving DecidableEq

namespace TestBus

/-- A memory that holds `words` from address zero, little-endian. -/
def ofWords (words : List U32) : TestBus where
  bytes := words.flatMap fun (word : U32) =>
    [word.setWidth 8, (word >>> 8).setWidth 8, (word >>> 16).setWidth 8, (word >>> 24).setWidth 8]

def readByte (bus : TestBus) (addr : Address) : Except BusError U8 × TestBus :=
  match bus.bytes[addr.toNat]? with
  | some byte => (.ok byte, bus)
  | none => (.error (.unmappedAddress addr), bus)

def load8 (bus : TestBus) (addr : Address) : Except BusError U8 × TestBus :=
  if bus.dataBusy then (.error (.busy 1), bus) else bus.readByte addr

def store8 (bus : TestBus) (addr : Address) (value : U8) : Except BusError Unit × TestBus :=
  if bus.dataBusy then (.error (.busy 1), bus)
  else if addr.toNat < bus.bytes.length then
    (.ok (), { bus with bytes := bus.bytes.set addr.toNat value })
  else (.error (.unmappedAddress addr), bus)

def fetch32 (bus : TestBus) (addr : Address) : Except BusError U32 × TestBus :=
  if bus.fetchBusy then (.error (.busy 1), bus) else defaultLoad32 readByte bus addr

instance : Bus TestBus where
  load8 := load8
  store8 := store8
  fetch32 := fetch32
  pendingInterrupts := interrupts

/-- The tick that raises exactly the lines `interrupts`. -/
def raise (interrupts : InterruptSet) (bus : TestBus) : TestBus := { bus with interrupts }

/-- The tick that makes data accesses busy, or not. -/
def setBusy (dataBusy : Bool) (bus : TestBus) : TestBus := { bus with dataBusy }

/-- The tick that makes fetches busy, or not. -/
def setFetchBusy (fetchBusy : Bool) (bus : TestBus) : TestBus := { bus with fetchBusy }

end TestBus

/-- A machine whose hart starts at zero with the changes `host` makes to its state. -/
def Machine.boot {β : Type} (host : HartState → HartState) (bus : β) :
    Machine PipelineCore β where
  cpu := { PipelineCore.new 0 with state := { host (HartState.new 0) with pc := 0 } }
  bus := bus

theorem Machine.boot_boot {β : Type} (host : HartState → HartState) (bus : β) :
    (Machine.boot host bus).cpu.Boot := ⟨rfl, rfl, rfl⟩

end RvSim
