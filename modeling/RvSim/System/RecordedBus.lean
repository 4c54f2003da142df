import RvSim.System.Protocol

/-!
# A bus that records its calls

A bus with the calls that have been made of it, each with its answer. What is stated of the record is stated
of the calls themselves: a client that makes a call twice, or none, leaves another record.

## Main definitions

* `RecordedCall`, `RecordedBus`: the calls, and the bus that keeps them
* `RecordedBus.under`: what happens on the bus between the calls

## Main results

* `RecordedBus.call_eq`: a call is the call of the bus inside, and one entry of the record
-/

namespace RvSim

/-- A call of the bus, with its answer. -/
structure RecordedCall where
  request : BusRequest
  answer : Except BusError U32
  deriving DecidableEq

namespace RecordedCall

/-- The bus has made the access. -/
def performed (call : RecordedCall) : Bool :=
  match call.answer with
  | .ok _ => true
  | .error _ => false

/-- The bus has asked for the call to be made again. -/
def isBusy (call : RecordedCall) : Bool :=
  match call.answer with
  | .ok _ => false
  | .error error => error.isBusy

end RecordedCall

/-- A bus that records its calls. -/
structure RecordedBus (β : Type) where
  inner : β
  record : List RecordedCall := []
  deriving DecidableEq

namespace RecordedBus

variable {β : Type}

/-- A call of the bus inside, recorded. -/
def note {α : Type} (bus : RecordedBus β) (request : BusRequest) (value : α → U32)
    (out : Except BusError α × β) : Except BusError α × RecordedBus β :=
  (out.1, { inner := out.2, record := bus.record ++ [⟨request, out.1.map value⟩] })

/-- What happens on the bus inside. -/
def under (tick : β → β) (bus : RecordedBus β) : RecordedBus β := { bus with inner := tick bus.inner }

variable [Bus β]

instance : Bus (RecordedBus β) where
  load8 bus addr := bus.note (.load8 addr) (·.setWidth 32) (Bus.load8 bus.inner addr)
  load16 bus addr := bus.note (.load16 addr) (·.setWidth 32) (Bus.load16 bus.inner addr)
  load32 bus addr := bus.note (.load32 addr) id (Bus.load32 bus.inner addr)
  fetch32 bus addr := bus.note (.fetch32 addr) id (Bus.fetch32 bus.inner addr)
  store8 bus addr value := bus.note (.store8 addr value) (fun _ => 0) (Bus.store8 bus.inner addr value)
  store16 bus addr value := bus.note (.store16 addr value) (fun _ => 0) (Bus.store16 bus.inner addr value)
  store32 bus addr value := bus.note (.store32 addr value) (fun _ => 0) (Bus.store32 bus.inner addr value)
  tick := under Bus.tick
  machineTime bus := Bus.machineTime bus.inner
  isBusy bus := Bus.isBusy bus.inner
  pendingInterrupts bus := Bus.pendingInterrupts bus.inner

/-- A call is the call of the bus inside, and one entry of the record. -/
theorem call_eq (request : BusRequest) (bus : RecordedBus β) :
    request.call bus = ((request.call bus.inner).1,
      { inner := (request.call bus.inner).2
        record := bus.record ++ [⟨request, (request.call bus.inner).1⟩] }) := by
  have word (out : Except BusError U32 × β) (request : BusRequest) :
      bus.note request id out = (out.1, ⟨out.2, bus.record ++ [⟨request, out.1⟩]⟩) := by
    rcases out with ⟨error | value, b⟩ <;> rfl
  cases request with
  | fetch32 addr => exact word _ _
  | load32 addr => exact word _ _
  | _ => rfl

end RecordedBus

end RvSim
