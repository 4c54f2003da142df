import RvSim.System.BusyMemory

/-!
# A memory to a client that repeats

Behind caches a request is answered as by a flat memory if the client repeats it until it is answered and
asks for nothing else in between. What a fetch sees is a weaker promise: a store may still lie in a data
line when the instruction side takes the word from below. The contract therefore carries the addresses that
have been stored to, and says behind which stores a fetch is answered with the latest ones.

## Main definitions

* `RepeatedMemory`: the contract, which every bus with a `MemoryContract` has
* `KeepsMemory`: what may happen to the bus between two cycles
-/

namespace RvSim

/-- The address that a request stores to. -/
def BusRequest.stored (request : BusRequest) : List Address := (request.storeOp.map (·.addr)).toList

/-- A bus that answers a client that repeats as the memory it holds. In `Quiet stores memory b` nothing is in
progress, in `Awaiting stores request memory b` the request is; `stores` are the addresses stored to so far,
and `fetches stores addr` says that a fetch at `addr` sees all of them. -/
class RepeatedMemory (β : Type) [Bus β] where
  fetches : List Address → Address → Bool
  Quiet : List Address → FlatMemory → β → Prop
  Awaiting : List Address → BusRequest → FlatMemory → β → Prop
  quiet_tick {stores : List Address} {memory : FlatMemory} {b : β} :
    Quiet stores memory b → Quiet stores memory (Bus.tick b)
  awaiting_tick {stores : List Address} {request : BusRequest} {memory : FlatMemory} {b : β} :
    Awaiting stores request memory b → Awaiting stores request memory (Bus.tick b)
  call_quiet {stores : List Address} {request : BusRequest} {memory : FlatMemory} {b : β} :
    request.Accessible memory → (∀ addr, request = .fetch32 addr → fetches stores addr = true) →
      Quiet stores memory b →
        AnsweredAs (Awaiting stores request) (Quiet (request.stored ++ stores)) request memory
          (request.call b)
  call_awaiting {stores : List Address} {request : BusRequest} {memory : FlatMemory} {b : β} :
    request.Accessible memory → Awaiting stores request memory b →
      AnsweredAs (Awaiting stores request) (Quiet (request.stored ++ stores)) request memory
        (request.call b)

/-- A bus that is a memory to one client at a time is one to a client that repeats: a fetch there always sees
the latest stores. -/
instance {β : Type} [BurstBus β] [MemoryContract β] : RepeatedMemory β where
  fetches _ _ := true
  Quiet _ := MemoryContract.Quiet
  Awaiting _ := MemoryContract.Awaiting
  quiet_tick := MemoryContract.quiet_tick
  awaiting_tick := MemoryContract.awaiting_tick
  call_quiet accessible _ := MemoryContract.call_quiet accessible.aligned accessible.maps
  call_awaiting accessible := MemoryContract.call_awaiting accessible.aligned accessible.maps

/-- What happens to the bus between two cycles of the core keeps the memory and the request in progress. -/
def KeepsMemory {β : Type} [Bus β] [RepeatedMemory β] (tick : β → β) : Prop :=
  ∀ stores memory b,
    (RepeatedMemory.Quiet stores memory b → RepeatedMemory.Quiet stores memory (tick b)) ∧
      ∀ request, RepeatedMemory.Awaiting stores request memory b →
        RepeatedMemory.Awaiting stores request memory (tick b)

theorem keepsMemory_tick {β : Type} [Bus β] [RepeatedMemory β] : KeepsMemory (Bus.tick (β := β)) :=
  fun _ _ _ => ⟨RepeatedMemory.quiet_tick, fun _ => RepeatedMemory.awaiting_tick⟩

end RvSim
