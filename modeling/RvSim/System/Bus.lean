import RvSim.Isa.Instruction

/-!
# The bus

The bus trait as a class over the bus state: a method that takes `&mut self` returns its answer
with the next state. The wider accesses have the trait's default bodies, byte by byte. `AnyBus` is
a trait object: a bus of any type in one of its states.

## Main definitions

* `BusError`, `Settled`, `InterruptLine`, `InterruptSet`
* `Bus`: the trait, with its default methods
* `AnyBus`: a bus behind a trait object
-/

namespace RvSim

/-- Physical address used across the computer model. -/
abbrev Address := U64

/-- Bus-level failures exposed by devices and memory maps. -/
inductive BusError
  | busy (remainingCycles : U32)
  | unmappedAddress (addr : Address)
  | misalignedAccess (addr : Address) (width : Nat)
  | readOnlyAddress (addr : Address)
  | deviceFault (addr : Address) (message : String)
  deriving DecidableEq, Repr

def BusError.isBusy : BusError → Bool
  | .busy _ => true
  | _ => false

/-! ## Busy answers -/

/-- The answer is not that the bus is busy. -/
def Settled {α : Type} (answer : Except BusError α) : Prop := ∀ n, answer ≠ .error (.busy n)

theorem settled_ok {α : Type} (a : α) : Settled (.ok a) := fun _ h => by cases h

theorem settled_error {α : Type} {error : BusError} (h : error.isBusy = false) :
    Settled (.error error : Except BusError α) := by
  rintro n heq
  rw [Except.error.inj heq] at h
  cases h

theorem Settled.map {α γ : Type} {answer : Except BusError α} (h : Settled answer) (f : α → γ) :
    Settled (answer.map f) := by
  intro n heq
  cases answer with
  | ok a => cases heq
  | error error => exact h n (congrArg _ (Except.error.inj heq))

theorem Settled.cases {α : Type} {answer : Except BusError α} (h : Settled answer) :
    (∃ a, answer = .ok a) ∨ ∃ error, answer = .error error ∧ error.isBusy = false := by
  rcases answer with error | a
  · cases error with
    | busy n => exact absurd rfl (h n)
    | _ => exact .inr ⟨_, rfl, rfl⟩
  · exact .inl ⟨a, rfl⟩

/-! ## Interrupt lines -/

/-- Interrupt lines exposed by memory-mapped devices to the CPU. -/
inductive InterruptLine
  | supervisorSoftware | machineSoftware | supervisorTimer | machineTimer
  | supervisorExternal | machineExternal
  deriving DecidableEq, Repr

/-- Aggregate interrupt state visible on the unified bus. -/
structure InterruptSet where
  bits : U8
  deriving DecidableEq, Repr

namespace InterruptSet

def empty : InterruptSet := ⟨0⟩

def maskFor : InterruptLine → U8
  | .supervisorSoftware => 1 <<< 0
  | .machineSoftware => 1 <<< 1
  | .supervisorTimer => 1 <<< 2
  | .machineTimer => 1 <<< 3
  | .supervisorExternal => 1 <<< 4
  | .machineExternal => 1 <<< 5

def fromLine (line : InterruptLine) : InterruptSet := ⟨maskFor line⟩

def contains (set : InterruptSet) (line : InterruptLine) : Bool :=
  (set.bits &&& maskFor line) != 0

def union (set other : InterruptSet) : InterruptSet := ⟨set.bits ||| other.bits⟩

end InterruptSet

/-! ## The default wide accesses -/

section Defaults

variable {β : Type}

/-- Run a bus method and continue with its value; an error ends the access. -/
def andThen {α γ : Type} (result : Except BusError α × β)
    (next : α → β → Except BusError γ × β) : Except BusError γ × β :=
  match result with
  | (.ok value, bus) => next value bus
  | (.error error, bus) => (.error error, bus)

variable (load8 : β → Address → Except BusError U8 × β)
variable (store8 : β → Address → U8 → Except BusError Unit × β)

def defaultLoad16 (bus : β) (addr : Address) : Except BusError U16 × β :=
  if addr % 2 ≠ 0 then (.error (.misalignedAccess addr 2), bus)
  else
    andThen (load8 bus addr) fun b0 bus =>
    andThen (load8 bus (addr + 1)) fun b1 bus =>
    (.ok (b1 ++ b0), bus)

def defaultLoad32 (bus : β) (addr : Address) : Except BusError U32 × β :=
  if addr % 4 ≠ 0 then (.error (.misalignedAccess addr 4), bus)
  else
    andThen (load8 bus addr) fun b0 bus =>
    andThen (load8 bus (addr + 1)) fun b1 bus =>
    andThen (load8 bus (addr + 2)) fun b2 bus =>
    andThen (load8 bus (addr + 3)) fun b3 bus =>
    (.ok (b3 ++ b2 ++ b1 ++ b0), bus)

def defaultStore16 (bus : β) (addr : Address) (value : U16) : Except BusError Unit × β :=
  if addr % 2 ≠ 0 then (.error (.misalignedAccess addr 2), bus)
  else
    andThen (store8 bus addr (value.setWidth 8)) fun _ bus =>
    store8 bus (addr + 1) ((value >>> 8).setWidth 8)

def defaultStore32 (bus : β) (addr : Address) (value : U32) : Except BusError Unit × β :=
  if addr % 4 ≠ 0 then (.error (.misalignedAccess addr 4), bus)
  else
    andThen (store8 bus addr (value.setWidth 8)) fun _ bus =>
    andThen (store8 bus (addr + 1) ((value >>> 8).setWidth 8)) fun _ bus =>
    andThen (store8 bus (addr + 2) ((value >>> 16).setWidth 8)) fun _ bus =>
    store8 bus (addr + 3) ((value >>> 24).setWidth 8)

end Defaults

/-! ## The trait -/

/-- A byte-addressable bus with default helpers for larger accesses. -/
class Bus (β : Type) where
  load8 : β → Address → Except BusError U8 × β
  store8 : β → Address → U8 → Except BusError Unit × β
  tick : β → β := fun bus => bus
  machineTime : β → Option U64 := fun _ => none
  isBusy : β → Bool := fun _ => false
  pendingInterrupts : β → InterruptSet := fun _ => .empty
  load16 : β → Address → Except BusError U16 × β := defaultLoad16 load8
  load32 : β → Address → Except BusError U32 × β := defaultLoad32 load8
  fetch32 : β → Address → Except BusError U32 × β := load32
  store16 : β → Address → U16 → Except BusError Unit × β := defaultStore16 store8
  store32 : β → Address → U32 → Except BusError Unit × β := defaultStore32 store8

/-- `dyn Bus`: a bus of some type, in one of its states. -/
structure AnyBus : Type 1 where
  {β : Type}
  [ops : Bus β]
  bus : β

attribute [instance] AnyBus.ops

end RvSim
