import RvSim.Exec.Helpers

/-!
# A memory behind a busy schedule

Before it performs an access, the bus answers busy as often as a schedule says for that access; a busy
answer does nothing else. The accesses it performs are logged.

## Main definitions

* `NeverBusy`: a bus that performs every access at once
* `Scheduled`: such a bus behind a schedule, with the log of what it has performed
* `Scheduled.calm`: the same bus without any busy answers to come
* `Scheduled.Attempts`: an access is performed as by the calm bus, or changes nothing

## Main results

* `Scheduled.attempts_loadValue`, `Scheduled.attempts_storeValue`, `Scheduled.attempts_fetch32`,
  `Scheduled.attempts_load32`, `Scheduled.attempts_store32`: every access is such an attempt
-/

namespace RvSim

/-- A bus that performs every access at once, or refuses it. -/
class NeverBusy (M : Type) [Bus M] : Prop where
  load8 (m : M) (addr : Address) : Settled (Bus.load8 m addr).1
  load16 (m : M) (addr : Address) : Settled (Bus.load16 m addr).1
  load32 (m : M) (addr : Address) : Settled (Bus.load32 m addr).1
  fetch32 (m : M) (addr : Address) : Settled (Bus.fetch32 m addr).1
  store8 (m : M) (addr : Address) (value : U8) : Settled (Bus.store8 m addr value).1
  store16 (m : M) (addr : Address) (value : U16) : Settled (Bus.store16 m addr value).1
  store32 (m : M) (addr : Address) (value : U32) : Settled (Bus.store32 m addr value).1

/-- A completed access with its answer: a read has the word it returned, a write the word it wrote. -/
structure BusAccess where
  access : MemoryAccess
  width : Nat
  addr : Address
  answer : Except BusError U32
  deriving DecidableEq

/-- A bus behind a schedule: how many times it is still busy before the next access, and before each
access after that. -/
structure Scheduled (M : Type) where
  memory : M
  busy : Nat := 0
  schedule : Nat → Nat := fun _ => 0
  time : Option U64 := none
  log : List BusAccess := []

namespace Scheduled

variable {M : Type}

/-- The bus performs an access. -/
def done {α : Type} (b : Scheduled M) (record : Except BusError α → BusAccess)
    (result : Except BusError α × M) : Except BusError α × Scheduled M :=
  (result.1,
    { memory := result.2
      busy := b.schedule 0
      schedule := fun n => b.schedule (n + 1)
      time := b.time
      log := b.log ++ [record result.1] })

/-- The bus is busy, or performs an access. -/
def perform {α : Type} (b : Scheduled M) (record : Except BusError α → BusAccess)
    (op : M → Except BusError α × M) : Except BusError α × Scheduled M :=
  match b.busy with
  | 0 => b.done record (op b.memory)
  | n + 1 => (.error (.busy 1), { b with busy := n })

/-- A read in the log. -/
def readRecord {w : Nat} (access : MemoryAccess) (width : Nat) (addr : Address)
    (answer : Except BusError (BitVec w)) : BusAccess :=
  ⟨access, width, addr, answer.map (·.setWidth 32)⟩

/-- A write in the log. -/
def writeRecord {w : Nat} (width : Nat) (addr : Address) (value : BitVec w)
    (answer : Except BusError Unit) : BusAccess :=
  ⟨.store, width, addr, answer.map fun _ => value.setWidth 32⟩

instance [Bus M] : Bus (Scheduled M) where
  machineTime b := b.time
  isBusy b := b.busy != 0
  load8 b addr := b.perform (readRecord .load 1 addr) (Bus.load8 · addr)
  load16 b addr := b.perform (readRecord .load 2 addr) (Bus.load16 · addr)
  load32 b addr := b.perform (readRecord .load 4 addr) (Bus.load32 · addr)
  fetch32 b addr := b.perform (readRecord .instruction 4 addr) (Bus.fetch32 · addr)
  store8 b addr value := b.perform (writeRecord 1 addr value) (Bus.store8 · addr value)
  store16 b addr value := b.perform (writeRecord 2 addr value) (Bus.store16 · addr value)
  store32 b addr value := b.perform (writeRecord 4 addr value) (Bus.store32 · addr value)

/-- The same memory and log, without any busy answers to come and without a clock. -/
def calm (b : Scheduled M) : Scheduled M := { memory := b.memory, log := b.log }

@[simp] theorem calm_calm (b : Scheduled M) : b.calm.calm = b.calm := rfl

@[simp] theorem calm_log (b : Scheduled M) : b.calm.log = b.log := rfl

/-- Accesses have been performed. -/
def Grows (b b' : Scheduled M) : Prop := ∃ entry rest, b'.log = b.log ++ entry :: rest

theorem Grows.logPrefix {b b' : Scheduled M} (h : b.Grows b') : b.log <+: b'.log := by
  obtain ⟨entry, rest, h⟩ := h
  exact ⟨_, h.symm⟩

theorem Grows.length_lt {b b' : Scheduled M} (h : b.Grows b') : b.log.length < b'.log.length := by
  obtain ⟨entry, rest, h⟩ := h
  rw [h, List.length_append, List.length_cons]
  omega

theorem Grows.trans_prefix {b b' b'' : Scheduled M} (h : b.Grows b') (h' : b'.log <+: b''.log) :
    b.Grows b'' := by
  obtain ⟨entry, rest, h⟩ := h
  obtain ⟨more, h'⟩ := h'
  exact ⟨entry, rest ++ more, by rw [← h', h, List.append_assoc, List.cons_append]⟩

/-- What an access does on a bus, against what it does on the calm bus. -/
inductive Attempts {α : Type} (b : Scheduled M) (calmly : Except BusError α × Scheduled M) :
    Except BusError α × Scheduled M → Prop
  | busy {n : U32} {b' : Scheduled M} (same : b'.calm = b.calm) (less : b'.busy < b.busy) :
      Attempts b calmly (.error (.busy n), b')
  | done {answer : Except BusError α} {b' : Scheduled M} (settled : Settled answer)
      (eq : calmly = (answer, b'.calm)) (logged : b.Grows b') :
      Attempts b calmly (answer, b')

theorem attempts_perform {α : Type} (b : Scheduled M) (record : Except BusError α → BusAccess)
    {op : M → Except BusError α × M} (h : ∀ m, Settled (op m).1) :
    Attempts b (b.calm.perform record op) (b.perform record op) := by
  unfold perform
  rcases hbusy : b.busy with _ | n
  · exact .done (h _) rfl ⟨_, [], rfl⟩
  · exact .busy rfl (by simp [hbusy])

theorem Attempts.map {α γ : Type} {b : Scheduled M} {calmly out : Except BusError α × Scheduled M}
    (h : Attempts b calmly out) (f : α → γ) :
    Attempts b (mapValue f calmly) (mapValue f out) := by
  cases h with
  | busy same less => exact .busy same less
  | done settled eq logged =>
    subst eq
    exact .done (settled.map f) rfl logged

section

variable [Bus M] [NeverBusy M] (b : Scheduled M) (addr : Address)

theorem attempts_load32 : Attempts b (Bus.load32 b.calm addr) (Bus.load32 b addr) :=
  b.attempts_perform _ fun m => NeverBusy.load32 m addr

theorem attempts_fetch32 : Attempts b (Bus.fetch32 b.calm addr) (Bus.fetch32 b addr) :=
  b.attempts_perform _ fun m => NeverBusy.fetch32 m addr

theorem attempts_store32 (value : U32) :
    Attempts b (Bus.store32 b.calm addr value) (Bus.store32 b addr value) :=
  b.attempts_perform _ fun m => NeverBusy.store32 m addr value

theorem attempts_loadValue (kind : LoadKind) :
    Attempts b (loadValue b.calm kind addr) (loadValue b kind addr) := by
  have byte := b.attempts_perform (readRecord .load 1 addr) fun m => NeverBusy.load8 m addr
  have half := b.attempts_perform (readRecord .load 2 addr) fun m => NeverBusy.load16 m addr
  cases kind with
  | byte => exact byte.map _
  | half => exact half.map _
  | word => exact b.attempts_load32 addr
  | byteUnsigned => exact byte.map _
  | halfUnsigned => exact half.map _

theorem attempts_storeValue (kind : StoreKind) (value : U32) :
    Attempts b (storeValue b.calm kind addr value) (storeValue b kind addr value) := by
  cases kind with
  | byte => exact b.attempts_perform _ fun m => NeverBusy.store8 m addr _
  | half => exact b.attempts_perform _ fun m => NeverBusy.store16 m addr _
  | word => exact b.attempts_store32 addr value

end

end Scheduled

end RvSim
