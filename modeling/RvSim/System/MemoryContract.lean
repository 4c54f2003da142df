import RvSim.System.FlatMemory

/-!
# A memory behind a bus

What a client may rely on of a bus that is a memory, as long as it has one thing in progress at a time: a
request that it repeats until it is answered, or a burst that it drives to its end. The bus may be busy for
as long as it likes; when it answers, it has done what a flat memory does.

## Main definitions

* `BurstRequest.Within`, `BurstRequest.effect`, `BurstRequest.AnsweredBy`: a burst on a flat memory
* `MemoryContract`: the contract

## Main results

* `MemoryContract.drives`: driving a burst to its end
-/

namespace RvSim

namespace BurstRequest

/-- The words of the burst are mapped, and do not go around the end of the address space. -/
structure Within (request : BurstRequest) (mapped : Address → Bool) : Prop where
  beats_pos : 0 < request.beats
  aligned : request.baseAddr.toNat % 4 = 0
  fits : request.baseAddr.toNat + 4 * request.beats ≤ 2 ^ 64
  mapped : ∀ offset < 4 * request.beats, mapped (request.baseAddr + BitVec.ofNat 64 offset) = true
  kind : ∀ baseAddr beats, request ≠ .readWords baseAddr beats .store

/-- The memory behind a burst. -/
def effect (request : BurstRequest) (memory : ByteMemory) : ByteMemory :=
  match request with
  | .readWords _ _ _ => memory
  | .writeWords baseAddr words => memory.writeWords baseAddr words

/-- The response is the one of the memory. -/
def AnsweredBy (request : BurstRequest) (memory : ByteMemory) (response : BurstResponse) : Prop :=
  match request, response with
  | .readWords baseAddr beats _, .readWords words => words = memory.words baseAddr beats
  | .writeWords _ _, .writeComplete _ => True
  | _, _ => False

end BurstRequest

/-- A call of a request on a memory: it waits, or it is answered. -/
def AnsweredAs {β : Type} (awaiting : FlatMemory → β → Prop) (quiet : FlatMemory → β → Prop)
    (request : BusRequest) (memory : FlatMemory) (out : Except BusError U32 × β) : Prop :=
  match out.1 with
  | .ok value => value = request.answer memory.contents ∧
      quiet { memory with contents := request.effect memory.contents } out.2
  | .error error => error.isBusy = true ∧ awaiting memory out.2

/-- A bus that is a memory. `Quiet memory bus` says that nothing is in progress and the contents are those of
`memory`; `Awaiting` and `Bursting` say the same with one request, or one burst, in progress. -/
class MemoryContract (β : Type) [BurstBus β] where
  Quiet : FlatMemory → β → Prop
  Awaiting : BusRequest → FlatMemory → β → Prop
  Bursting : U64 → BurstRequest → FlatMemory → β → Prop
  quiet_tick {memory : FlatMemory} {b : β} : Quiet memory b → Quiet memory (Bus.tick b)
  awaiting_tick {request : BusRequest} {memory : FlatMemory} {b : β} :
    Awaiting request memory b → Awaiting request memory (Bus.tick b)
  bursting_tick {id : U64} {request : BurstRequest} {memory : FlatMemory} {b : β} :
    Bursting id request memory b → Bursting id request memory (Bus.tick b)
  not_busy {memory : FlatMemory} {b : β} : Quiet memory b → Bus.isBusy b = false
  call_quiet {request : BusRequest} {memory : FlatMemory} {b : β} : ¬ request.Misaligned →
    memory.Maps request.addr request.width → Quiet memory b →
      AnsweredAs (Awaiting request) Quiet request memory (request.call b)
  call_awaiting {request : BusRequest} {memory : FlatMemory} {b : β} : ¬ request.Misaligned →
    memory.Maps request.addr request.width → Awaiting request memory b →
      AnsweredAs (Awaiting request) Quiet request memory (request.call b)
  submit {request : BurstRequest} {memory : FlatMemory} {b : β} : request.Within memory.mapped →
    Quiet memory b → ∃ id b', BurstBus.submitBurst b request = (.ok id, b') ∧
      Bursting id request memory b'
  phase {id : U64} {request : BurstRequest} {memory : FlatMemory} {b : β} :
    Bursting id request memory b →
      ∃ phase, BurstBus.burstPhase b id = some phase ∧ ∀ error, phase ≠ .failed error
  advance {id : U64} {request : BurstRequest} {memory : FlatMemory} {b : β} :
    Bursting id request memory b →
      (BurstBus.advanceBurst b id).1 = BurstBus.burstPhase (BurstBus.advanceBurst b id).2 id ∧
        Bursting id request memory (BurstBus.advanceBurst b id).2
  take {id : U64} {request : BurstRequest} {memory : FlatMemory} {b : β} {beats : Nat} :
    Bursting id request memory b → BurstBus.burstPhase b id = some (.ready beats) →
      ∃ response b', BurstBus.takeBurstResponse b id = (some (.ok response), b') ∧
        request.AnsweredBy memory.contents response ∧
        Quiet { memory with contents := request.effect memory.contents } b'
  rounds_pos {id : U64} {request : BurstRequest} {memory : FlatMemory} {b : β} :
    Bursting id request memory b → 1 ≤ BurstBus.burstRounds b id
  rounds_accepted {id : U64} {request : BurstRequest} {memory : FlatMemory} {b : β} {beat beats : Nat} :
    Bursting id request memory b → BurstBus.burstPhase b id = some (.accepted beat beats) →
      2 ≤ BurstBus.burstRounds b id
  rounds_advance {id : U64} {request : BurstRequest} {memory : FlatMemory} {b : β}
    {beat beats beat' beats' : Nat} : Bursting id request memory b →
    BurstBus.burstPhase b id = some (.accepted beat beats) →
    BurstBus.burstPhase (BurstBus.advanceBurst b id).2 id = some (.accepted beat' beats') →
      BurstBus.burstRounds (BurstBus.advanceBurst b id).2 id < BurstBus.burstRounds b id

namespace MemoryContract

variable {β : Type} [BurstBus β] [MemoryContract β]

/-- The burst of a slot is in progress, or nothing is where the slot is free. -/
def SlotBursting (slot : Option U64) (request : BurstRequest) (memory : FlatMemory) (b : β) : Prop :=
  match slot with
  | some id => Bursting id request memory b
  | none => Quiet memory b

/-- How a burst is left that is driven. -/
def Driven (request : BurstRequest) (memory : FlatMemory) (drive : BurstDrive BurstResponse)
    (slot : Option U64) (b : β) : Prop :=
  match drive with
  | .busy _ => ∃ id, slot = some id ∧ Bursting id request memory b
  | .ready response => request.AnsweredBy memory.contents response ∧
      Quiet { memory with contents := request.effect memory.contents } b

theorem drives_burst {id : U64} {request : BurstRequest} {memory : FlatMemory} (rounds : Nat) (b : β)
    (h : Bursting id request memory b) (hpos : 1 ≤ rounds)
    (hrounds : ∀ beat beats, BurstBus.burstPhase b id = some (.accepted beat beats) →
      BurstBus.burstRounds b id ≤ rounds) :
    Ends False (driveBurst id rounds b) (fun drive s => Driven request memory drive s.1 s.2)
      fun _ _ => False := by
  induction rounds generalizing b with
  | zero => omega
  | succ rounds ih =>
    obtain ⟨phase, hphase, hfailed⟩ := MemoryContract.phase h
    unfold driveBurst
    rw [hphase]
    cases phase with
    | accepted beat beats =>
      obtain ⟨hadvance, hnext⟩ := MemoryContract.advance h
      have htwo := rounds_accepted h hphase
      have hle := hrounds beat beats hphase
      obtain ⟨phase', hphase', hfailed'⟩ := MemoryContract.phase hnext
      have hlt : ∀ beat' beats', phase' = .accepted beat' beats' →
          BurstBus.burstRounds (BurstBus.advanceBurst b id).2 id < BurstBus.burstRounds b id := by
        rintro beat' beats' rfl
        exact rounds_advance h hphase hphase'
      rw [hphase'] at hadvance
      generalize BurstBus.advanceBurst b id = out at hadvance hnext hphase' hlt
      obtain ⟨_, b'⟩ := out
      dsimp only at hadvance hnext hphase' hlt
      subst hadvance
      cases phase' with
      | inFlight beat' beats' remainingCycles => exact ⟨id, rfl, hnext⟩
      | accepted beat' beats' =>
        have hlt := hlt beat' beats' rfl
        exact ih b' hnext (by omega) fun _ _ _ => by omega
      | ready beats' =>
        refine ih b' hnext (by omega) fun _ _ hphase'' => ?_
        rw [hphase'] at hphase''
        cases hphase''
      | failed error => exact absurd rfl (hfailed' error)
    | inFlight beat beats remainingCycles => exact ⟨id, rfl, h⟩
    | ready beats =>
      obtain ⟨response, b', htake, hanswer, hquiet⟩ := MemoryContract.take h hphase
      dsimp only
      rw [htake]
      exact ⟨hanswer, hquiet⟩
    | failed error => exact absurd rfl (hfailed error)

/-- **A burst that is driven** waits, or has done what it does to a memory. -/
theorem drives {request : BurstRequest} {memory : FlatMemory} (hwithin : request.Within memory.mapped)
    (slot : Option U64) (b : β) (h : SlotBursting slot request memory b) :
    Ends False (driveBurstUntilBlocked b slot request)
      (fun drive s => Driven request memory drive s.1 s.2) fun _ _ => False := by
  cases slot with
  | some id => exact drives_burst _ b h (rounds_pos h) fun _ _ _ => le_rfl
  | none =>
    obtain ⟨id, b', hsubmit, hnext⟩ := MemoryContract.submit hwithin h
    simp only [driveBurstUntilBlocked]
    rw [hsubmit]
    exact drives_burst _ b' hnext (rounds_pos hnext) fun _ _ _ => le_rfl

end MemoryContract

end RvSim
