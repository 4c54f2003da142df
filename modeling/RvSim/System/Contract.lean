import RvSim.Automata.Run
import RvSim.System.Protocol

/-!
# What a client may rely on of a burst bus

The life cycle of a burst as the documentation of the trait describes it: a burst that is accepted gets an
id that no other burst has, and stays there until its response is taken, whatever else is asked of the
bus. A bus that makes progress also answers every request and every burst in the end, provided the client
repeats and ticks.

## Main definitions

* `BurstContract`: the life cycle of a burst
* `EndsWithin`: the burst is at its end after some ticks
* `MakesProgress`: a bus that answers in the end

## Main results

* `EndsWithin.advance`, `EndsWithin.tick`: how the ticks go down
-/

namespace RvSim

/-- The response is one of a read or of a write, as the request is. -/
def BurstResponse.Fits (response : BurstResponse) (request : BurstRequest) : Prop :=
  match request, response with
  | .readWords _ beats _, .readWords words => words.length = beats
  | .writeWords _ _, .writeComplete _ => True
  | _, _ => False

/-- The burst has an answer. -/
def BurstPhase.Ended (phase : BurstPhase) : Prop :=
  match phase with
  | .ready _ | .failed _ => True
  | _ => False

/-- The life cycle of a burst. `active` has the bursts whose response has not been taken. -/
class BurstContract (β : Type) [BurstBus β] where
  active : β → U64 → Option BurstRequest
  isSome_phase (b : β) (id : U64) : (BurstBus.burstPhase b id).isSome = (active b id).isSome
  active_call (b : β) (request : BusRequest) : active (request.call b).2 = active b
  active_tick (b : β) : active (Bus.tick b) = active b
  submit_ok {b b' : β} {request : BurstRequest} {id : U64}
    (h : BurstBus.submitBurst b request = (.ok id, b')) :
    active b id = none ∧ active b' = Function.update (active b) id (some request)
  submit_error {b b' : β} {request : BurstRequest} {error : BusError}
    (h : BurstBus.submitBurst b request = (.error error, b')) : active b' = active b
  active_advance (b : β) (id : U64) : active (BurstBus.advanceBurst b id).2 = active b
  advance_phase (b : β) (id : U64) : active b id ≠ none →
    (BurstBus.advanceBurst b id).1 = BurstBus.burstPhase (BurstBus.advanceBurst b id).2 id
  take_ready {b : β} {id : U64} {request : BurstRequest} {beats : Nat} (hactive : active b id = some request)
    (hphase : BurstBus.burstPhase b id = some (.ready beats)) :
    ∃ response b', BurstBus.takeBurstResponse b id = (some (.ok response), b') ∧
      response.Fits request ∧ active b' = Function.update (active b) id none
  take_failed {b : β} {id : U64} {error : BusError}
    (hphase : BurstBus.burstPhase b id = some (.failed error)) :
    ∃ error b', BurstBus.takeBurstResponse b id = (some (.error error), b') ∧
      error.isBusy = false ∧ active b' = Function.update (active b) id none
  rounds_pos (b : β) (id : U64) (h : active b id ≠ none) : 1 ≤ BurstBus.burstRounds b id
  rounds_accepted {b : β} {id : U64} {beat beats : Nat}
    (h : BurstBus.burstPhase b id = some (.accepted beat beats)) : 2 ≤ BurstBus.burstRounds b id
  rounds_advance {b : β} {id : U64} {beat beats beat' beats' : Nat}
    (h : BurstBus.burstPhase b id = some (.accepted beat beats))
    (h' : BurstBus.burstPhase (BurstBus.advanceBurst b id).2 id = some (.accepted beat' beats')) :
    BurstBus.burstRounds (BurstBus.advanceBurst b id).2 id < BurstBus.burstRounds b id

/-! ## Progress of a burst -/

/-- What the holder of a burst does until it ends. -/
inductive BurstStep
  | advance | tick
  deriving DecidableEq

section Progress

variable {β : Type} [BurstBus β]

def BurstStep.apply (id : U64) (b : β) : BurstStep → β
  | .advance => (BurstBus.advanceBurst b id).2
  | .tick => Bus.tick b

/-- The burst with the id has an answer. -/
def Ended (b : β) (id : U64) : Prop := ∃ phase, BurstBus.burstPhase b id = some phase ∧ phase.Ended

/-- After `n` ticks, with any number of advances between them, the burst has an answer. -/
def EndsWithin (id : U64) (n : Nat) (b : β) : Prop :=
  ∀ steps : List BurstStep, n ≤ steps.count .tick →
    Ended (Automata.run (BurstStep.apply id) b steps) id

theorem EndsWithin.advance {id : U64} {n : Nat} {b : β} (h : EndsWithin id n b) :
    EndsWithin id n (BurstBus.advanceBurst b id).2 := by
  intro steps hsteps
  refine h (.advance :: steps) ?_
  rwa [List.count_cons_of_ne (by decide)]

theorem EndsWithin.tick {id : U64} {n : Nat} {b : β} (h : EndsWithin id (n + 1) b) :
    EndsWithin id n (Bus.tick b) := by
  intro steps hsteps
  refine h (.tick :: steps) ?_
  rw [List.count_cons_self]
  omega

theorem EndsWithin.ended {id : U64} {b : β} (h : EndsWithin id 0 b) : Ended b id := h [] (by simp)

theorem BusRequest.rounds_succ (request : BusRequest) (b : β) (n : Nat) :
    request.rounds b (n + 1) = request.rounds (Bus.tick (request.call b).2) n := by
  induction n with
  | zero => rfl
  | succ n ih =>
    show Bus.tick (request.call (request.rounds b (n + 1))).2 = _
    rw [ih]
    rfl

/-- The bus after `n` rounds in which the burst is submitted, with a tick behind each. -/
def submitRounds (request : BurstRequest) (b : β) : Nat → β
  | 0 => b
  | n + 1 => submitRounds request (Bus.tick (BurstBus.submitBurst b request).2) n

/-- A bus that answers in the end whatever it is asked, if the client repeats it. -/
class MakesProgress (β : Type) [BurstBus β] [BurstContract β] : Prop where
  call_settles (b : β) (request : BusRequest) :
    ∃ n, Settled (request.call (request.rounds b n)).1
  submit_settles (b : β) (request : BurstRequest) :
    ∃ n, Settled (BurstBus.submitBurst (submitRounds request b n) request).1
  burst_ends (b : β) (id : U64) (h : BurstContract.active b id ≠ none) : ∃ n, EndsWithin id n b

end Progress

end RvSim
