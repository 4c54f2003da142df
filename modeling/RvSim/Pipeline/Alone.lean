import RvSim.Automata.Retry
import RvSim.Pipeline.Agreement

/-!
# An instruction that runs alone

One instruction goes through EX, MEM and write-back with nothing before or behind it: EX once, MEM as
often as it stalls, then write-back, or the trap of the stage that raises one. The one-step semantics
is repeated as long as it neither retires the instruction nor enters a trap. Between two attempts the
bus may change in any way.

## Main definitions

* `stagesAlone`, `oneStepAlone`: the two ways to run an instruction

## Main results

* `stagesAlone_eq`: they leave the same hart, walker and bus
-/

namespace RvSim

variable {β : Type} [Bus β]

/-- How an instruction that runs alone ends. -/
inductive Ending
  | retired
  | trapped (trap : Trap)
  | failed (error : CpuError)
  deriving DecidableEq, Repr

/-- What an instruction that runs alone works on. -/
structure Surroundings (β : Type) where
  state : HartState
  walker : PageWalker
  bus : β

/-- The bus changes by `tick`. -/
def Surroundings.tick (tick : β → β) (s : Surroundings β) : Surroundings β :=
  { s with bus := tick s.bus }

/-- One attempt of MEM, with write-back where the access completes. -/
def memoryAttempt (payload : ExMemPayload) (s : Surroundings β) :
    Option Ending × Surroundings β :=
  match MemStage.access s.bus s.walker s.state.csrs s.state.privilege payload with
  | (.ok (.advance payload), walker, bus) =>
    let (_, state, walker) := WbStage.writeBack s.state walker payload
    (some .retired, { state, walker, bus })
  | (.ok (.stall _), walker, bus) => (none, { s with walker, bus })
  | (.ok (.trap trap), walker, bus) =>
    (some (.trapped trap),
      { state := (applyTrap s.state trap payload.decoded.pc).1, walker, bus })
  | (.error error, walker, bus) => (some (.failed (.bus error)), { s with walker, bus })

/-- One attempt of the one-step semantics. -/
def oneStepAttempt (decoded : DecodedInstruction) (s : Surroundings β) :
    Option Ending × Surroundings β :=
  match executeDecoded s.state s.walker s.bus decoded with
  | (.ok result, state, walker, bus) =>
    (match result.trap with
      | some trap => some (.trapped trap)
      | none => if result.retired = 0 then none else some .retired,
      { state, walker, bus })
  | (.error error, state, walker, bus) => (some (.failed error), { state, walker, bus })

/-- The stages on one instruction, with operands read from the registers. -/
def stagesAlone (decoded : DecodedInstruction) (ticks : List (β → β)) (s : Surroundings β) :
    Option Ending × Surroundings β :=
  match s.state.executed decoded with
  | .trap trap =>
    (some (.trapped trap), { s with state := (applyTrap s.state trap decoded.pc).1 })
  | .advance outcome =>
    Automata.retry (memoryAttempt (.of decoded outcome)) (ticks.map Surroundings.tick) s

/-- The one-step semantics on one instruction. -/
def oneStepAlone (decoded : DecodedInstruction) (ticks : List (β → β)) (s : Surroundings β) :
    Option Ending × Surroundings β :=
  Automata.retry (oneStepAttempt decoded) (ticks.map Surroundings.tick) s

/-! ## They agree -/

section Agree

variable {decoded : DecodedInstruction} {s : Surroundings β}

/-- One attempt of MEM is one attempt of the one-step semantics, and a failed one keeps the hart. -/
theorem memoryAttempt_eq {outcome : ExecuteOutcome}
    (hexecute : s.state.executed decoded = .advance outcome) :
    memoryAttempt (.of decoded outcome) s = oneStepAttempt decoded s ∧
      ∀ s', memoryAttempt (.of decoded outcome) s = (none, s') → s'.state = s.state := by
  have hx := executed_of hexecute
  have hok := MemStage.access_isOk s.bus s.walker s.state.csrs s.state.privilege
    (.of decoded outcome)
  rcases haccess : MemStage.access s.bus s.walker s.state.csrs s.state.privilege
    (.of decoded outcome) with ⟨answer, w, b⟩
  rw [haccess] at hok
  unfold memoryAttempt oneStepAttempt
  match answer, hok with
  | .ok (.advance q), _ =>
    rw [haccess, executeDecoded_of_stages hexecute haccess]
    exact ⟨rfl, by simp⟩
  | .ok (.stall p), _ =>
    have hstall := executeDecoded_of_stall hx haccess
    rw [show (ExMemPayload.of decoded outcome).decoded = decoded from rfl] at hstall
    rw [haccess, hstall]
    refine ⟨rfl, fun s' h => ?_⟩
    obtain ⟨-, rfl⟩ := Prod.mk.inj h
    rfl
  | .ok (.trap trap), _ =>
    have htrap := executeDecoded_of_memoryTrap hx haccess
    rw [show (ExMemPayload.of decoded outcome).decoded = decoded from rfl] at htrap
    rw [haccess, htrap]
    exact ⟨rfl, by simp⟩

/-- A trap of EX ends the first attempt of the one-step semantics. -/
theorem oneStepAttempt_of_executeTrap {trap : Trap} (h : s.state.executed decoded = .trap trap) :
    oneStepAttempt decoded s =
      (some (.trapped trap), { s with state := (applyTrap s.state trap decoded.pc).1 }) := by
  rw [oneStepAttempt, executeDecoded_of_executeTrap h]

end Agree

/-- **The stages of an instruction and its one-step semantics agree**: on every hart state, page walker
and bus, whatever the bus answers and however it changes between two attempts, they come equally far,
end in the same way, and leave the same hart state, page walker and bus. -/
theorem stagesAlone_eq (decoded : DecodedInstruction) (ticks : List (β → β)) (s : Surroundings β) :
    stagesAlone decoded ticks s = oneStepAlone decoded ticks s := by
  unfold stagesAlone oneStepAlone
  rcases hexecute : s.state.executed decoded with outcome | trap
  · -- while MEM waits, the hart keeps the operands EX has read
    refine Automata.retry_congr (fun s' => s'.state = s.state) ?_ ?_ ?_ rfl
    · rintro s' hs
      exact (memoryAttempt_eq (by rw [hs]; exact hexecute)).1
    · rintro s' s'' hs hnone
      exact ((memoryAttempt_eq (by rw [hs]; exact hexecute)).2 s'' hnone).trans hs
    · rintro change hchange s' hs
      obtain ⟨tick, -, rfl⟩ := List.mem_map.mp hchange
      exact hs
  · have h := oneStepAttempt_of_executeTrap hexecute
    cases ticks with
    | nil => exact h.symm
    | cons tick ticks => exact (Automata.retry_cons_of_some h).symm

end RvSim
