import Mathlib.Data.List.Induction
import Mathlib.Logic.Function.Basic
import RvSim.System.ByteMemory
import RvSim.System.Contract
import RvSim.System.FlatRam

/-!
# A memory with bursts

A memory whose single accesses are answered at once, and whose bursts are performed by the tick behind their
submission. It keeps the contract of a burst bus, and makes progress.

## Main definitions

* `BurstMemory`, with its instances of `BurstBus`, `BurstContract` and `MakesProgress`
-/

namespace RvSim

/-- A burst of the memory. It holds its response when it has been performed. -/
structure MemoryBurst where
  id : U64
  request : BurstRequest
  response : Option BurstResponse := none
  fits : ∀ answer, response = some answer → answer.Fits request := by nofun

/-- Perform the burst, if it has not been. -/
def MemoryBurst.perform (burst : MemoryBurst) (memory : ByteMemory) : MemoryBurst × ByteMemory :=
  match burst with
  | { response := some _, .. } => (burst, memory)
  | { id, request := .readWords baseAddr beats kind, response := none, .. } =>
    ({ id, request := .readWords baseAddr beats kind
       response := some (.readWords (memory.words baseAddr beats))
       fits := by
        rintro _ ⟨⟩
        exact memory.length_words baseAddr beats }, memory)
  | { id, request := .writeWords baseAddr words, response := none, .. } =>
    ({ id, request := .writeWords baseAddr words
       response := some (.writeComplete words.length)
       fits := by
        rintro _ ⟨⟩
        trivial }, memory.writeWords baseAddr words)

structure BurstMemory where
  memory : ByteMemory
  bursts : List MemoryBurst := []
  nextId : U64 := 0

namespace BurstMemory

def load8 (bus : BurstMemory) (addr : Address) : Except BusError U8 × BurstMemory :=
  (.ok (bus.memory addr), bus)

def store8 (bus : BurstMemory) (addr : Address) (value : U8) : Except BusError Unit × BurstMemory :=
  (.ok (), { bus with memory := Function.update bus.memory addr value })

/-- Perform the bursts in their order. -/
def performAll : List MemoryBurst → ByteMemory → List MemoryBurst × ByteMemory
  | [], memory => ([], memory)
  | burst :: bursts, memory =>
    let (burst, memory) := burst.perform memory
    let (bursts, memory) := performAll bursts memory
    (burst :: bursts, memory)

def tick (bus : BurstMemory) : BurstMemory :=
  { bus with
    bursts := (performAll bus.bursts bus.memory).1
    memory := (performAll bus.bursts bus.memory).2 }

def burst (bus : BurstMemory) (id : U64) : Option MemoryBurst := bus.bursts.find? (·.id == id)

-- an id that is still in use is not given again
def submitBurst (bus : BurstMemory) (request : BurstRequest) : Except BusError U64 × BurstMemory :=
  if (bus.burst bus.nextId).isSome then (panicked request.baseAddr "burst id in use", bus)
  else (.ok bus.nextId,
    { bus with bursts := bus.bursts ++ [{ id := bus.nextId, request }], nextId := bus.nextId + 1 })

def phaseOf (burst : MemoryBurst) : BurstPhase :=
  if burst.response.isSome then .ready burst.request.beats else .inFlight 0 burst.request.beats 1

def burstPhase (bus : BurstMemory) (id : U64) : Option BurstPhase := (bus.burst id).map phaseOf

def takeBurstResponse (bus : BurstMemory) (id : U64) :
    Option (Except BusError BurstResponse) × BurstMemory :=
  match (bus.burst id).bind (·.response) with
  | some response => (some (.ok response), { bus with bursts := bus.bursts.filter (·.id != id) })
  | none => (none, bus)

instance : BurstBus BurstMemory where
  load8 := load8
  store8 := store8
  tick := tick
  submitBurst := submitBurst
  burstPhase := burstPhase
  advanceBurst bus id := (bus.burstPhase id, bus)
  takeBurstResponse := takeBurstResponse
  burstRounds _ _ := 1

/-! ## The contract -/

def active (bus : BurstMemory) (id : U64) : Option BurstRequest := (bus.burst id).map (·.request)

theorem perform_id (burst : MemoryBurst) (memory : ByteMemory) : (burst.perform memory).1.id = burst.id := by
  unfold MemoryBurst.perform
  split <;> rfl

theorem perform_request (burst : MemoryBurst) (memory : ByteMemory) :
    (burst.perform memory).1.request = burst.request := by
  unfold MemoryBurst.perform
  split <;> rfl

theorem perform_response (burst : MemoryBurst) (memory : ByteMemory) :
    (burst.perform memory).1.response.isSome = true := by
  rcases burst with ⟨id, _ | _, _ | response, fits⟩ <;> rfl

/-- A burst keeps its place, its id and its request, and has been performed. -/
theorem find_performAll (bursts : List MemoryBurst) (memory : ByteMemory) (id : U64) :
    match bursts.find? (·.id == id), (performAll bursts memory).1.find? (·.id == id) with
    | none, none => True
    | some burst, some burst' => burst'.request = burst.request ∧ burst'.response.isSome = true
    | _, _ => False := by
  induction bursts generalizing memory with
  | nil => trivial
  | cons burst bursts ih =>
    unfold performAll
    dsimp only
    rw [List.find?_cons, List.find?_cons, perform_id]
    rcases burst.id == id with _ | _
    · exact ih _
    · exact ⟨perform_request _ _, perform_response _ _⟩

theorem active_tick (bus : BurstMemory) : bus.tick.active = bus.active := by
  funext id
  have h := find_performAll bus.bursts bus.memory id
  unfold active burst tick
  dsimp only
  split at h
  · rename_i hnone hnone'
    rw [hnone, hnone']
  · rename_i hsome hsome'
    rw [hsome, hsome']
    exact congrArg some h.1
  · exact h.elim

/-- A single access leaves the bursts as they are, and is answered at once. -/
theorem call_spec (request : BusRequest) (bus : BurstMemory) :
    (request.call bus).2.bursts = bus.bursts ∧ Settled (request.call bus).1 := by
  have hload8 (bus : BurstMemory) (addr : Address) : Settled (load8 bus addr).1 := settled_ok _
  have hstore8 (bus : BurstMemory) (addr : Address) (value : U8) : Settled (store8 bus addr value).1 :=
    settled_ok _
  cases request with
  | fetch32 addr | load32 addr =>
    refine ⟨?_, settled_defaultLoad32 hload8 bus addr⟩
    show (defaultLoad32 load8 bus addr).2.bursts = _
    unfold defaultLoad32
    split <;> rfl
  | load8 addr => exact ⟨rfl, (settled_ok _).map _⟩
  | load16 addr =>
    refine ⟨?_, (settled_defaultLoad16 hload8 bus addr).map _⟩
    show (defaultLoad16 load8 bus addr).2.bursts = _
    unfold defaultLoad16
    split <;> rfl
  | store8 addr value => exact ⟨rfl, (settled_ok _).map _⟩
  | store16 addr value =>
    refine ⟨?_, (settled_defaultStore16 hstore8 bus addr value).map _⟩
    show (defaultStore16 store8 bus addr value).2.bursts = _
    unfold defaultStore16
    split <;> rfl
  | store32 addr value =>
    refine ⟨?_, (settled_defaultStore32 hstore8 bus addr value).map _⟩
    show (defaultStore32 store8 bus addr value).2.bursts = _
    unfold defaultStore32
    split <;> rfl

/-- The burst that is submitted. -/
theorem burst_submitBurst {bus bus' : BurstMemory} {request : BurstRequest} {id : U64}
    (h : bus.submitBurst request = (.ok id, bus')) :
    bus.burst id = none ∧ bus'.burst = Function.update bus.burst id (some { id, request }) := by
  unfold submitBurst at h
  split at h
  · cases h
  rename_i hfree
  cases h
  rw [Option.not_isSome_iff_eq_none] at hfree
  refine ⟨hfree, funext fun id => ?_⟩
  unfold burst at hfree ⊢
  dsimp only
  rw [List.find?_append]
  by_cases heq : id = bus.nextId
  · subst heq
    rw [hfree, Function.update_self, Option.none_or, List.find?_singleton]
    exact if_pos (beq_self_eq_true _)
  · rw [Function.update_of_ne heq, List.find?_singleton, if_neg, Option.or_none]
    rw [beq_iff_eq]
    exact fun h => heq h.symm

/-- The burst that is taken. -/
theorem takeBurstResponse_ready {bus : BurstMemory} {id : U64} {burst : MemoryBurst}
    {response : BurstResponse} (hburst : bus.burst id = some burst)
    (hresponse : burst.response = some response) :
    ∃ bus', bus.takeBurstResponse id = (some (.ok response), bus') ∧
      bus'.burst = Function.update bus.burst id none := by
  refine ⟨{ bus with bursts := bus.bursts.filter (·.id != id) }, ?_, ?_⟩
  · unfold takeBurstResponse
    rw [hburst, Option.bind_some, hresponse]
  · funext other
    unfold BurstMemory.burst
    dsimp only
    rw [List.find?_filter]
    by_cases heq : other = id
    · subst heq
      rw [Function.update_self, List.find?_eq_none]
      intro entry _
      simp
    · rw [Function.update_of_ne heq]
      refine congrArg (List.find? · bus.bursts) (funext fun entry => ?_)
      by_cases hentry : entry.id = other
      · simp [hentry, heq]
      · simp [hentry]

theorem phaseOf_ne_accepted (bus : BurstMemory) {id : U64} {beat beats : Nat} :
    bus.burstPhase id ≠ some (.accepted beat beats) := by
  unfold burstPhase
  rcases bus.burst id with _ | burst
  · nofun
  · unfold phaseOf
    rw [Option.map_some]
    split <;> nofun

instance : BurstContract BurstMemory where
  active := active
  isSome_phase bus id := by
    show (bus.burstPhase id).isSome = _
    unfold burstPhase active
    rw [Option.isSome_map, Option.isSome_map]
  active_call bus request := by
    unfold active burst
    rw [(call_spec request bus).1]
  active_tick := active_tick
  submit_ok {bus bus' request id} h := by
    obtain ⟨hfree, hburst⟩ := burst_submitBurst h
    unfold active
    rw [hfree, hburst]
    refine ⟨rfl, funext fun other => ?_⟩
    by_cases heq : other = id
    · rw [heq, Function.update_self, Function.update_self]
      rfl
    · rw [Function.update_of_ne heq, Function.update_of_ne heq]
  submit_error {bus bus' request error} h := by
    change bus.submitBurst request = _ at h
    unfold submitBurst at h
    split at h
    · cases h
      rfl
    · cases h
  active_advance _ _ := rfl
  advance_phase _ _ _ := rfl
  take_ready {bus id request beats} hactive hphase := by
    change bus.burstPhase id = _ at hphase
    unfold active at hactive
    unfold burstPhase at hphase
    obtain ⟨burst, hburst, rfl⟩ := Option.map_eq_some_iff.1 hactive
    rw [hburst, Option.map_some, Option.some.injEq] at hphase
    rcases hresponse : burst.response with _ | response
    · simp [phaseOf, hresponse] at hphase
    · -- the slot is free behind the response, and the other bursts stay
      obtain ⟨bus', htake, hafter⟩ := takeBurstResponse_ready hburst hresponse
      refine ⟨response, bus', htake, burst.fits _ hresponse, ?_⟩
      funext other
      unfold active
      rw [hafter]
      by_cases heq : other = id
      · rw [heq, Function.update_self, Function.update_self]
        rfl
      · rw [Function.update_of_ne heq, Function.update_of_ne heq]
  take_failed {bus id error} hphase := by
    change bus.burstPhase id = _ at hphase
    unfold burstPhase at hphase
    obtain ⟨burst, -, hphase⟩ := Option.map_eq_some_iff.1 hphase
    unfold phaseOf at hphase
    split at hphase <;> cases hphase
  rounds_pos _ _ _ := le_refl 1
  rounds_accepted h := absurd h (phaseOf_ne_accepted _)
  rounds_advance h _ := absurd h (phaseOf_ne_accepted _)

/-- A burst that is there has an answer behind every tick. -/
theorem ended_tick {bus : BurstMemory} {id : U64} (h : bus.active id ≠ none) : Ended bus.tick id := by
  have hfind := find_performAll bus.bursts bus.memory id
  unfold active burst at h
  split at hfind
  · rename_i hnone _
    rw [hnone] at h
    exact absurd rfl h
  · rename_i burst burst' _ hsome
    refine ⟨.ready burst'.request.beats, ?_, trivial⟩
    show (tick bus).burstPhase id = _
    unfold burstPhase BurstMemory.burst tick phaseOf
    dsimp only
    rw [hsome, Option.map_some, if_pos hfind.2]
  · exact hfind.elim

/-- Ticks and advances keep the bursts. -/
theorem active_run (bus : BurstMemory) (id : U64) (steps : List BurstStep) :
    active (Automata.run (BurstStep.apply id) bus steps) = bus.active := by
  induction steps generalizing bus with
  | nil => rfl
  | cons step steps ih =>
    rw [Automata.run_cons, ih]
    cases step with
    | advance => rfl
    | tick => exact active_tick bus

theorem endsWithin_one {bus : BurstMemory} {id : U64} (h : bus.active id ≠ none) : EndsWithin id 1 bus := by
  intro steps hsteps
  -- the last tick performs the burst
  induction steps using List.reverseRecOn with
  | nil => exact absurd hsteps (by decide)
  | append_singleton steps step ih =>
    rw [Automata.run_append]
    cases step with
    | advance =>
      rw [List.count_append] at hsteps
      exact ih hsteps
    | tick =>
      have hactive : active (Automata.run (BurstStep.apply id) bus steps) id ≠ none := by
        rw [active_run]
        exact h
      exact ended_tick hactive

instance : MakesProgress BurstMemory where
  call_settles bus request := ⟨0, (call_spec request bus).2⟩
  submit_settles bus request := by
    refine ⟨0, ?_⟩
    show Settled (submitBurst bus request).1
    unfold submitBurst
    split
    · exact settled_error rfl
    · exact settled_ok _
  burst_ends _ _ h := ⟨1, endsWithin_one h⟩

end BurstMemory

end RvSim
