import RvSim.System.Compat

/-!
# Monitors

A monitor notes what a memory map does to its devices: it asks one for a latency, performs an access, and
ticks them all. A property of the devices and of what was noted holds of every run if these three keep it.

## Main definitions

* `Access`: a transaction, or a beat of a burst, as the device sees it
* `Monitor`, `Monitored`, `Monitor.apply`: the memory map with what is noted of it

## Main results

* `Monitor.run_map`: a monitor does not change what the memory map does
* `Monitor.Keeps.run`: the rule of a property of the devices
-/

namespace RvSim

/-! ## Accesses -/

/-- What a device is asked for and then performs. -/
inductive Access (n : Nat)
  | transaction (deviceIndex : Fin n) (request : TransactionRequest)
  | beat (deviceIndex : Fin n) (request : BurstRequest) (beatIndex : Nat)
  deriving DecidableEq

/-- The answer of an access. -/
inductive AccessAnswer
  | transaction (answer : Except BusError TransactionResponse)
  | beat (answer : Except BusError (Option U32))
  deriving DecidableEq

/-- How far a request is from its next access. -/
inductive Waiting
  | accepted
  | inFlight (remainingCycles : U32)
  | done

def TransactionPhase.waiting : TransactionPhase → Waiting
  | .accepted => .accepted
  | .inFlight remainingCycles => .inFlight remainingCycles
  | _ => .done

def BurstPhase.waiting : BurstPhase → Waiting
  | .accepted _ _ => .accepted
  | .inFlight _ _ remainingCycles => .inFlight remainingCycles
  | _ => .done

namespace Access

variable {D : Type} {n : Nat}

def deviceIndex : Access n → Fin n
  | transaction deviceIndex _ => deviceIndex
  | beat deviceIndex _ _ => deviceIndex

def addr : Access n → Address
  | transaction _ request => request.addr
  | beat _ request beatIndex => request.beatAddr beatIndex

def kind : Access n → AccessKind
  | transaction _ request => request.kind
  | beat _ request _ => request.beatKind

def width : Access n → Nat
  | transaction _ request => request.width
  | beat _ _ _ => 4

variable [Addressable D]

def latency (access : Access n) (map : MemoryMap D n) : U32 :=
  Addressable.accessLatency (map.device access.deviceIndex) access.addr access.kind access.width

/-- The map after the device was asked. -/
def ask (access : Access n) (map : MemoryMap D n) : MemoryMap D n :=
  map.askLatency access.deviceIndex access.addr access.kind access.width

def perform (access : Access n) (map : MemoryMap D n) : AccessAnswer × MemoryMap D n :=
  match access with
  | transaction deviceIndex request =>
    (.transaction (map.executeRequest deviceIndex request).1, (map.executeRequest deviceIndex request).2)
  | beat deviceIndex request beatIndex =>
    (.beat (map.executeBurstBeat deviceIndex request beatIndex).1,
      (map.executeBurstBeat deviceIndex request beatIndex).2)

/-- What the next step of a request does to the devices. -/
def step (access : Access n) (map : MemoryMap D n) : Waiting → MemoryMap D n
  | .accepted =>
    if access.latency map = 0 then (access.perform (access.ask map)).2 else access.ask map
  | .inFlight remainingCycles => if 1 < remainingCycles then map else (access.perform map).2
  | .done => map

end Access

def ActiveTransaction.access {n : Nat} (active : ActiveTransaction n) : Access n :=
  .transaction active.deviceIndex active.request

def ActiveBurst.access {n : Nat} (active : ActiveBurst n) : Access n :=
  .beat active.deviceIndex active.request active.beatIndex

namespace MemoryMap

variable {D : Type} {n : Nat} [Addressable D]

theorem completeRequest_map (map : MemoryMap D n) (active : ActiveTransaction n) :
    (map.completeRequest active).2 = (active.access.perform map).2 := by
  unfold completeRequest
  show _ = (map.executeRequest active.deviceIndex active.request).2
  rcases map.executeRequest active.deviceIndex active.request with ⟨error | response, after⟩ <;> rfl

theorem completeBeat_map (map : MemoryMap D n) (active : ActiveBurst n) :
    (map.completeBeat active).2 = (active.access.perform map).2 := by
  unfold completeBeat
  show _ = (map.executeBurstBeat active.deviceIndex active.request active.beatIndex).2
  rcases map.executeBurstBeat active.deviceIndex active.request active.beatIndex with
    ⟨error | readWord, after⟩ <;> rfl

theorem stepTransaction_map (map : MemoryMap D n) (active : ActiveTransaction n) :
    (map.stepTransaction active).2 = active.access.step map active.phase.waiting := by
  unfold stepTransaction
  rcases active.phase with _ | remainingCycles | response | error
  · rw [show active.access.step map TransactionPhase.accepted.waiting = if active.access.latency map = 0
      then (active.access.perform (active.access.ask map)).2 else active.access.ask map from rfl]
    rw [← completeRequest_map]
    dsimp only
    split <;> rename_i hzero
    · exact (if_pos hzero).symm
    · exact (if_neg hzero).symm
  · rw [show active.access.step map (TransactionPhase.inFlight remainingCycles).waiting =
      if 1 < remainingCycles then map else (active.access.perform map).2 from rfl]
    rw [← completeRequest_map]
    dsimp only
    split <;> rfl
  · rfl
  · rfl

theorem stepBurst_map (map : MemoryMap D n) (active : ActiveBurst n) :
    (map.stepBurst active).2 = active.access.step map active.phase.waiting := by
  unfold stepBurst
  rcases active.phase with ⟨_, _⟩ | ⟨beatIndex, totalBeats, remainingCycles⟩ | completedBeats | error
  · rw [show active.access.step map (BurstPhase.accepted _ _).waiting = if active.access.latency map = 0
      then (active.access.perform (active.access.ask map)).2 else active.access.ask map from rfl]
    rw [← completeBeat_map]
    dsimp only
    split <;> rename_i hzero
    · exact (if_pos hzero).symm
    · exact (if_neg hzero).symm
  · rw [show active.access.step map (BurstPhase.inFlight beatIndex totalBeats remainingCycles).waiting =
      if 1 < remainingCycles then map else (active.access.perform map).2 from rfl]
    rw [← completeBeat_map]
    dsimp only
    split <;> rfl
  · rfl
  · rfl

/-! ### What leaves the devices alone -/

omit [Addressable D] in
theorem submitTransaction_devices (map : MemoryMap D n) (request : TransactionRequest) :
    (map.submitTransaction request).2.devices = map.devices := by
  unfold submitTransaction
  rcases map.findDeviceIndex request.addr with _ | deviceIndex <;> rfl

omit [Addressable D] in
theorem takeTransactionResponse_devices (map : MemoryMap D n) (id : U64) :
    (map.takeTransactionResponse id).2.devices = map.devices := by
  unfold takeTransactionResponse
  have hremove (index : Nat) : (map.removeTransaction index id).devices = map.devices := by
    unfold removeTransaction clearCompatIfMatches
    split <;> rfl
  split
  · exact hremove _
  · exact hremove _
  · rfl

omit [Addressable D] in
theorem answerCompat_devices (map : MemoryMap D n) (compat : CompatTransaction) :
    (map.answerCompat compat).2.devices = map.devices := by
  have htake := map.takeTransactionResponse_devices compat.id
  unfold answerCompat
  generalize map.takeTransactionResponse compat.id = out at htake ⊢
  rcases out with ⟨_ | answer, after⟩ <;> exact htake

omit [Addressable D] in
theorem submitBurst_devices (map : MemoryMap D n) (request : BurstRequest) :
    (map.submitBurst request).2.devices = map.devices := by
  unfold submitBurst
  split
  · rfl
  · rcases map.findDeviceIndex request.baseAddr with _ | deviceIndex
    · rfl
    · dsimp only
      rcases map.crossing request deviceIndex with _ | addr <;> rfl

omit [Addressable D] in
theorem takeBurstResponse_devices (map : MemoryMap D n) (id : U64) :
    (map.takeBurstResponse id).2.devices = map.devices := by
  unfold takeBurstResponse
  rcases map.burstIndex id with _ | index
  · rfl
  · rcases map.burst id with _ | active
    · rfl
    · dsimp only
      split <;> rfl

/-- The last part of a tick: the devices. -/
def tickDevices (map : MemoryMap D n) : MemoryMap D n :=
  { map with
    devices := map.devices.map fun slot => { slot with device := Addressable.tick slot.device } }

end MemoryMap

/-! ## Monitors -/

/-- What is noted of the steps of a memory map: of the map before a step, and after a tick. -/
structure Monitor (D : Type) (n : Nat) (ε : Type) where
  asked : MemoryMap D n → Access n → List ε
  performed : MemoryMap D n → Access n → List ε
  ticked : MemoryMap D n → List ε

/-- A memory map, and what was noted of it. -/
structure Monitored (D : Type) (n : Nat) (ε : Type) where
  map : MemoryMap D n
  log : List ε := []

namespace Monitor

variable {D : Type} {n : Nat} {ε : Type} [Addressable D] (monitor : Monitor D n ε)

/-- What is noted of the next step of a request. -/
def events (map : MemoryMap D n) (access : Access n) : Waiting → List ε
  | .accepted => monitor.asked map access ++
    if access.latency map = 0 then monitor.performed (access.ask map) access else []
  | .inFlight remainingCycles => if 1 < remainingCycles then [] else monitor.performed map access
  | .done => []

def advanceTransactionAt (s : Monitored D n ε) (index : Nat) : Monitored D n ε :=
  match s.map.activeTransactions[index]? with
  | none => s
  | some active =>
    ⟨s.map.advanceTransactionAt index,
      s.log ++ monitor.events s.map active.access active.phase.waiting⟩

def advanceBurstAt (s : Monitored D n ε) (index : Nat) : Monitored D n ε :=
  match s.map.activeBursts[index]? with
  | none => s
  | some active =>
    ⟨s.map.advanceBurstAt index, s.log ++ monitor.events s.map active.access active.phase.waiting⟩

def advanceTransaction (s : Monitored D n ε) (id : U64) : Monitored D n ε :=
  match s.map.transactionIndex id with
  | none => s
  | some index => monitor.advanceTransactionAt s index

def advanceBurst (s : Monitored D n ε) (id : U64) : Monitored D n ε :=
  match s.map.burstIndex id with
  | none => s
  | some index => monitor.advanceBurstAt s index

def awaitCompat (s : Monitored D n ε) (compat : CompatTransaction) : Monitored D n ε :=
  if s.map.transactionPhase compat.id = some .accepted then
    let s := monitor.advanceTransaction s compat.id
    { s with map := (s.map.answerCompat compat).2 }
  else { s with map := (s.map.answerCompat compat).2 }

def performRequest (s : Monitored D n ε) (request : TransactionRequest) : Monitored D n ε :=
  match s.map.compatTransaction with
  | some compat =>
    if compat.request ≠ request then s
    else if s.map.transactionPhase compat.id = none then
      { s with map := { s.map with compatTransaction := none } }
    else monitor.awaitCompat s compat
  | none =>
    match s.map.submitTransaction request with
    | (.ok id, map) =>
      monitor.awaitCompat { s with map := { map with compatTransaction := some { id, request } } }
        { id, request }
    | (.error _, map) => { s with map }

def tick (s : Monitored D n ε) : Monitored D n ε :=
  let s := (List.range s.map.activeTransactions.length).foldl monitor.advanceTransactionAt s
  let s := (List.range s.map.activeBursts.length).foldl monitor.advanceBurstAt s
  ⟨s.map.tickDevices, s.log ++ monitor.ticked s.map.tickDevices⟩

/-- A call of a client, with what is noted. -/
def apply (s : Monitored D n ε) : MapOp → Monitored D n ε
  | .request request =>
    if request.transaction.Aligned then monitor.performRequest s request.transaction else s
  | .advanceTransaction id => monitor.advanceTransaction s id
  | .advanceBurst id => monitor.advanceBurst s id
  | .tick => monitor.tick s
  | op => { s with map := s.map.apply op }

/-! ### The map is as without the monitor -/

section Erasure

variable (s : Monitored D n ε)

theorem advanceTransactionAt_map (index : Nat) :
    (monitor.advanceTransactionAt s index).map = s.map.advanceTransactionAt index := by
  unfold advanceTransactionAt
  split
  · rename_i hnone
    unfold MemoryMap.advanceTransactionAt
    rw [hnone]
  · rfl

theorem advanceBurstAt_map (index : Nat) :
    (monitor.advanceBurstAt s index).map = s.map.advanceBurstAt index := by
  unfold advanceBurstAt
  split
  · rename_i hnone
    unfold MemoryMap.advanceBurstAt
    rw [hnone]
  · rfl

theorem advanceTransaction_map (id : U64) :
    (monitor.advanceTransaction s id).map = (s.map.advanceTransaction id).2 := by
  unfold advanceTransaction MemoryMap.advanceTransaction
  rcases s.map.transactionIndex id with _ | index
  · rfl
  · exact monitor.advanceTransactionAt_map s index

theorem advanceBurst_map (id : U64) :
    (monitor.advanceBurst s id).map = (s.map.advanceBurst id).2 := by
  unfold advanceBurst MemoryMap.advanceBurst
  rcases s.map.burstIndex id with _ | index
  · rfl
  · exact monitor.advanceBurstAt_map s index

theorem awaitCompat_map (compat : CompatTransaction) :
    (monitor.awaitCompat s compat).map = (s.map.awaitCompat compat).2 := by
  unfold awaitCompat MemoryMap.awaitCompat
  split
  · show ((monitor.advanceTransaction s compat.id).map.answerCompat compat).2 = _
    rw [advanceTransaction_map]
  · rfl

theorem performRequest_map (request : TransactionRequest) :
    (monitor.performRequest s request).map = (s.map.performRequest request).2 := by
  unfold performRequest MemoryMap.performRequest
  rcases s.map.compatTransaction with _ | compat
  · rcases s.map.submitTransaction request with ⟨error | id, map⟩
    · rfl
    · exact monitor.awaitCompat_map _ _
  · dsimp only
    split
    · rfl
    · split
      · rfl
      · exact monitor.awaitCompat_map s compat

omit [Addressable D] in
theorem foldl_map {advance : Monitored D n ε → Nat → Monitored D n ε}
    {advanceMap : MemoryMap D n → Nat → MemoryMap D n}
    (hmap : ∀ s index, (advance s index).map = advanceMap s.map index) (indices : List Nat)
    (s : Monitored D n ε) : (indices.foldl advance s).map = indices.foldl advanceMap s.map := by
  induction indices generalizing s with
  | nil => rfl
  | cons index indices ih => rw [List.foldl_cons, List.foldl_cons, ih, hmap]

theorem tick_map : (monitor.tick s).map = s.map.tick := by
  unfold tick MemoryMap.tick
  show MemoryMap.tickDevices _ = _
  rw [foldl_map monitor.advanceBurstAt_map, foldl_map monitor.advanceTransactionAt_map]
  rfl

theorem apply_map (op : MapOp) : (monitor.apply s op).map = s.map.apply op := by
  cases op with
  | request request =>
    show (if request.transaction.Aligned then monitor.performRequest s request.transaction else s).map =
      (request.call s.map).2
    rcases MemoryMap.call_cases request s.map with ⟨haligned, hcall⟩ | ⟨haligned, hcall⟩
    · rw [if_neg haligned, hcall]
    · rw [if_pos haligned, hcall, performRequest_map]
  | advanceTransaction id => exact monitor.advanceTransaction_map s id
  | advanceBurst id => exact monitor.advanceBurst_map s id
  | tick => exact monitor.tick_map s
  | _ => rfl

/-- **A monitor does not change what the map does.** -/
theorem run_map (ops : List MapOp) :
    (Automata.run monitor.apply s ops).map = Automata.run MemoryMap.apply s.map ops := by
  induction ops generalizing s with
  | nil => rfl
  | cons op ops ih =>
    rw [Automata.run_cons, Automata.run_cons, ih, apply_map]

end Erasure

/-! ### The rule -/

/-- What the steps of a memory map keep, of its devices and of what is noted. -/
structure Keeps (I : MemoryMap D n → List ε → Prop) : Prop where
  traffic : ∀ map map' log, map'.devices = map.devices → I map log → I map' log
  asked : ∀ map log access, I map log → I (access.ask map) (log ++ monitor.asked map access)
  performed : ∀ map log access, I map log →
    I (access.perform map).2 (log ++ monitor.performed map access)
  ticked : ∀ map log, I map log → I map.tickDevices (log ++ monitor.ticked map.tickDevices)

variable {monitor} {I : MemoryMap D n → List ε → Prop}

theorem Keeps.step (keeps : monitor.Keeps I) {map : MemoryMap D n} {log : List ε} (h : I map log)
    (access : Access n) (waiting : Waiting) :
    I (access.step map waiting) (log ++ monitor.events map access waiting) := by
  cases waiting with
  | accepted =>
    have hasked := keeps.asked map log access h
    unfold Access.step events
    dsimp only
    by_cases hzero : access.latency map = 0
    · rw [if_pos hzero, if_pos hzero, ← List.append_assoc]
      exact keeps.performed _ _ access hasked
    · rw [if_neg hzero, if_neg hzero, List.append_nil]
      exact hasked
  | inFlight remainingCycles =>
    unfold Access.step events
    dsimp only
    by_cases hlt : 1 < remainingCycles
    · rw [if_pos hlt, if_pos hlt, List.append_nil]
      exact h
    · rw [if_neg hlt, if_neg hlt]
      exact keeps.performed map log access h
  | done =>
    show I map (log ++ [])
    rw [List.append_nil]
    exact h

variable {s : Monitored D n ε}

theorem Keeps.advanceTransactionAt (keeps : monitor.Keeps I) (h : I s.map s.log) (index : Nat) :
    I (monitor.advanceTransactionAt s index).map (monitor.advanceTransactionAt s index).log := by
  unfold Monitor.advanceTransactionAt
  rcases hget : s.map.activeTransactions[index]? with _ | active
  · exact h
  · have hdevices : (s.map.advanceTransactionAt index).devices =
        (active.access.step s.map active.phase.waiting).devices := by
      unfold MemoryMap.advanceTransactionAt
      rw [hget, ← MemoryMap.stepTransaction_map]
    exact keeps.traffic _ _ _ hdevices (keeps.step h active.access active.phase.waiting)

theorem Keeps.advanceBurstAt (keeps : monitor.Keeps I) (h : I s.map s.log) (index : Nat) :
    I (monitor.advanceBurstAt s index).map (monitor.advanceBurstAt s index).log := by
  unfold Monitor.advanceBurstAt
  rcases hget : s.map.activeBursts[index]? with _ | active
  · exact h
  · have hdevices : (s.map.advanceBurstAt index).devices =
        (active.access.step s.map active.phase.waiting).devices := by
      unfold MemoryMap.advanceBurstAt
      rw [hget, ← MemoryMap.stepBurst_map]
    exact keeps.traffic _ _ _ hdevices (keeps.step h active.access active.phase.waiting)

theorem Keeps.advanceTransaction (keeps : monitor.Keeps I) (h : I s.map s.log) (id : U64) :
    I (monitor.advanceTransaction s id).map (monitor.advanceTransaction s id).log := by
  unfold Monitor.advanceTransaction
  rcases s.map.transactionIndex id with _ | index
  · exact h
  · exact keeps.advanceTransactionAt h index

theorem Keeps.advanceBurst (keeps : monitor.Keeps I) (h : I s.map s.log) (id : U64) :
    I (monitor.advanceBurst s id).map (monitor.advanceBurst s id).log := by
  unfold Monitor.advanceBurst
  rcases s.map.burstIndex id with _ | index
  · exact h
  · exact keeps.advanceBurstAt h index

theorem Keeps.awaitCompat (keeps : monitor.Keeps I) (h : I s.map s.log) (compat : CompatTransaction) :
    I (monitor.awaitCompat s compat).map (monitor.awaitCompat s compat).log := by
  unfold Monitor.awaitCompat
  split
  · exact keeps.traffic _ _ _ (MemoryMap.answerCompat_devices _ compat) (keeps.advanceTransaction h compat.id)
  · exact keeps.traffic _ _ _ (s.map.answerCompat_devices compat) h

theorem Keeps.performRequest (keeps : monitor.Keeps I) (h : I s.map s.log)
    (request : TransactionRequest) :
    I (monitor.performRequest s request).map (monitor.performRequest s request).log := by
  have hdevices := s.map.submitTransaction_devices request
  unfold Monitor.performRequest
  rcases s.map.compatTransaction with _ | compat
  · rcases hsubmit : s.map.submitTransaction request with ⟨error | id, map⟩
    · rw [hsubmit] at hdevices
      exact keeps.traffic _ _ _ hdevices h
    · rw [hsubmit] at hdevices
      dsimp only
      refine keeps.awaitCompat (s := ⟨_, _⟩) ?_ _
      exact keeps.traffic s.map _ _ hdevices h
  · dsimp only
    split
    · exact h
    · split
      · exact keeps.traffic s.map _ _ rfl h
      · exact keeps.awaitCompat h compat

omit [Addressable D] in
theorem invariant_foldl {advance : Monitored D n ε → Nat → Monitored D n ε}
    (hadvance : ∀ {s : Monitored D n ε}, I s.map s.log → ∀ index,
      I (advance s index).map (advance s index).log)
    (h : I s.map s.log) (indices : List Nat) :
    I (indices.foldl advance s).map (indices.foldl advance s).log := by
  induction indices generalizing s with
  | nil => exact h
  | cons index indices ih => exact ih (hadvance h index)

theorem Keeps.tick (keeps : monitor.Keeps I) (h : I s.map s.log) :
    I (monitor.tick s).map (monitor.tick s).log := by
  have htransactions := invariant_foldl (fun h index => keeps.advanceTransactionAt h index) h
    (List.range s.map.activeTransactions.length)
  exact keeps.ticked _ _ (invariant_foldl (fun h index => keeps.advanceBurstAt h index) htransactions _)

theorem Keeps.apply (keeps : monitor.Keeps I) (h : I s.map s.log) (op : MapOp) :
    I (monitor.apply s op).map (monitor.apply s op).log := by
  cases op with
  | request request =>
    show I (if request.transaction.Aligned then monitor.performRequest s request.transaction else s).map
      (if request.transaction.Aligned then monitor.performRequest s request.transaction else s).log
    split
    · exact keeps.performRequest h _
    · exact h
  | submitTransaction request => exact keeps.traffic _ _ _ (s.map.submitTransaction_devices request) h
  | advanceTransaction id => exact keeps.advanceTransaction h id
  | takeTransactionResponse id => exact keeps.traffic _ _ _ (s.map.takeTransactionResponse_devices id) h
  | submitBurst request => exact keeps.traffic _ _ _ (s.map.submitBurst_devices request) h
  | advanceBurst id => exact keeps.advanceBurst h id
  | takeBurstResponse id => exact keeps.traffic _ _ _ (s.map.takeBurstResponse_devices id) h
  | tick => exact keeps.tick h

/-- **The rule of a monitor**: what the steps keep holds of every run. -/
theorem Keeps.run (keeps : monitor.Keeps I) (h : I s.map s.log) (ops : List MapOp) :
    I (Automata.run monitor.apply s ops).map (Automata.run monitor.apply s ops).log := by
  induction ops generalizing s with
  | nil => exact h
  | cons op ops ih => exact ih (keeps.apply h op)

end Monitor

end RvSim
