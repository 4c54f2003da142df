import RvSim.Automata.Run
import RvSim.Devices.Ram
import RvSim.System.MemoryMap

/-!
# The compatibility slot of the memory map

A request of the bus trait waits in a slot until it is repeated. A call and a tick take its transaction a step
further, and one of these steps performs it.

## Main definitions

* `MemoryMap.Executes`, `MemoryMap.CallPerforms`, `MemoryMap.TickPerforms`: what performs a transaction
* `MemoryMap.Waiting`: a request waits in the slot
* `MapOp`, `MemoryMap.apply`: the calls of all clients of a memory map

## Main results

* `stepTransaction_cases`: what a step of a transaction does
* `call_aligned`, `call_misaligned`: what a call of the bus trait does
* `sound_run`: what holds in every reachable state
-/

namespace RvSim

/-- No access of the device is answered busy: what an access costs is in its latency. -/
class ReadyDevice (D : Type) [Addressable D] : Prop where
  load8 (device : D) (addr : Address) (n : U32) :
    (Addressable.load8 device addr).1 ≠ .error (.busy n)
  store8 (device : D) (addr : Address) (value : U8) (n : U32) :
    (Addressable.store8 device addr value).1 ≠ .error (.busy n)

theorem Ram.offset_error {ram : Ram} {addr : Address} {error : BusError}
    (h : ram.offset addr = .error error) : error = .unmappedAddress addr := by
  unfold offset at h
  split at h
  · cases h
  · exact (Except.error.inj h).symm

instance : ReadyDevice Ram where
  load8 ram addr c := by
    show (ram.load8 addr).1 ≠ _
    unfold Ram.load8
    split
    · split <;> simp
    · next h => simp [Ram.offset_error h]
  store8 ram addr value c := by
    show (ram.store8 addr value).1 ≠ _
    unfold Ram.store8
    split
    · split <;> simp
    · next h => simp [Ram.offset_error h]

instance {D : Type} [Addressable D] [ReadyDevice D] : ReadyDevice (LatencyAdapter D) where
  load8 adapter addr := ReadyDevice.load8 adapter.inner addr
  store8 adapter addr value := ReadyDevice.store8 adapter.inner addr value

/-- The access of the transaction has not been performed. -/
def TransactionPhase.isPending : TransactionPhase → Bool
  | .accepted => true
  | .inFlight _ => true
  | _ => false

/-- The transaction has not failed with a busy answer. -/
def TransactionPhase.NotBusy (phase : TransactionPhase) : Prop := ∀ n, phase ≠ .failed (.busy n)

/-- The phase of a transaction that has been performed with this result. -/
def TransactionPhase.ofResult : Except BusError TransactionResponse → TransactionPhase
  | .ok response => .ready response
  | .error error => .failed error

theorem TransactionPhase.isPending_ofResult (result : Except BusError TransactionResponse) :
    (ofResult result).isPending = false := by
  cases result <;> rfl

theorem TransactionPhase.notBusy_ofResult {result : Except BusError TransactionResponse}
    (h : Settled result) : (ofResult result).NotBusy := by
  intro c hc
  cases result with
  | ok response => cases hc
  | error error => exact h c (congrArg _ (TransactionPhase.failed.inj hc))

namespace MemoryMap

variable {D : Type} {n : Nat} [Addressable D] {map : MemoryMap D n} {id : U64}

/-! ## What a step of the transactions leaves -/

/-- Only the devices differ, and these by what their accesses do. -/
structure SameTraffic (map map' : MemoryMap D n) : Prop where
  ranges : map'.devices.map (·.range) = map.devices.map (·.range)
  activeTransactions : map'.activeTransactions = map.activeTransactions
  activeBursts : map'.activeBursts = map.activeBursts
  compatTransaction : map'.compatTransaction = map.compatTransaction
  nextTransactionId : map'.nextTransactionId = map.nextTransactionId

omit [Addressable D] in
theorem SameTraffic.refl (map : MemoryMap D n) : SameTraffic map map := ⟨rfl, rfl, rfl, rfl, rfl⟩

omit [Addressable D] in
theorem SameTraffic.trans {map map' map'' : MemoryMap D n} (h : SameTraffic map map')
    (h' : SameTraffic map' map'') : SameTraffic map map'' :=
  ⟨h'.ranges.trans h.ranges, h'.activeTransactions.trans h.activeTransactions,
    h'.activeBursts.trans h.activeBursts, h'.compatTransaction.trans h.compatTransaction,
    h'.nextTransactionId.trans h.nextTransactionId⟩

omit [Addressable D] in
theorem ranges_setDevice (map : MemoryMap D n) (index : Fin n) (device : D) :
    (map.setDevice index device).devices.map (·.range) = map.devices.map (·.range) := by
  unfold setDevice
  refine Vector.ext fun i hi => ?_
  rw [Vector.getElem_map, Vector.getElem_map, Vector.getElem_set]
  split
  · rename_i heq
    subst heq
    rfl
  · rfl

omit [Addressable D] in
theorem findDeviceIndex_congr {map map' : MemoryMap D n}
    (h : map'.devices.map (·.range) = map.devices.map (·.range)) (addr : Address) :
    map'.findDeviceIndex addr = map.findDeviceIndex addr := by
  unfold findDeviceIndex
  congr 1
  funext index
  have hrange : (map'.devices.map (·.range))[index.val] = (map.devices.map (·.range))[index.val] := by
    rw [h]
  rw [Vector.getElem_map, Vector.getElem_map] at hrange
  exact congrArg (fun range => range.contains addr) hrange

omit [Addressable D] in
theorem sameTraffic_setDevice (map : MemoryMap D n) (index : Fin n) (device : D) :
    SameTraffic map (map.setDevice index device) :=
  ⟨map.ranges_setDevice index device, rfl, rfl, rfl, rfl⟩

theorem sameTraffic_executeRequest (map : MemoryMap D n) (index : Fin n)
    (request : TransactionRequest) : SameTraffic map (map.executeRequest index request).2 := by
  unfold executeRequest
  dsimp only
  split
  all_goals first | exact sameTraffic_setDevice _ _ _ | exact .refl map

theorem sameTraffic_completeRequest (map : MemoryMap D n) (active : ActiveTransaction n) :
    SameTraffic map (map.completeRequest active).2 := by
  have h := map.sameTraffic_executeRequest active.deviceIndex active.request
  unfold completeRequest
  generalize map.executeRequest active.deviceIndex active.request = out at h ⊢
  rcases out with ⟨error | response, map'⟩ <;> exact h

theorem sameTraffic_stepTransaction (map : MemoryMap D n) (active : ActiveTransaction n) :
    SameTraffic map (map.stepTransaction active).2 := by
  unfold stepTransaction
  rcases active.phase with _ | c | response | error
  · dsimp only
    split
    · -- the device is asked first, which only it can notice
      exact (sameTraffic_setDevice _ _ _).trans (sameTraffic_completeRequest
        (map.askLatency active.deviceIndex active.request.addr active.request.kind active.request.width)
        active)
    · exact sameTraffic_setDevice _ _ _
  · dsimp only
    split
    · exact .refl map
    · exact map.sameTraffic_completeRequest active
  · exact .refl map
  · exact .refl map

theorem sameTraffic_completeBeat (map : MemoryMap D n) (active : ActiveBurst n) :
    SameTraffic map (map.completeBeat active).2 := by
  have beat : SameTraffic map
      (map.executeBurstBeat active.deviceIndex active.request active.beatIndex).2 := by
    unfold executeBurstBeat
    dsimp only
    rcases active.request with ⟨base, beats, kind⟩ | ⟨base, words⟩
    · exact sameTraffic_setDevice _ _ _
    · exact sameTraffic_setDevice _ _ _
  unfold completeBeat
  generalize map.executeBurstBeat active.deviceIndex active.request active.beatIndex = out at beat ⊢
  rcases out with ⟨error | word, map'⟩ <;> exact beat

theorem sameTraffic_stepBurst (map : MemoryMap D n) (active : ActiveBurst n) :
    SameTraffic map (map.stepBurst active).2 := by
  unfold stepBurst
  rcases active.phase with _ | c | response | error
  · dsimp only
    split
    · exact (sameTraffic_setDevice _ _ _).trans (sameTraffic_completeBeat
        (map.askLatency active.deviceIndex (active.request.beatAddr active.beatIndex)
          active.request.beatKind 4) active)
    · exact sameTraffic_setDevice _ _ _
  · dsimp only
    split
    · exact .refl map
    · exact map.sameTraffic_completeBeat active
  · exact .refl map
  · exact .refl map

/-! ## Performing a request -/

section Ready

variable [ReadyDevice D]

theorem loadBytesFrom_ready (device : D) (addr : Address) (offset count : Nat) :
    ∀ c, (loadBytesFrom device addr offset count).1 ≠ .error (.busy c) := by
  induction count generalizing device offset with
  | zero => simp [loadBytesFrom]
  | succ count ih =>
    intro c
    have hbyte := ReadyDevice.load8 device (addr + BitVec.ofNat 64 offset)
    unfold loadBytesFrom
    generalize Addressable.load8 device (addr + BitVec.ofNat 64 offset) = out at hbyte ⊢
    rcases out with ⟨error | byte, device'⟩
    · exact fun heq => hbyte c (congrArg _ (Except.error.inj heq))
    · have hrest := ih device' (offset + 1) c
      dsimp only
      generalize loadBytesFrom device' addr (offset + 1) count = out at hrest ⊢
      rcases out with ⟨error | bytes, device''⟩
      · exact hrest
      · simp

theorem storeBytesFrom_ready (device : D) (addr : Address) (offset : Nat) (bytes : List U8) :
    ∀ c, (storeBytesFrom device addr offset bytes).1 ≠ .error (.busy c) := by
  induction bytes generalizing device offset with
  | nil => simp [storeBytesFrom]
  | cons byte bytes ih =>
    intro c
    have hbyte := ReadyDevice.store8 device (addr + BitVec.ofNat 64 offset) byte
    unfold storeBytesFrom
    generalize Addressable.store8 device (addr + BitVec.ofNat 64 offset) byte = out at hbyte ⊢
    rcases out with ⟨error | _, device'⟩
    · exact hbyte c
    · exact ih device' (offset + 1) c

omit [Addressable D] [ReadyDevice D] in
theorem map_ready {α γ : Type} {answer : Except BusError α} (f : α → γ)
    (h : ∀ c, answer ≠ .error (.busy c)) : ∀ c, answer.map f ≠ .error (.busy c) := by
  rcases answer with error | a
  · exact fun c heq => h c (congrArg _ (Except.error.inj heq))
  · exact fun c heq => by cases heq

theorem executeRequest_ready (map : MemoryMap D n) (index : Fin n) (request : TransactionRequest) :
    ∀ c, (map.executeRequest index request).1 ≠ .error (.busy c) := by
  have loads : ∀ width count c, readResponse width
      (loadBytesFrom (map.device index) request.addr 0 count).1 ≠ .error (.busy c) :=
    fun width count => map_ready _ (loadBytesFrom_ready _ _ _ _)
  have stores : ∀ bytes c, (storeBytesFrom (map.device index) request.addr 0 bytes).1.map
      (fun _ => TransactionResponse.writeComplete) ≠ .error (.busy c) :=
    fun bytes => map_ready _ (storeBytesFrom_ready _ _ _ _)
  intro c
  unfold executeRequest
  dsimp only
  split
  · exact loads _ _ c
  · exact loads _ _ c
  · exact loads _ _ c
  · exact loads _ _ c
  · exact stores _ c
  · exact stores _ c
  · exact stores _ c
  · simp

end Ready

theorem completeRequest_phase (map : MemoryMap D n) (active : ActiveTransaction n) :
    (map.completeRequest active).1 =
      .ofResult (map.executeRequest active.deviceIndex active.request).1 := by
  unfold completeRequest
  rcases map.executeRequest active.deviceIndex active.request with ⟨error | response, map'⟩ <;> rfl

/-- The map that the request of a transaction is performed on: the device of one that has just been accepted
has been asked for its latency. -/
def performedOn (map : MemoryMap D n) (active : ActiveTransaction n) : MemoryMap D n :=
  match active.phase with
  | .accepted =>
    map.askLatency active.deviceIndex active.request.addr active.request.kind active.request.width
  | _ => map

/-- **The next step of the transaction performs its request**, with this result. -/
structure Executes (map : MemoryMap D n) (active : ActiveTransaction n)
    (result : Except BusError TransactionResponse) : Prop where
  pending : active.phase.isPending = true
  step : map.stepTransaction active = (map.performedOn active).completeRequest active
  result : ((map.performedOn active).executeRequest active.deviceIndex active.request).1 = result

theorem Executes.phase {active : ActiveTransaction n} {result : Except BusError TransactionResponse}
    (h : map.Executes active result) : (map.stepTransaction active).1 = .ofResult result := by
  rw [h.step, completeRequest_phase, h.result]

/-- **The cases of a step**: it starts to wait, waits a cycle less, performs the request, or leaves an
answer. -/
theorem stepTransaction_cases [ReadyDevice D] (map : MemoryMap D n) (active : ActiveTransaction n) :
    (active.phase = .accepted ∧ ∃ c, (map.stepTransaction active).1 = .inFlight c) ∨
    (∃ c, active.phase = .inFlight c ∧ 1 < c ∧
      (map.stepTransaction active).1 = .inFlight (c - 1)) ∨
    (∃ result, map.Executes active result ∧ Settled result) ∨
    (active.phase.isPending = false ∧ (map.stepTransaction active).1 = active.phase) := by
  have performs (hpending : active.phase.isPending = true)
      (hstep : map.stepTransaction active = (map.performedOn active).completeRequest active) :
      ∃ result, map.Executes active result ∧ Settled result :=
    ⟨_, ⟨hpending, hstep, rfl⟩, executeRequest_ready _ _ _⟩
  rcases hphase : active.phase with _ | c | response | error
  · by_cases hlatency : Addressable.accessLatency (map.device active.deviceIndex) active.request.addr
      active.request.kind active.request.width = 0
    · refine .inr (.inr (.inl (performs (by rw [hphase]; rfl) ?_)))
      unfold stepTransaction performedOn
      rw [hphase]
      exact if_pos hlatency
    · refine .inl ⟨rfl, Addressable.accessLatency (map.device active.deviceIndex) active.request.addr
        active.request.kind active.request.width, ?_⟩
      unfold stepTransaction
      rw [hphase]
      exact congrArg Prod.fst (if_neg hlatency)
  · by_cases hlast : 1 < c
    · refine .inr (.inl ⟨c, rfl, hlast, ?_⟩)
      unfold stepTransaction
      rw [hphase]
      exact congrArg Prod.fst (if_pos hlast)
    · refine .inr (.inr (.inl (performs (by rw [hphase]; rfl) ?_)))
      unfold stepTransaction performedOn
      rw [hphase]
      exact if_neg hlast
  · refine .inr (.inr (.inr ⟨rfl, ?_⟩))
    unfold stepTransaction
    rw [hphase]
  · refine .inr (.inr (.inr ⟨rfl, ?_⟩))
    unfold stepTransaction
    rw [hphase]

/-! ## The transactions of a memory map -/

/-- The ids of the transactions, in their order. -/
def ids (map : MemoryMap D n) : List U64 := map.activeTransactions.map (·.id)

omit [Addressable D] in
theorem transactionIndex_eq (map : MemoryMap D n) (id : U64) :
    map.transactionIndex id = map.ids.findIdx? (· == id) := by
  unfold transactionIndex ids
  rw [List.findIdx?_map]
  rfl

omit [Addressable D] in
theorem transactionIndex_congr {map' : MemoryMap D n} (h : map'.ids = map.ids) (id : U64) :
    map'.transactionIndex id = map.transactionIndex id := by
  rw [transactionIndex_eq, transactionIndex_eq, h]

/-- What advancing the transaction at an index does to the list. -/
theorem advanceTransactionAt_activeTransactions (map : MemoryMap D n) (index : Nat) :
    (map.advanceTransactionAt index).activeTransactions =
      match map.activeTransactions[index]? with
      | none => map.activeTransactions
      | some active => map.activeTransactions.set index
          { active with phase := (map.stepTransaction active).1 } := by
  unfold advanceTransactionAt
  rcases map.activeTransactions[index]? with _ | active
  · rfl
  · have same := map.sameTraffic_stepTransaction active
    dsimp only
    rw [same.activeTransactions]

theorem advanceTransactionAt_compat (map : MemoryMap D n) (index : Nat) :
    (map.advanceTransactionAt index).compatTransaction = map.compatTransaction ∧
      (map.advanceTransactionAt index).nextTransactionId = map.nextTransactionId := by
  unfold advanceTransactionAt
  rcases map.activeTransactions[index]? with _ | active
  · exact ⟨rfl, rfl⟩
  · have same := map.sameTraffic_stepTransaction active
    exact ⟨same.compatTransaction, same.nextTransactionId⟩

theorem advanceTransactionAt_getElem? (map : MemoryMap D n) (index i : Nat) :
    (map.advanceTransactionAt index).activeTransactions[i]? =
      if i = index then map.activeTransactions[i]?.map fun active =>
        { active with phase := (map.stepTransaction active).1 }
      else map.activeTransactions[i]? := by
  rw [advanceTransactionAt_activeTransactions]
  rcases h : map.activeTransactions[index]? with _ | active
  · dsimp only
    split
    · next heq =>
      subst heq
      rw [h]
      rfl
    · rfl
  · have hlt : index < map.activeTransactions.length := (List.getElem?_eq_some_iff.mp h).1
    dsimp only
    rw [List.getElem?_set]
    by_cases heq : i = index
    · subst heq
      rw [if_pos rfl, if_pos rfl, if_pos hlt, h]
      rfl
    · rw [if_neg (Ne.symm heq), if_neg heq]

theorem ids_advanceTransactionAt (map : MemoryMap D n) (index : Nat) :
    (map.advanceTransactionAt index).ids = map.ids := by
  unfold ids
  refine List.ext_getElem? fun i => ?_
  rw [List.getElem?_map, List.getElem?_map, advanceTransactionAt_getElem?]
  split
  · rcases map.activeTransactions[i]? with _ | active <;> rfl
  · rfl

/-! ## Ticks -/

/-- The map on which a tick takes the transaction at an index a step further. -/
def stage (map : MemoryMap D n) (index : Nat) : MemoryMap D n :=
  (List.range index).foldl advanceTransactionAt map

/-- The transactions after all of them have gone a step further. -/
def ticked (map : MemoryMap D n) : MemoryMap D n :=
  (List.range map.activeTransactions.length).foldl advanceTransactionAt map

/-- What the first steps of a tick leave. -/
structure Steps (map map' : MemoryMap D n) (m : Nat) : Prop where
  ids : map'.ids = map.ids
  compatTransaction : map'.compatTransaction = map.compatTransaction
  nextTransactionId : map'.nextTransactionId = map.nextTransactionId
  before : ∀ i < m, ∀ active, map.activeTransactions[i]? = some active →
    map'.activeTransactions[i]? = some { active with phase := ((map.stage i).stepTransaction active).1 }
  after : ∀ i, m ≤ i → map'.activeTransactions[i]? = map.activeTransactions[i]?

theorem stage_succ (map : MemoryMap D n) (m : Nat) :
    map.stage (m + 1) = (map.stage m).advanceTransactionAt m := by
  unfold stage
  rw [List.range_succ, List.foldl_append, List.foldl_cons, List.foldl_nil]

theorem steps_stage (map : MemoryMap D n) (m : Nat) : Steps map (map.stage m) m := by
  induction m with
  | zero => exact ⟨rfl, rfl, rfl, by omega, fun _ _ => rfl⟩
  | succ m ih =>
    rw [stage_succ]
    have hcompat := (map.stage m).advanceTransactionAt_compat m
    refine ⟨((map.stage m).ids_advanceTransactionAt m).trans ih.ids, hcompat.1.trans ih.compatTransaction,
      hcompat.2.trans ih.nextTransactionId, fun i hi active hactive => ?_, fun i hi => ?_⟩
    · rw [advanceTransactionAt_getElem?]
      split
      · next heq =>
        subst heq
        rw [ih.after i (by omega), hactive]
        rfl
      · exact ih.before i (by omega) active hactive
    · rw [advanceTransactionAt_getElem?, if_neg (by omega)]
      exact ih.after i (by omega)

theorem advanceBurstAt_sameTransactions (map : MemoryMap D n) (index : Nat) :
    (map.advanceBurstAt index).activeTransactions = map.activeTransactions ∧
      (map.advanceBurstAt index).compatTransaction = map.compatTransaction := by
  unfold advanceBurstAt
  rcases map.activeBursts[index]? with _ | active
  · exact ⟨rfl, rfl⟩
  · have same := map.sameTraffic_stepBurst active
    exact ⟨same.activeTransactions, same.compatTransaction⟩

theorem foldl_advanceBurstAt_sameTransactions (map : MemoryMap D n) (indices : List Nat) :
    (indices.foldl advanceBurstAt map).activeTransactions = map.activeTransactions ∧
      (indices.foldl advanceBurstAt map).compatTransaction = map.compatTransaction := by
  induction indices generalizing map with
  | nil => exact ⟨rfl, rfl⟩
  | cons index indices ih =>
    have h := map.advanceBurstAt_sameTransactions index
    have h' := ih (map.advanceBurstAt index)
    exact ⟨h'.1.trans h.1, h'.2.trans h.2⟩

theorem ranges_advanceBurstAt (map : MemoryMap D n) (index : Nat) :
    (map.advanceBurstAt index).devices.map (·.range) = map.devices.map (·.range) := by
  unfold advanceBurstAt
  rcases map.activeBursts[index]? with _ | active
  · rfl
  · exact (map.sameTraffic_stepBurst active).ranges

theorem ranges_foldl_advanceBurstAt (map : MemoryMap D n) (indices : List Nat) :
    (indices.foldl advanceBurstAt map).devices.map (·.range) = map.devices.map (·.range) := by
  induction indices generalizing map with
  | nil => rfl
  | cons index indices ih => exact (ih _).trans (map.ranges_advanceBurstAt index)

theorem tick_eq_ticked (map : MemoryMap D n) :
    map.tick.activeTransactions = map.ticked.activeTransactions ∧
      map.tick.compatTransaction = map.ticked.compatTransaction := by
  have h := map.ticked.foldl_advanceBurstAt_sameTransactions
    (List.range map.ticked.activeBursts.length)
  exact h

theorem tick_compatTransaction (map : MemoryMap D n) :
    map.tick.compatTransaction = map.compatTransaction := by
  have steps := map.steps_stage map.activeTransactions.length
  exact map.tick_eq_ticked.2.trans steps.compatTransaction

omit [Addressable D] in
/-- A transaction that is looked up has a place. -/
theorem transactionIndex_of_transaction {active : ActiveTransaction n} (h : map.transaction id = some active) :
    ∃ index, map.transactionIndex id = some index ∧ map.activeTransactions[index]? = some active := by
  unfold transaction at h
  rcases hindex : map.transactionIndex id with _ | index
  · rw [hindex] at h
    cases h
  · rw [hindex] at h
    exact ⟨index, rfl, h⟩

/-- **A tick takes every transaction a step further.** -/
theorem tick_transaction {index : Nat} {active : ActiveTransaction n}
    (hindex : map.transactionIndex id = some index) (hget : map.activeTransactions[index]? = some active) :
    (map.stage index).activeTransactions[index]? = some active ∧
      map.tick.transaction id =
        some { active with phase := ((map.stage index).stepTransaction active).1 } := by
  have steps := map.steps_stage map.activeTransactions.length
  have hindex' : map.tick.transactionIndex id = some index := by
    have hids : map.tick.ids = map.ids := by
      unfold ids
      rw [map.tick_eq_ticked.1]
      exact steps.ids
    rw [transactionIndex_congr hids id, hindex]
  have hlt := (List.getElem?_eq_some_iff.mp hget).1
  refine ⟨((map.steps_stage index).after index (Nat.le_refl _)).trans hget, ?_⟩
  unfold transaction
  rw [hindex', map.tick_eq_ticked.1]
  exact steps.before index hlt active hget

/-! ## The request in the slot -/

/-- The transaction with an id, if there is one, is for the request and has not been performed. -/
def Awaits (map : MemoryMap D n) (id : U64) (request : TransactionRequest) : Prop :=
  ∀ active, map.transaction id = some active →
    active.request = request ∧ active.phase.isPending = true

/-- The map with a new transaction in its slot. -/
def install (map : MemoryMap D n) (index : Fin n) (request : TransactionRequest) : MemoryMap D n :=
  { map.acceptTransaction index request with
    compatTransaction := some ⟨map.nextTransactionId, request⟩ }

/-- The map on which a call of the request takes the transaction in the slot a step further: a request whose
slot is empty has been submitted. -/
def submitted (map : MemoryMap D n) (request : TransactionRequest) : MemoryMap D n :=
  match map.compatTransaction, map.findDeviceIndex request.addr with
  | none, some index => map.install index request
  | _, _ => map

/-- **A call of the request performs the transaction in the slot**, which has just been accepted. -/
structure CallPerforms (map : MemoryMap D n) (request : TransactionRequest) (id : U64)
    (active : ActiveTransaction n) (result : Except BusError TransactionResponse) : Prop where
  slot : (map.submitted request).compatTransaction = some ⟨id, request⟩
  found : (map.submitted request).transaction id = some active
  accepted : active.phase = .accepted
  performs : (map.submitted request).Executes active result

/-- **A tick performs the transaction** with the id. -/
def TickPerforms (map : MemoryMap D n) (id : U64) (active : ActiveTransaction n)
    (result : Except BusError TransactionResponse) : Prop :=
  ∃ index, map.transactionIndex id = some index ∧
    (map.stage index).activeTransactions[index]? = some active ∧ (map.stage index).Executes active result

/-- The request waits in the slot, for this transaction. -/
structure Waiting (map : MemoryMap D n) (id : U64) (request : TransactionRequest)
    (active : ActiveTransaction n) : Prop where
  slot : map.compatTransaction = some ⟨id, request⟩
  found : map.transaction id = some active

section Waiting

variable {request : TransactionRequest} {active active' : ActiveTransaction n}
  {result : Except BusError TransactionResponse}

omit [Addressable D] in
theorem Waiting.phase_eq (h : map.Waiting id request active) :
    map.transactionPhase id = some active.phase := by
  unfold transactionPhase
  rw [h.found]
  rfl

omit [Addressable D] in
theorem Waiting.submitted_eq (h : map.Waiting id request active) : map.submitted request = map := by
  unfold submitted
  rw [h.slot]

theorem Waiting.performRequest_eq (h : map.Waiting id request active) :
    map.performRequest request = map.awaitCompat ⟨id, request⟩ := by
  unfold performRequest
  rw [h.slot]
  dsimp only
  rw [if_neg (not_not.mpr rfl), if_neg (by rw [h.phase_eq]; simp)]

/-- A call performs the transaction in the slot, if any. -/
theorem Waiting.of_callPerforms (h : map.Waiting id request active)
    (performs : map.CallPerforms request id active' result) :
    active' = active ∧ active.phase = .accepted ∧ map.Executes active result := by
  obtain ⟨-, hfound, haccepted, hexecutes⟩ := performs
  rw [h.submitted_eq] at hfound hexecutes
  obtain rfl := Option.some.inj (h.found.symm.trans hfound)
  exact ⟨rfl, haccepted, hexecutes⟩

theorem Waiting.callPerforms (h : map.Waiting id request active) (haccepted : active.phase = .accepted)
    (hexecutes : map.Executes active result) : map.CallPerforms request id active result := by
  refine ⟨?_, ?_, haccepted, ?_⟩ <;> rw [h.submitted_eq]
  · exact h.slot
  · exact h.found
  · exact hexecutes

/-- A transaction advanced by its id. -/
theorem advanceTransaction_transaction (h : map.transaction id = some active) :
    (map.advanceTransaction id).2.transaction id =
      some { active with phase := (map.stepTransaction active).1 } := by
  obtain ⟨index, hindex, hget⟩ := transactionIndex_of_transaction h
  unfold advanceTransaction
  rw [hindex]
  dsimp only
  unfold transaction
  rw [transactionIndex_congr (map.ids_advanceTransactionAt index), hindex]
  show (map.advanceTransactionAt index).activeTransactions[index]? = _
  rw [advanceTransactionAt_getElem?, if_pos rfl, hget]
  rfl

theorem advanceTransaction_compat (map : MemoryMap D n) (id : U64) :
    (map.advanceTransaction id).2.compatTransaction = map.compatTransaction := by
  unfold advanceTransaction
  rcases map.transactionIndex id with _ | index
  · rfl
  · exact (map.advanceTransactionAt_compat index).1

/-- A tick takes the transaction in the slot a step further. -/
theorem Waiting.tick (h : map.Waiting id request active) : ∃ index,
    map.transactionIndex id = some index ∧ (map.stage index).activeTransactions[index]? = some active ∧
      map.tick.Waiting id request
        { active with phase := ((map.stage index).stepTransaction active).1 } := by
  obtain ⟨index, hindex, hget⟩ := transactionIndex_of_transaction h.found
  obtain ⟨hstage, hfound⟩ := tick_transaction hindex hget
  exact ⟨index, hindex, hstage, map.tick_compatTransaction.trans h.slot, hfound⟩

/-- A request in flight is answered busy. -/
theorem Waiting.call_inFlight {c : U32} (h : map.Waiting id request active)
    (hphase : active.phase = .inFlight c) :
    map.performRequest request = (.error (.busy (atLeastOne map.compatRemainingCycles)), map) := by
  have hfound := h.phase_eq
  rw [hphase] at hfound
  rw [h.performRequest_eq]
  unfold awaitCompat
  dsimp only
  rw [hfound, if_neg (by simp)]
  unfold answerCompat takeTransactionResponse
  dsimp only
  rw [hfound]
  rcases map.transactionIndex id with _ | index <;> rfl

/-- A request that has been performed is answered with its result. -/
theorem Waiting.call_performed (h : map.Waiting id request active)
    (hphase : active.phase = .ofResult result) : (map.performRequest request).1 = result := by
  obtain ⟨index, hindex, -⟩ := transactionIndex_of_transaction h.found
  have hfound := h.phase_eq
  rw [hphase] at hfound
  rw [h.performRequest_eq]
  unfold awaitCompat
  dsimp only
  rw [hfound]
  unfold answerCompat takeTransactionResponse
  dsimp only
  cases result with
  | ok response =>
    rw [if_neg (by simp [TransactionPhase.ofResult]), hindex, hfound]
    rfl
  | error error =>
    rw [if_neg (by simp [TransactionPhase.ofResult]), hindex, hfound]
    rfl

/-- A request that has been submitted is taken a step further at once. -/
theorem Waiting.call_accepted (h : map.Waiting id request active) (hphase : active.phase = .accepted) :
    (map.advanceTransaction id).2.Waiting id request
        { active with phase := (map.stepTransaction active).1 } ∧
      ((map.stepTransaction active).1 ≠ .accepted →
        map.performRequest request = (map.advanceTransaction id).2.performRequest request) := by
  have next : (map.advanceTransaction id).2.Waiting id request
      { active with phase := (map.stepTransaction active).1 } :=
    ⟨(map.advanceTransaction_compat id).trans h.slot, advanceTransaction_transaction h.found⟩
  refine ⟨next, fun hne => ?_⟩
  rw [h.performRequest_eq, next.performRequest_eq]
  unfold awaitCompat
  dsimp only
  rw [h.phase_eq, hphase, if_pos rfl, next.phase_eq, if_neg fun heq => hne (Option.some.inj heq)]

end Waiting

end MemoryMap

/-! ## Reachable states -/

/-- A call of a client of the memory map. -/
inductive MapOp
  | request (request : BusRequest)
  | submitTransaction (request : TransactionRequest)
  | advanceTransaction (id : U64)
  | takeTransactionResponse (id : U64)
  | submitBurst (request : BurstRequest)
  | advanceBurst (id : U64)
  | takeBurstResponse (id : U64)
  | tick

namespace MemoryMap

variable {D : Type} {n : Nat} [Addressable D] {map : MemoryMap D n} {id : U64}

def apply (map : MemoryMap D n) : MapOp → MemoryMap D n
  | .request request => (request.call map).2
  | .submitTransaction request => (map.submitTransaction request).2
  | .advanceTransaction id => (map.advanceTransaction id).2
  | .takeTransactionResponse id => (map.takeTransactionResponse id).2
  | .submitBurst request => (map.submitBurst request).2
  | .advanceBurst id => (map.advanceBurst id).2
  | .takeBurstResponse id => (map.takeBurstResponse id).2
  | .tick => map.tick

/-- A memory map in which nothing has been requested. -/
def fresh (devices : Vector (DeviceSlot D) n) : MemoryMap D n := { devices }

/-- What holds in every reachable state: no transaction has failed with a busy answer, each is for the device
of its address, and the one in the slot exists. -/
structure Sound (map : MemoryMap D n) : Prop where
  notBusy : ∀ active ∈ map.activeTransactions, active.phase.NotBusy
  routed : ∀ active ∈ map.activeTransactions,
    map.findDeviceIndex active.request.addr = some active.deviceIndex
  slot : ∀ compat, map.compatTransaction = some compat → compat.id ∈ map.ids ∧
    (map.findDeviceIndex compat.request.addr).isSome = true

omit [Addressable D] in
theorem sound_fresh (devices : Vector (DeviceSlot D) n) : (fresh devices).Sound :=
  ⟨nofun, nofun, nofun⟩

omit [Addressable D] in
theorem exists_transaction (h : id ∈ map.ids) : ∃ active, map.transaction id = some active := by
  unfold transaction
  rcases hindex : map.transactionIndex id with _ | index
  · rw [transactionIndex_eq, List.findIdx?_eq_none_iff] at hindex
    exact absurd (hindex id h) (by simp)
  · have hlt : index < map.activeTransactions.length := by
      unfold transactionIndex at hindex
      exact (List.findIdx?_eq_some_iff_getElem.mp hindex).1
    exact ⟨_, List.getElem?_eq_getElem hlt⟩

omit [Addressable D] in
theorem mem_of_transaction {active : ActiveTransaction n} (h : map.transaction id = some active) :
    active ∈ map.activeTransactions := by
  unfold transaction at h
  rcases hindex : map.transactionIndex id with _ | index
  · rw [hindex] at h
    cases h
  · rw [hindex] at h
    exact List.mem_of_getElem? h

section Remove

variable {α : Type} {l : List α} {index : Nat} {x : α}

theorem mem_of_mem_swapRemove (h : x ∈ swapRemove l index) : x ∈ l := by
  unfold swapRemove at h
  rcases hlast : l.getLast? with _ | last
  · rw [hlast] at h
    cases h
  · rw [hlast] at h
    rcases List.mem_or_eq_of_mem_set (List.mem_of_mem_dropLast h) with hmem | rfl
    · exact hmem
    · exact List.mem_of_getLast? hlast

/-- Only the element at the index is removed. -/
theorem mem_swapRemove {i : Nat} (h : l[i]? = some x) (hne : i ≠ index) (hle : index < l.length) :
    x ∈ swapRemove l index := by
  have hlt := (List.getElem?_eq_some_iff.mp h).1
  unfold swapRemove
  rcases hlast : l.getLast? with _ | last
  · rw [List.getLast?_eq_none_iff] at hlast
    subst hlast
    cases h
  · rw [List.getLast?_eq_getElem?] at hlast
    have hset : ∀ j, (l.set index last).dropLast[j]? =
        if j < l.length - 1 then (l.set index last)[j]? else none := fun j => by
      rw [List.getElem?_dropLast, List.length_set]
    rcases Nat.lt_or_ge i (l.length - 1) with hi | hi
    · refine List.mem_of_getElem? (i := i) ?_
      rw [hset, if_pos hi, List.getElem?_set_ne (Ne.symm hne), h]
    · -- the last element has taken the place of the removed one
      obtain rfl : i = l.length - 1 := by omega
      obtain rfl : last = x := Option.some.inj (hlast.symm.trans h)
      refine List.mem_of_getElem? (i := index) ?_
      rw [hset, if_pos (by omega), List.getElem?_set_self hle]

end Remove

theorem ranges_advanceTransactionAt (map : MemoryMap D n) (index : Nat) :
    (map.advanceTransactionAt index).devices.map (·.range) = map.devices.map (·.range) := by
  unfold MemoryMap.advanceTransactionAt
  rcases map.activeTransactions[index]? with _ | active
  · rfl
  · exact (map.sameTraffic_stepTransaction active).ranges

theorem Sound.advanceTransactionAt [ReadyDevice D] (h : map.Sound) (index : Nat) :
    (map.advanceTransactionAt index).Sound := by
  have hfind := findDeviceIndex_congr (map.ranges_advanceTransactionAt index)
  -- a transaction is an old one in another phase, or an old one
  have hold : ∀ active ∈ (map.advanceTransactionAt index).activeTransactions,
      ∃ old ∈ map.activeTransactions, active.request = old.request ∧
        active.deviceIndex = old.deviceIndex ∧
          (active.phase = old.phase ∨ active.phase = (map.stepTransaction old).1) := by
    intro active hmem
    obtain ⟨i, hi⟩ := List.getElem?_of_mem hmem
    rw [advanceTransactionAt_getElem?] at hi
    split at hi
    · obtain ⟨old, hget, rfl⟩ := Option.map_eq_some_iff.1 hi
      exact ⟨old, List.mem_of_getElem? hget, rfl, rfl, .inr rfl⟩
    · exact ⟨active, List.mem_of_getElem? hi, rfl, rfl, .inl rfl⟩
  refine ⟨fun active hmem => ?_, fun active hmem => ?_, fun compat hcompat => ?_⟩
  · obtain ⟨old, hmem, -, -, hphase⟩ := hold active hmem
    have hready := h.notBusy old hmem
    rcases hphase with hphase | hphase
    · rw [hphase]
      exact hready
    · rw [hphase]
      rcases map.stepTransaction_cases old with ⟨-, c, hstep⟩ | ⟨c, -, -, hstep⟩ |
        ⟨result, hexecutes, hsettled⟩ | ⟨-, hstep⟩
      · rw [hstep]
        exact nofun
      · rw [hstep]
        exact nofun
      · rw [hexecutes.phase]
        exact TransactionPhase.notBusy_ofResult hsettled
      · rw [hstep]
        exact hready
  · obtain ⟨old, hmem, hrequest, hdevice, -⟩ := hold active hmem
    rw [hfind, hrequest, hdevice]
    exact h.routed old hmem
  · rw [ids_advanceTransactionAt, hfind]
    exact h.slot compat ((map.advanceTransactionAt_compat index).1 ▸ hcompat)

omit [Addressable D] in
theorem Sound.of_sameTransactions {map' : MemoryMap D n} (h : map.Sound)
    (hranges : map'.devices.map (·.range) = map.devices.map (·.range))
    (hactive : map'.activeTransactions = map.activeTransactions)
    (hcompat : map'.compatTransaction = map.compatTransaction) : map'.Sound := by
  have hfind := findDeviceIndex_congr hranges
  refine ⟨hactive ▸ h.notBusy, fun active hmem => ?_, fun compat heq => ?_⟩
  · rw [hfind]
    exact h.routed active (hactive ▸ hmem)
  · unfold ids
    rw [hactive, hfind]
    exact h.slot compat (hcompat ▸ heq)

theorem Sound.advanceTransaction [ReadyDevice D] (h : map.Sound) (id : U64) :
    (map.advanceTransaction id).2.Sound := by
  unfold MemoryMap.advanceTransaction
  rcases map.transactionIndex id with _ | index
  · exact h
  · exact h.advanceTransactionAt index

omit [Addressable D] in
theorem Sound.acceptTransaction (h : map.Sound) {index : Fin n} {request : TransactionRequest}
    (hfind : map.findDeviceIndex request.addr = some index) :
    (map.acceptTransaction index request).Sound := by
  refine ⟨fun active hmem => ?_, fun active hmem => ?_, fun compat hcompat => ?_⟩
  · rcases List.mem_append.mp hmem with hold | hnew
    · exact h.notBusy active hold
    · rw [List.mem_singleton.mp hnew]
      exact nofun
  · rcases List.mem_append.mp hmem with hold | hnew
    · exact h.routed active hold
    · rw [List.mem_singleton.mp hnew]
      exact hfind
  · obtain ⟨hmem, hmapped⟩ := h.slot compat hcompat
    refine ⟨?_, hmapped⟩
    unfold ids MemoryMap.acceptTransaction
    rw [List.map_append]
    exact List.mem_append_left _ hmem

omit [Addressable D] in
theorem Sound.submitTransaction (h : map.Sound) (request : TransactionRequest) :
    (map.submitTransaction request).2.Sound := by
  unfold MemoryMap.submitTransaction
  rcases hfind : map.findDeviceIndex request.addr with _ | index
  · exact h
  · exact h.acceptTransaction hfind

omit [Addressable D] in
theorem Sound.clear (h : map.Sound) : { map with compatTransaction := none }.Sound :=
  ⟨h.notBusy, h.routed, nofun⟩

omit [Addressable D] in
/-- Taking a response removes its transaction, and frees the slot if it was its. -/
theorem Sound.removeTransaction (h : map.Sound) {index : Nat}
    (hindex : map.transactionIndex id = some index) : (map.removeTransaction index id).Sound := by
  have hfound := List.findIdx?_eq_some_iff_getElem.mp hindex
  obtain ⟨hlt, hid, -⟩ := hfound
  have hnotBusy : ∀ active ∈ swapRemove map.activeTransactions index, active.phase.NotBusy :=
    fun active hmem => h.notBusy active (mem_of_mem_swapRemove hmem)
  have hrouted : ∀ active ∈ swapRemove map.activeTransactions index,
      map.findDeviceIndex active.request.addr = some active.deviceIndex :=
    fun active hmem => h.routed active (mem_of_mem_swapRemove hmem)
  unfold MemoryMap.removeTransaction clearCompatIfMatches
  split
  · exact ⟨hnotBusy, hrouted, nofun⟩
  · next hother =>
    refine ⟨hnotBusy, hrouted, fun compat hcompat => ?_⟩
    have hne : compat.id ≠ id := by
      intro heq
      have hsome : map.compatTransaction = some compat := hcompat
      rw [hsome] at hother
      simp [heq] at hother
    obtain ⟨hmem, hmapped⟩ := h.slot compat hcompat
    obtain ⟨active, hmem, hactive⟩ := List.mem_map.mp hmem
    obtain ⟨i, hi⟩ := List.getElem?_of_mem hmem
    refine ⟨List.mem_map.mpr ⟨active, mem_swapRemove hi ?_ hlt, hactive⟩, hmapped⟩
    rintro rfl
    rw [List.getElem?_eq_getElem hlt] at hi
    rw [← hactive, ← Option.some.inj hi] at hne
    exact hne (beq_iff_eq.mp hid)

omit [Addressable D] in
theorem Sound.takeTransactionResponse (h : map.Sound) (id : U64) :
    (map.takeTransactionResponse id).2.Sound := by
  unfold MemoryMap.takeTransactionResponse
  rcases hindex : map.transactionIndex id with _ | index
  · exact h
  · rcases map.transactionPhase id with _ | (_ | c | response | error)
    · exact h
    · exact h
    · exact h
    · exact h.removeTransaction hindex
    · exact h.removeTransaction hindex

omit [Addressable D] in
theorem Sound.answerCompat (h : map.Sound) (compat : CompatTransaction) :
    (map.answerCompat compat).2.Sound := by
  have hout := h.takeTransactionResponse compat.id
  unfold MemoryMap.answerCompat
  generalize map.takeTransactionResponse compat.id = out at hout ⊢
  rcases out with ⟨_ | result, map'⟩
  · exact hout
  · exact hout.clear

theorem Sound.awaitCompat [ReadyDevice D] (h : map.Sound) (compat : CompatTransaction) :
    (map.awaitCompat compat).2.Sound := by
  unfold MemoryMap.awaitCompat
  split
  · exact (h.advanceTransaction compat.id).answerCompat compat
  · exact h.answerCompat compat

/-- A request with a free slot is submitted. -/
theorem performRequest_submit {request : TransactionRequest} {index : Fin n}
    (hslot : map.compatTransaction = none) (hfind : map.findDeviceIndex request.addr = some index) :
    map.performRequest request =
      (map.install index request).awaitCompat ⟨map.nextTransactionId, request⟩ := by
  unfold MemoryMap.performRequest MemoryMap.submitTransaction
  rw [hslot, hfind]
  rfl

theorem performRequest_unmapped {request : TransactionRequest}
    (hslot : map.compatTransaction = none) (hfind : map.findDeviceIndex request.addr = none) :
    map.performRequest request = (.error (.unmappedAddress request.addr), map) := by
  unfold MemoryMap.performRequest MemoryMap.submitTransaction
  rw [hslot, hfind]

theorem performRequest_other {request : TransactionRequest} {compat : CompatTransaction}
    (hslot : map.compatTransaction = some compat) (hother : compat.request ≠ request) :
    map.performRequest request = (.error (.busy (atLeastOne map.compatRemainingCycles)), map) := by
  unfold MemoryMap.performRequest
  rw [hslot]
  dsimp only
  rw [if_pos hother]

theorem Sound.performRequest [ReadyDevice D] (h : map.Sound) (request : TransactionRequest) :
    (map.performRequest request).2.Sound := by
  rcases hslot : map.compatTransaction with _ | compat
  · rcases hfind : map.findDeviceIndex request.addr with _ | index
    · rw [performRequest_unmapped hslot hfind]
      exact h
    · rw [performRequest_submit hslot hfind]
      have installed : (map.install index request).Sound := by
        have accepted := h.acceptTransaction hfind
        refine ⟨accepted.notBusy, accepted.routed, fun compat hcompat => ?_⟩
        rw [← Option.some.inj hcompat]
        refine ⟨List.mem_map.mpr ⟨_, List.mem_append_right _ (List.mem_singleton.mpr rfl), rfl⟩, ?_⟩
        show (map.findDeviceIndex request.addr).isSome = true
        rw [hfind]
        rfl
      exact installed.awaitCompat _
  · unfold MemoryMap.performRequest
    rw [hslot]
    dsimp only
    split
    · exact h
    · split
      · exact h.clear
      · exact h.awaitCompat compat

theorem Sound.tick [ReadyDevice D] (h : map.Sound) : map.tick.Sound := by
  have hticked : map.ticked.Sound := by
    unfold ticked
    generalize List.range map.activeTransactions.length = indices
    induction indices generalizing map with
    | nil => exact h
    | cons index indices ih => exact ih (h.advanceTransactionAt index)
  have hranges : map.tick.devices.map (·.range) = map.ticked.devices.map (·.range) := by
    have hbursts := map.ticked.ranges_foldl_advanceBurstAt (List.range map.ticked.activeBursts.length)
    refine Eq.trans ?_ hbursts
    show Vector.map _ (Vector.map _ _) = _
    rw [Vector.map_map]
    rfl
  exact hticked.of_sameTransactions hranges map.tick_eq_ticked.1 map.tick_eq_ticked.2

/-! ## Requests of the bus trait -/

end MemoryMap

/-- The transaction of a request. -/
def BusRequest.transaction : BusRequest → TransactionRequest
  | .fetch32 addr => .fetch32 addr
  | .load8 addr => .load addr 1
  | .load16 addr => .load addr 2
  | .load32 addr => .load addr 4
  | .store8 addr value => .store8 addr value
  | .store16 addr value => .store16 addr value
  | .store32 addr value => .store addr 4 (toLeBytes value)

/-- What the calls of the bus trait make of a response. -/
def BusRequest.ofResponse (request : BusRequest) (answer : Except BusError TransactionResponse) :
    Except BusError U32 :=
  match request with
  | .fetch32 addr | .load32 addr => MemoryMap.readValue addr 4 fromLeBytes answer
  | .load8 addr => (MemoryMap.readValue addr 1 firstByte answer).map (·.setWidth 32)
  | .load16 addr =>
    (MemoryMap.readValue addr 2 (fun data => secondByte data ++ firstByte data) answer).map (·.setWidth 32)
  | .store8 _ _ | .store16 _ _ | .store32 _ _ => (answer.map fun _ => ()).map fun _ => 0

/-- The address is a multiple of the width. -/
def TransactionRequest.Aligned (request : TransactionRequest) : Prop :=
  request.addr % BitVec.ofNat 64 request.width = 0

instance (request : TransactionRequest) : Decidable request.Aligned :=
  inferInstanceAs (Decidable (_ = _))

namespace MemoryMap

variable {D : Type} {n : Nat} [Addressable D] {map : MemoryMap D n} {id : U64}

theorem settled_map_iff {α γ : Type} {answer : Except BusError α} (f : α → γ) :
    Settled (answer.map f) ↔ Settled answer := by
  rcases answer with error | a
  · exact ⟨fun h c heq => h c (congrArg _ (Except.error.inj heq)),
      fun h c heq => h c (congrArg _ (Except.error.inj heq))⟩
  · exact ⟨fun _ => settled_ok a, fun _ => settled_ok (f a)⟩

theorem settled_readValue_iff {α : Type} (addr : Address) (width : Nat) (value : Vector U8 4 → α)
    (answer : Except BusError TransactionResponse) :
    Settled (readValue addr width value answer) ↔ Settled answer := by
  rcases answer with error | (⟨data, width'⟩ | _)
  · exact ⟨fun h c heq => h c (congrArg _ (Except.error.inj heq)),
      fun h c heq => h c (congrArg _ (Except.error.inj heq))⟩
  · refine ⟨fun _ => settled_ok _, fun _ => ?_⟩
    unfold readValue
    dsimp only
    split
    · exact settled_ok _
    · exact settled_error rfl
  · exact ⟨fun _ => settled_ok _, fun _ => settled_error rfl⟩

theorem settled_ofResponse_iff (request : BusRequest) (answer : Except BusError TransactionResponse) :
    Settled (request.ofResponse answer) ↔ Settled answer := by
  cases request with
  | fetch32 addr | load32 addr => exact settled_readValue_iff _ _ _ _
  | load8 addr | load16 addr => exact (settled_map_iff _).trans (settled_readValue_iff _ _ _ _)
  | store8 addr value | store16 addr value | store32 addr value =>
    exact (settled_map_iff _).trans (settled_map_iff _)

/-- **An aligned call** is a request through the slot. -/
theorem call_aligned {request : BusRequest} (aligned : request.transaction.Aligned) (map : MemoryMap D n) :
    request.call map = (request.ofResponse (map.performRequest request.transaction).1,
      (map.performRequest request.transaction).2) := by
  have hread {α : Type} {transaction : TransactionRequest} (h : transaction.Aligned)
      (value : Vector U8 4 → α) : map.read transaction value =
        (readValue transaction.addr transaction.width value (map.performRequest transaction).1,
          (map.performRequest transaction).2) := if_neg (not_not.2 h)
  have hwrite {transaction : TransactionRequest} (h : transaction.Aligned) : map.write transaction =
      ((map.performRequest transaction).1.map fun _ => (), (map.performRequest transaction).2) :=
    if_neg (not_not.2 h)
  cases request with
  | fetch32 addr | load32 addr => exact hread aligned fromLeBytes
  | load8 addr =>
    exact congrArg (fun answer => (answer.1.map (·.setWidth 32), answer.2)) (hread aligned firstByte)
  | load16 addr =>
    exact congrArg (fun answer => (answer.1.map (·.setWidth 32), answer.2))
      (hread aligned fun data => secondByte data ++ firstByte data)
  | store8 addr value | store16 addr value | store32 addr value =>
    exact congrArg (fun answer => (answer.1.map fun _ => (0 : U32), answer.2)) (hwrite aligned)

/-- A misaligned call is refused. -/
theorem call_misaligned {request : BusRequest} (misaligned : ¬ request.transaction.Aligned)
    (map : MemoryMap D n) : request.call map =
      (.error (.misalignedAccess request.transaction.addr request.transaction.width), map) := by
  have hread {α : Type} {transaction : TransactionRequest} (h : ¬ transaction.Aligned)
      (value : Vector U8 4 → α) : map.read transaction value =
        (.error (.misalignedAccess transaction.addr transaction.width), map) := if_pos h
  have hwrite {transaction : TransactionRequest} (h : ¬ transaction.Aligned) : map.write transaction =
      (.error (.misalignedAccess transaction.addr transaction.width), map) := if_pos h
  cases request with
  | fetch32 addr | load32 addr => exact hread misaligned fromLeBytes
  | load8 addr =>
    exact congrArg (fun answer => (answer.1.map (·.setWidth 32), answer.2)) (hread misaligned firstByte)
  | load16 addr =>
    exact congrArg (fun answer => (answer.1.map (·.setWidth 32), answer.2))
      (hread misaligned fun data => secondByte data ++ firstByte data)
  | store8 addr value | store16 addr value | store32 addr value =>
    exact congrArg (fun answer => (answer.1.map fun _ => (0 : U32), answer.2)) (hwrite misaligned)

/-- **What a call of the bus trait does to the map**: a misaligned one leaves it, any other is a request
through the slot. -/
theorem call_cases (request : BusRequest) (map : MemoryMap D n) :
    (¬ request.transaction.Aligned ∧ (request.call map).2 = map) ∨
    (request.transaction.Aligned ∧
      (request.call map).2 = (map.performRequest request.transaction).2) := by
  by_cases aligned : request.transaction.Aligned
  · exact .inr ⟨aligned, congrArg Prod.snd (call_aligned aligned map)⟩
  · exact .inl ⟨aligned, congrArg Prod.snd (call_misaligned aligned map)⟩

theorem Sound.apply [ReadyDevice D] (h : map.Sound) (op : MapOp) : (map.apply op).Sound := by
  cases op with
  | request request =>
    show (request.call map).2.Sound
    rcases call_cases request map with ⟨-, hcall⟩ | ⟨-, hcall⟩
    · rw [hcall]
      exact h
    · rw [hcall]
      exact h.performRequest _
  | submitTransaction request => exact h.submitTransaction request
  | advanceTransaction id => exact h.advanceTransaction id
  | takeTransactionResponse id => exact h.takeTransactionResponse id
  | submitBurst request =>
    show (map.submitBurst request).2.Sound
    unfold MemoryMap.submitBurst
    split
    · exact h
    · rcases map.findDeviceIndex request.baseAddr with _ | index
      · exact h
      · dsimp only
        rcases map.crossing request index with _ | addr
        · exact h.of_sameTransactions rfl rfl rfl
        · exact h
  | advanceBurst id =>
    show (map.advanceBurst id).2.Sound
    unfold MemoryMap.advanceBurst
    rcases map.burstIndex id with _ | index
    · exact h
    · have same := map.advanceBurstAt_sameTransactions index
      exact h.of_sameTransactions (map.ranges_advanceBurstAt index) same.1 same.2
  | takeBurstResponse id =>
    show (map.takeBurstResponse id).2.Sound
    unfold MemoryMap.takeBurstResponse
    rcases map.burstIndex id with _ | index
    · exact h
    · rcases map.burst id with _ | active
      · exact h
      · dsimp only
        split
        · exact h.of_sameTransactions rfl rfl rfl
        · exact h.of_sameTransactions rfl rfl rfl
        · exact h
  | tick => exact h.tick

/-- **Every reachable state is sound.** -/
theorem sound_run [ReadyDevice D] (devices : Vector (DeviceSlot D) n) (ops : List MapOp) :
    (Automata.run apply (fresh devices) ops).Sound :=
  (Automata.Along.trivial_of _ ops).run_invariant (sound_fresh devices) fun _ op h _ => h.apply op

/-- The transaction from which a request is answered: the one in the slot, or else the one that is
submitted for it. -/
def answerId (map : MemoryMap D n) (request : TransactionRequest) : Option U64 :=
  match map.compatTransaction with
  | some compat => some compat.id
  | none => (map.findDeviceIndex request.addr).map fun _ => map.nextTransactionId

/-- A RAM of sixteen bytes whose accesses take two cycles. -/
def slowRam : Vector (DeviceSlot (LatencyAdapter Ram)) 1 :=
  #v[{ range := ⟨0, 16⟩, device := { inner := .new 0 16, latencyCycles := 2 } }]

end MemoryMap

end RvSim
