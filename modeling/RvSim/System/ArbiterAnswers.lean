import RvSim.System.ArbiterOrder

/-!
# The responses that masters are given

Masters keep records of the requests they issue and of the responses they are given, and the lower bus keeps
a record of the calls that submit requests and take responses. Beside the arbiter runs a log that says for
which request the lower bus was called. The `n`-th response of a master is then what the lower bus has answered
to the calls for its `n`-th request.

## Main definitions

* `RecordedMaster`, `RecordedFabric`: the records
* `BusMasterRequest.Waits`, `BusMasterRequest.Flies`, `BusMasterRequest.Answered`: the calls for a request
* `ArbiterLedger`: the arbiter with its log
* `ArbiterLedger.AnswersInOrder`: the `n`-th response is the answer to the `n`-th request

## Main results

* `Backed`: what the records and the log hold in every state
* `answersInOrder_iff`: the responses of a run are in order if and only if no refusal overtakes
-/

namespace RvSim

open Automata

/-! ## Records -/

/-- A master that keeps a record of the requests it has issued and of the responses it was given. -/
structure RecordedMaster (M : Type) where
  inner : M
  requests : List BusMasterRequest := []
  responses : List (Except BusError BusMasterResponse) := []
  deriving DecidableEq

instance {M : Type} [BusMaster M] : BusMaster (RecordedMaster M) where
  maxOutstandingRequests master := BusMaster.maxOutstandingRequests master.inner
  request master := ((BusMaster.request master.inner).1,
    { master with
      inner := (BusMaster.request master.inner).2
      requests := master.requests ++ (BusMaster.request master.inner).1.toList })
  onResponse master response :=
    { master with
      inner := BusMaster.onResponse master.inner response
      responses := master.responses ++ [response] }

/-- A call of the lower bus for a request of a master, with its answer: transactions are on the left, bursts on
the right. -/
inductive FabricCall
  | submit (request : TransactionRequest ⊕ BurstRequest) (answer : Except BusError RequestId)
  | take (id : RequestId) (answer : Option (Except BusError (TransactionResponse ⊕ BurstResponse)))
  deriving DecidableEq

/-- A lower bus that keeps a record of these calls. -/
structure RecordedFabric (β : Type) where
  inner : β
  record : List FabricCall := []

namespace RecordedFabric

variable {β : Type}

/-- A call that is not recorded. -/
def forward {α : Type} (call : β → α × β) (bus : RecordedFabric β) : α × RecordedFabric β :=
  ((call bus.inner).1, { bus with inner := (call bus.inner).2 })

end RecordedFabric

instance {β : Type} [FabricBus β] : FabricBus (RecordedFabric β) where
  load8 bus addr := bus.forward (Bus.load8 · addr)
  store8 bus addr value := bus.forward (Bus.store8 · addr value)
  tick bus := { bus with inner := Bus.tick bus.inner }
  machineTime bus := Bus.machineTime bus.inner
  isBusy bus := Bus.isBusy bus.inner
  pendingInterrupts bus := Bus.pendingInterrupts bus.inner
  load16 bus addr := bus.forward (Bus.load16 · addr)
  load32 bus addr := bus.forward (Bus.load32 · addr)
  fetch32 bus addr := bus.forward (Bus.fetch32 · addr)
  store16 bus addr value := bus.forward (Bus.store16 · addr value)
  store32 bus addr value := bus.forward (Bus.store32 · addr value)
  submitTransaction bus request := ((TransactionBus.submitTransaction bus.inner request).1,
    { inner := (TransactionBus.submitTransaction bus.inner request).2
      record := bus.record ++
        [.submit (.inl request) ((TransactionBus.submitTransaction bus.inner request).1.map .transaction)] })
  transactionPhase bus := TransactionBus.transactionPhase bus.inner
  advanceTransaction bus id := bus.forward (TransactionBus.advanceTransaction · id)
  takeTransactionResponse bus id := ((TransactionBus.takeTransactionResponse bus.inner id).1,
    { inner := (TransactionBus.takeTransactionResponse bus.inner id).2
      record := bus.record ++ [.take (.transaction id)
        ((TransactionBus.takeTransactionResponse bus.inner id).1.map (·.map .inl))] })
  submitBurst bus request := ((BurstBus.submitBurst bus.inner request).1,
    { inner := (BurstBus.submitBurst bus.inner request).2
      record := bus.record ++
        [.submit (.inr request) ((BurstBus.submitBurst bus.inner request).1.map .burst)] })
  burstPhase bus := BurstBus.burstPhase bus.inner
  advanceBurst bus id := bus.forward (BurstBus.advanceBurst · id)
  takeBurstResponse bus id := ((BurstBus.takeBurstResponse bus.inner id).1,
    { inner := (BurstBus.takeBurstResponse bus.inner id).2
      record := bus.record ++
        [.take (.burst id) ((BurstBus.takeBurstResponse bus.inner id).1.map (·.map .inr))] })
  burstRounds bus := BurstBus.burstRounds bus.inner

/-! ## The calls for a request -/

namespace BusMasterRequest

/-- What the arbiter makes of a response of the lower bus. -/
def responseFrom (request : BusMasterRequest) : TransactionResponse ⊕ BurstResponse →
    Except BusError BusMasterResponse
  | .inl response => request.responseFromTransaction response
  | .inr response => request.responseFromBurst response

/-- The lower bus has answered every submission of the request busy. -/
def Waits (request : BusMasterRequest) (calls : List FabricCall) : Prop :=
  ∃ cycles : List U32, calls = cycles.map fun c => .submit request.lowered (.error (.busy c))

/-- The lower bus has accepted the request, and has had no response to it so far. -/
def Flies (request : BusMasterRequest) (id : RequestId) (calls : List FabricCall) : Prop :=
  ∃ before tries, request.Waits before ∧
    calls = before ++ .submit request.lowered (.ok id) :: List.replicate tries (.take id none)

/-- The lower bus has refused the request with this error, or has given this response to it. -/
def Answered (request : BusMasterRequest) (response : Except BusError BusMasterResponse)
    (calls : List FabricCall) : Prop :=
  (∃ before error, request.Waits before ∧ error.isBusy = false ∧ response = .error error ∧
    calls = before ++ [.submit request.lowered (.error error)]) ∨
  ∃ before id result, request.Flies id before ∧ response = result.bind request.responseFrom ∧
    calls = before ++ [.take id (some result)]

variable {request : BusMasterRequest} {id : RequestId} {calls : List FabricCall}

theorem Waits.busy (h : request.Waits calls) (c : U32) :
    request.Waits (calls ++ [.submit request.lowered (.error (.busy c))]) := by
  obtain ⟨cycles, rfl⟩ := h
  exact ⟨cycles ++ [c], by rw [List.map_append]; rfl⟩

theorem Waits.accepted (h : request.Waits calls) (id : RequestId) :
    request.Flies id (calls ++ [.submit request.lowered (.ok id)]) := ⟨calls, 0, h, rfl⟩

theorem Flies.tried (h : request.Flies id calls) : request.Flies id (calls ++ [.take id none]) := by
  obtain ⟨before, tries, hbefore, rfl⟩ := h
  refine ⟨before, tries + 1, hbefore, ?_⟩
  rw [List.append_assoc, List.cons_append, ← List.replicate_succ']

/-- **A submission is recorded.** -/
theorem submit_recorded {β : Type} [FabricBus β] (request : BusMasterRequest) (inner : RecordedFabric β) :
    (request.submit inner).2.record =
      inner.record ++ [.submit request.lowered (request.submit inner).1] := by
  unfold submit
  cases request.lowered <;> rfl

end BusMasterRequest

namespace InFlightRequest

variable {n : Nat}

/-- The request of a master, by its number. -/
def tag (active : InFlightRequest n) : Fin n × Nat := (active.masterIndex, active.serial)

/-- **A take is recorded**, and the response is made of its answer. -/
theorem takeResponse_recorded {β : Type} [FabricBus β] (active : InFlightRequest n)
    (inner : RecordedFabric β) : ∃ answer,
    (active.takeResponse inner).2.record = inner.record ++ [.take active.requestId answer] ∧
      (active.takeResponse inner).1 = answer.map (·.bind active.request.responseFrom) := by
  unfold takeResponse
  rcases active.requestId with id | id
  · refine ⟨_, rfl, ?_⟩
    show (TransactionBus.takeTransactionResponse inner.inner id).1.map _ = _
    rcases (TransactionBus.takeTransactionResponse inner.inner id).1 with _ | (_ | _) <;> rfl
  · refine ⟨_, rfl, ?_⟩
    show (BurstBus.takeBurstResponse inner.inner id).1.map _ = _
    rcases (BurstBus.takeBurstResponse inner.inner id).1 with _ | (_ | _) <;> rfl

end InFlightRequest

/-! ## The log -/

/-- A call of the lower bus, and the request of a master that it is for. -/
abbrev LoggedCall (n : Nat) : Type := (Fin n × Nat) × FabricCall

/-- The calls for a request. -/
def callsFor {n : Nat} (log : List (LoggedCall n)) (tag : Fin n × Nat) : List FabricCall :=
  (log.filter (·.1 = tag)).map Prod.snd

section Calls

variable {n : Nat} {log more : List (LoggedCall n)} {tag : Fin n × Nat}

theorem callsFor_append : callsFor (log ++ more) tag = callsFor log tag ++ callsFor more tag := by
  unfold callsFor
  rw [List.filter_append, List.map_append]

theorem callsFor_eq_nil (h : ∀ entry ∈ more, entry.1 ≠ tag) : callsFor more tag = [] := by
  unfold callsFor
  rw [List.filter_eq_nil_iff.2 fun entry hentry => by simpa using h entry hentry, List.map_nil]

theorem callsFor_append_of_ne (h : ∀ entry ∈ more, entry.1 ≠ tag) :
    callsFor (log ++ more) tag = callsFor log tag := by
  rw [callsFor_append, callsFor_eq_nil h, List.append_nil]

theorem callsFor_append_self (call : FabricCall) :
    callsFor (log ++ [(tag, call)]) tag = callsFor log tag ++ [call] := by
  rw [callsFor_append]
  unfold callsFor
  rw [List.filter_cons_of_pos (by simp), List.filter_nil]
  rfl

end Calls

/-- An arbiter over a lower bus and masters that keep records, and a log of the calls of the lower bus. -/
structure ArbiterLedger (β M : Type) (n : Nat) where
  arbiter : ArbiterBus (RecordedFabric β) (RecordedMaster M) n
  log : List (LoggedCall n) := []

namespace ArbiterBus

variable {β M : Type} {n : Nat}

/-- What happens around the arbiter leaves the records. -/
def recordedEvent (arbiter : ArbiterBus (RecordedFabric β) (RecordedMaster M) n) :
    ArbiterEvent β M n → ArbiterEvent (RecordedFabric β) (RecordedMaster M) n
  | .tick => .tick
  | .cpu request => .cpu request
  | .lower inner => .lower { arbiter.inner with inner }
  | .master index master => .master index { (arbiter.masters.get index).master with inner := master }

/-- The requests in flight that have no response yet: a tick asks for it, in this order. -/
def waiting (active : List (InFlightRequest n)) : List (InFlightRequest n) :=
  active.filter (·.completion.isNone)

/-- The requests for which a tick calls the lower bus. -/
def callers [FabricBus β] [BusMaster M] (arbiter : ArbiterBus β M n) : List (Fin n × Nat) :=
  (waiting arbiter.inFlightRequests).map InFlightRequest.tag ++
    arbiter.polled.chosen.pendingRequest.toList.map fun pending => (pending.masterIndex, pending.serial)

end ArbiterBus

namespace ArbiterLedger

variable {β M : Type} {n : Nat}

/-- An arbiter with the masters added. -/
def start (inner : β) (masters : Vector M n) : ArbiterLedger β M n where
  arbiter := .new { inner } (masters.map fun master => { inner := master })

/-- An event, and the calls of a tick with the requests that they are for. -/
def next [FabricBus β] [BusMaster M] (ledger : ArbiterLedger β M n) (event : ArbiterEvent β M n) :
    ArbiterLedger β M n :=
  let arbiter := ledger.arbiter.next (ledger.arbiter.recordedEvent event)
  let called := match event with
    | .tick => ledger.arbiter.callers
    | _ => []
  { arbiter, log := ledger.log ++ called.zip (arbiter.inner.record.drop ledger.arbiter.inner.record.length) }

/-- **The `n`-th response of a master is the answer of the lower bus to its `n`-th request**; every request that
a master has issued is answered once or is still outstanding. The log holds all calls of the lower bus, and a
request in flight that has no completion has had no response. -/
structure AnswersInOrder (ledger : ArbiterLedger β M n) : Prop extends ledger.arbiter.AnswersInOrder where
  requests (index : Fin n) : (ledger.arbiter.masters.get index).master.requests.length =
    (ledger.arbiter.masters.get index).issued
  responses (index : Fin n) : (ledger.arbiter.masters.get index).master.responses.length =
    (ledger.arbiter.masters.get index).answered.length
  own (index : Fin n) (k : Nat) (response : Except BusError BusMasterResponse) :
    (ledger.arbiter.masters.get index).master.responses[k]? = some response →
      ∃ request, (ledger.arbiter.masters.get index).master.requests[k]? = some request ∧
        request.Answered response (callsFor ledger.log (index, k))
  logged : ledger.log.map Prod.snd = ledger.arbiter.inner.record
  outstanding : ∀ active ∈ ledger.arbiter.inFlightRequests,
    (ledger.arbiter.masters.get active.masterIndex).master.requests[active.serial]? = some active.request ∧
      (active.completion = none →
        active.request.Flies active.requestId (callsFor ledger.log active.tag))

end ArbiterLedger

/-! ## What the records hold -/

namespace ArbiterBus

variable {β M : Type} {n : Nat}

/-- A request in flight: the calls for it have led to its completion. -/
def BackedRequest (masters : Vector (MasterSlot (RecordedMaster M)) n) (log : List (LoggedCall n))
    (active : InFlightRequest n) : Prop :=
  (masters.get active.masterIndex).master.requests[active.serial]? = some active.request ∧
    match active.completion with
    | none => active.request.Flies active.requestId (callsFor log active.tag)
    | some response => active.request.Answered response (callsFor log active.tag)

/-- **The records of the masters are those of their slots**, and every response is backed by the calls of the
lower bus. -/
structure Backed (masters : Vector (MasterSlot (RecordedMaster M)) n) (active : List (InFlightRequest n))
    (pendingRequest : Option (PendingRequest n)) (log : List (LoggedCall n)) : Prop where
  requests (index : Fin n) : (masters.get index).master.requests.length = (masters.get index).issued
  responses (index : Fin n) :
    (masters.get index).master.responses.length = (masters.get index).answered.length
  past : ∀ entry ∈ log, entry.1.2 < (masters.get entry.1.1).issued
  answered (index : Fin n) (k serial : Nat) (response : Except BusError BusMasterResponse) :
    (masters.get index).answered[k]? = some serial →
      (masters.get index).master.responses[k]? = some response →
        ∃ request, (masters.get index).master.requests[serial]? = some request ∧
          request.Answered response (callsFor log (index, serial))
  inFlight : ∀ request ∈ active, BackedRequest masters log request
  pending : ∀ pending ∈ pendingRequest,
    (masters.get pending.masterIndex).master.requests[pending.serial]? = some pending.request ∧
      pending.request.Waits (callsFor log (pending.masterIndex, pending.serial))

section Backed

variable {masters : Vector (MasterSlot (RecordedMaster M)) n} {active : List (InFlightRequest n)}
  {pendingRequest : Option (PendingRequest n)} {log : List (LoggedCall n)}

/-- Fewer requests are in flight. -/
theorem Backed.of_subset (h : Backed masters active pendingRequest log) {active' : List (InFlightRequest n)}
    (hsubset : ∀ request ∈ active', request ∈ active) : Backed masters active' pendingRequest log :=
  { h with inFlight := fun request hrequest => h.inFlight request (hsubset request hrequest) }

/-- The records and the numbers of the slots are the same. -/
theorem Backed.of_slots (h : Backed masters active pendingRequest log)
    {masters' : Vector (MasterSlot (RecordedMaster M)) n}
    (hsame : ∀ index, (masters'.get index).master.requests = (masters.get index).master.requests ∧
      (masters'.get index).master.responses = (masters.get index).master.responses ∧
      (masters'.get index).issued = (masters.get index).issued ∧
      (masters'.get index).answered = (masters.get index).answered) :
    Backed masters' active pendingRequest log := by
  refine ⟨fun index => ?_, fun index => ?_, fun entry hentry => ?_, fun index k serial response => ?_,
    fun request hrequest => ?_, fun pending hpending => ?_⟩
  · rw [(hsame index).1, (hsame index).2.2.1]
    exact h.requests index
  · rw [(hsame index).2.1, (hsame index).2.2.2]
    exact h.responses index
  · rw [(hsame _).2.2.1]
    exact h.past entry hentry
  · rw [(hsame index).1, (hsame index).2.1, (hsame index).2.2.2]
    exact h.answered index k serial response
  · unfold BackedRequest
    rw [(hsame _).1]
    exact h.inFlight request hrequest
  · rw [(hsame _).1]
    exact h.pending pending hpending

variable [BusMaster M]

/-- **A response that is backed is delivered.** -/
theorem Backed.deliver (h : Backed masters active pendingRequest log) {index : Fin n} {serial : Nat}
    {request : BusMasterRequest} {response : Except BusError BusMasterResponse}
    (hrequest : (masters.get index).master.requests[serial]? = some request)
    (hanswered : request.Answered response (callsFor log (index, serial))) :
    Backed (deliver masters index serial response) active pendingRequest log := by
  have hsame (other : Fin n) :
      ((ArbiterBus.deliver masters index serial response).get other).master.requests =
        (masters.get other).master.requests ∧
      ((ArbiterBus.deliver masters index serial response).get other).issued = (masters.get other).issued := by
    unfold ArbiterBus.deliver
    rw [slot_set]
    split
    · rename_i heq
      subst heq
      exact ⟨rfl, rfl⟩
    · exact ⟨rfl, rfl⟩
  refine ⟨fun other => ?_, fun other => ?_, fun entry hentry => ?_, fun other k serial' response' hk hr => ?_,
    fun other hother => ?_, fun pending hpending => ?_⟩
  · rw [(hsame other).1, (hsame other).2]
    exact h.requests other
  · unfold ArbiterBus.deliver
    rw [slot_set]
    split
    · rename_i heq
      subst heq
      show ((masters.get index).master.responses ++ [response]).length =
        ((masters.get index).answered ++ [serial]).length
      rw [List.length_append, List.length_append, h.responses index]
      rfl
    · exact h.responses other
  · rw [(hsame _).2]
    exact h.past entry hentry
  · rw [(hsame other).1]
    unfold ArbiterBus.deliver at hk hr
    rw [slot_set] at hk hr
    by_cases heq : index = other
    · subst heq
      rw [if_pos rfl] at hk hr
      have hlength := h.responses index
      rcases Nat.lt_or_ge k (masters.get index).answered.length with hold | hnew
      · rw [show ((masters.get index).onResponse serial response).answered =
          (masters.get index).answered ++ [serial] from rfl, List.getElem?_append_left hold] at hk
        rw [show ((masters.get index).onResponse serial response).master.responses =
          (masters.get index).master.responses ++ [response] from rfl,
          List.getElem?_append_left (hlength ▸ hold)] at hr
        exact h.answered index k serial' response' hk hr
      · rw [show ((masters.get index).onResponse serial response).answered =
          (masters.get index).answered ++ [serial] from rfl, List.getElem?_append_right hnew] at hk
        rw [show ((masters.get index).onResponse serial response).master.responses =
          (masters.get index).master.responses ++ [response] from rfl,
          List.getElem?_append_right (hlength ▸ hnew), hlength] at hr
        have hlast := (List.getElem?_eq_some_iff.1 hk).1
        rw [List.length_singleton] at hlast
        have hzero : k - (masters.get index).answered.length = 0 := by omega
        rw [hzero] at hk hr
        cases hk
        cases hr
        exact ⟨request, hrequest, hanswered⟩
    · rw [if_neg heq] at hk hr
      exact h.answered other k serial' response' hk hr
  · obtain ⟨hmine, hstate⟩ := h.inFlight other hother
    exact ⟨by rw [(hsame _).1]; exact hmine, hstate⟩
  · obtain ⟨hmine, hstate⟩ := h.pending pending hpending
    exact ⟨by rw [(hsame _).1]; exact hmine, hstate⟩

/-- **Handing out** the responses of requests that are backed. -/
theorem Backed.deliverCompleted {kept rest : List (InFlightRequest n)}
    (h : Backed masters (kept ++ rest) pendingRequest log) :
    Backed (deliverCompleted masters kept rest).1 (deliverCompleted masters kept rest).2 pendingRequest log := by
  induction rest generalizing masters kept with
  | nil => exact h.of_subset fun request hrequest => List.mem_append_left _ hrequest
  | cons active rest ih =>
    have hkeep : Backed masters ((kept ++ [active]) ++ rest) pendingRequest log := by
      rw [List.append_assoc]
      exact h
    have hactive := h.inFlight active (List.mem_append_right _ List.mem_cons_self)
    unfold ArbiterBus.deliverCompleted
    cases hcompletion : active.completion with
    | none => exact ih hkeep
    | some response =>
      dsimp only
      split
      · exact ih hkeep
      · obtain ⟨hrequest, hstate⟩ := hactive
        rw [hcompletion] at hstate
        refine ih ((h.deliver hrequest hstate).of_subset fun request hmem => ?_)
        rcases List.mem_append.1 hmem with hold | hnew
        · exact List.mem_append_left _ hold
        · exact List.mem_append_right _ (List.mem_cons_of_mem _ hnew)

end Backed

/-! ## Polling -/

/-- What a poll does to the requests in flight, with the calls that it makes for them. -/
inductive Polled : List (InFlightRequest n) → List (InFlightRequest n) → List (LoggedCall n) → Prop
  | nil : Polled [] [] []
  | kept {active : InFlightRequest n} {rest rest' : List (InFlightRequest n)} {calls : List (LoggedCall n)}
      (completed : active.completion.isSome = true) (tail : Polled rest rest' calls) :
      Polled (active :: rest) (active :: rest') calls
  | asked {active : InFlightRequest n} {rest rest' : List (InFlightRequest n)} {calls : List (LoggedCall n)}
      (waits : active.completion = none)
      (answer : Option (Except BusError (TransactionResponse ⊕ BurstResponse)))
      (tail : Polled rest rest' calls) :
      Polled (active :: rest)
        ({ active with completion := answer.map (·.bind active.request.responseFrom) } :: rest')
        ((active.tag, .take active.requestId answer) :: calls)

section Polled

variable {active active' : List (InFlightRequest n)} {calls log : List (LoggedCall n)}

theorem Polled.callers (h : Polled active active' calls) :
    calls.map Prod.fst = (waiting active).map InFlightRequest.tag := by
  induction h with
  | nil => rfl
  | kept completed _ ih =>
    unfold waiting at ih ⊢
    rw [List.filter_cons_of_neg (by simpa [Option.isNone_iff_eq_none, Option.isSome_iff_ne_none] using completed)]
    exact ih
  | asked waits answer _ ih =>
    unfold waiting at ih ⊢
    rw [List.filter_cons_of_pos (by simp [waits]), List.map_cons, List.map_cons, ih]

theorem Polled.mem_tags (h : Polled active active' calls) {call : LoggedCall n} (hcall : call ∈ calls) :
    ∃ request ∈ active, call.1 = request.tag := by
  have hmem := List.mem_map_of_mem (f := Prod.fst) hcall
  rw [h.callers] at hmem
  obtain ⟨request, hrequest, htag⟩ := List.mem_map.1 hmem
  exact ⟨request, (List.mem_filter.1 hrequest).1, htag.symm⟩

/-- The requests in flight stay backed. -/
theorem Polled.backed {masters : Vector (MasterSlot (RecordedMaster M)) n} (h : Polled active active' calls)
    (hnodup : (active.map InFlightRequest.tag).Nodup)
    (hbacked : ∀ request ∈ active, BackedRequest masters log request) :
    ∀ request ∈ active', BackedRequest masters (log ++ calls) request := by
  induction h generalizing log with
  | nil => exact fun _ h => absurd h List.not_mem_nil
  | @kept request rest rest' calls completed tail ih =>
    obtain ⟨hfresh, hrest⟩ := List.nodup_cons.1 hnodup
    intro other hother
    rcases List.mem_cons.1 hother with rfl | hmem
    · have hsame : callsFor (log ++ calls) other.tag = callsFor log other.tag := by
        refine callsFor_append_of_ne fun call hcall heq => ?_
        obtain ⟨request, hrequest, htag⟩ := tail.mem_tags hcall
        exact hfresh (List.mem_map.2 ⟨request, hrequest, htag.symm.trans heq⟩)
      have hold := hbacked other List.mem_cons_self
      unfold BackedRequest at hold ⊢
      rw [hsame]
      exact hold
    · exact ih hrest (fun request hrequest => hbacked request (List.mem_cons_of_mem _ hrequest)) other hmem
  | @asked request rest rest' calls waits answer tail ih =>
    obtain ⟨hfresh, hrest⟩ := List.nodup_cons.1 hnodup
    rw [show log ++ (request.tag, FabricCall.take request.requestId answer) :: calls =
      log ++ [(request.tag, .take request.requestId answer)] ++ calls by rw [List.append_assoc]; rfl]
    intro other hother
    rcases List.mem_cons.1 hother with rfl | hmem
    · -- the request that is asked for
      obtain ⟨hrequest, hstate⟩ := hbacked request List.mem_cons_self
      rw [waits] at hstate
      have hcalls : callsFor (log ++ [(request.tag, .take request.requestId answer)] ++ calls) request.tag =
          callsFor log request.tag ++ [.take request.requestId answer] := by
        rw [callsFor_append_of_ne fun call hcall heq => ?_, callsFor_append_self]
        obtain ⟨other, hother, htag⟩ := tail.mem_tags hcall
        exact hfresh (List.mem_map.2 ⟨other, hother, htag.symm.trans heq⟩)
      refine ⟨hrequest, ?_⟩
      cases answer with
      | none =>
        show request.request.Flies request.requestId (callsFor _ request.tag)
        rw [hcalls]
        exact hstate.tried
      | some result =>
        show request.request.Answered _ (callsFor _ request.tag)
        rw [hcalls]
        exact .inr ⟨_, _, result, hstate, rfl, rfl⟩
    · refine ih hrest (fun other hother => ?_) other hmem
      have hne : request.tag ≠ other.tag := fun heq => hfresh (List.mem_map.2 ⟨other, hother, heq.symm⟩)
      have hold := hbacked other (List.mem_cons_of_mem _ hother)
      unfold BackedRequest at hold ⊢
      rw [callsFor_append_of_ne fun call hcall => by rw [List.mem_singleton.1 hcall]; exact hne]
      exact hold

variable [FabricBus β]

/-- **A poll asks for the responses** of the requests that have none, and its calls are recorded. -/
theorem polled_collectResponses (inner : RecordedFabric β) (active : List (InFlightRequest n)) : ∃ calls,
    Polled active (collectResponses inner active).2 calls ∧
      (collectResponses inner active).1.record = inner.record ++ calls.map Prod.snd := by
  induction active generalizing inner with
  | nil => exact ⟨[], .nil, (List.append_nil _).symm⟩
  | cons request rest ih =>
    unfold collectResponses
    cases hcompletion : request.completion with
    | some response =>
      obtain ⟨calls, hpolled, hrecord⟩ := ih inner
      exact ⟨calls, .kept (by rw [hcompletion]; rfl) hpolled, hrecord⟩
    | none =>
      obtain ⟨answer, htake, hresponse⟩ := request.takeResponse_recorded inner
      obtain ⟨calls, hpolled, hrecord⟩ := ih (request.takeResponse inner).2
      refine ⟨(request.tag, .take request.requestId answer) :: calls, ?_, ?_⟩
      · dsimp only
        rw [hresponse]
        exact .asked hcompletion answer hpolled
      · dsimp only
        rw [hrecord, htake, List.append_assoc]
        rfl

end Polled

/-! ## Choosing -/

section Choose

variable [BusMaster M]

/-- A request of a master is recorded. -/
theorem request_recorded (slot : MasterSlot (RecordedMaster M)) :
    slot.request.2.master.responses = slot.master.responses ∧
      slot.request.2.master.requests = slot.master.requests ++ slot.request.1.toList := by
  have hresponses : (BusMaster.request slot.master).2.responses = slot.master.responses := rfl
  have hrequests : (BusMaster.request slot.master).2.requests =
    slot.master.requests ++ (BusMaster.request slot.master).1.toList := rfl
  unfold MasterSlot.request
  generalize BusMaster.request slot.master = out at hresponses hrequests ⊢
  obtain ⟨_ | request, master⟩ := out <;> exact ⟨hresponses, hrequests⟩

/-- **A scan** adds the request that it chooses to the record of its master. -/
theorem scan_recorded (arbiter : ArbiterBus β (RecordedMaster M) n) (order : List (Fin n)) (index : Fin n) :
    ((arbiter.scan order).2.masters.get index).master.responses =
        (arbiter.masters.get index).master.responses ∧
      ((arbiter.scan order).2.masters.get index).master.requests =
        (arbiter.masters.get index).master.requests ++
          ((arbiter.scan order).1.toList.filter (·.masterIndex = index)).map (·.request) := by
  induction order generalizing arbiter with
  | nil => exact ⟨rfl, (List.append_nil _).symm⟩
  | cons other rest ih =>
    unfold scan
    dsimp only
    split
    · exact ih arbiter
    · obtain ⟨hresponses, hrequests⟩ := request_recorded (arbiter.masters.get other)
      rcases hrequest : (arbiter.masters.get other).request with ⟨_ | request, slot⟩
      · rw [hrequest] at hresponses hrequests
        -- the master has nothing to issue
        obtain ⟨hresponses', hrequests'⟩ :=
          ih { arbiter with masters := arbiter.masters.set other slot other.isLt }
        dsimp only at hresponses' hrequests' ⊢
        rw [hresponses', hrequests', slot_set]
        split
        · rename_i heq
          subst heq
          rw [hresponses, hrequests]
          exact ⟨rfl, congrArg (· ++ _) (List.append_nil _)⟩
        · exact ⟨rfl, rfl⟩
      · rw [hrequest] at hresponses hrequests
        dsimp only
        rw [slot_set]
        by_cases heq : other = index
        · subst heq
          rw [if_pos rfl, hresponses, hrequests]
          simp
        · rw [if_neg heq]
          simp [heq]

/-- A request that is chosen is backed: no call has been made for it. -/
theorem Backed.selected {arbiter : ArbiterBus β (RecordedMaster M) n} {log : List (LoggedCall n)}
    (h : Backed arbiter.masters arbiter.inFlightRequests none log) :
    Backed arbiter.selectNextRequest.2.masters arbiter.selectNextRequest.2.inFlightRequests
      arbiter.selectNextRequest.1 log := by
  have hscanned := scanned_selectNextRequest arbiter
  have hrecorded (index : Fin n) := arbiter.scan_recorded (scanOrder arbiter.nextMasterIndex) index
  rw [show arbiter.scan (scanOrder arbiter.nextMasterIndex) = arbiter.selectNextRequest from rfl] at hrecorded
  generalize arbiter.selectNextRequest = out at hscanned hrecorded ⊢
  have hgrow {index : Fin n} {serial : Nat} {request : BusMasterRequest}
      (hrequest : (arbiter.masters.get index).master.requests[serial]? = some request) :
      (out.2.masters.get index).master.requests[serial]? = some request := by
    rw [(hrecorded index).2, List.getElem?_append_left (List.getElem?_eq_some_iff.1 hrequest).1, hrequest]
  refine ⟨fun index => ?_, fun index => ?_, fun entry hentry => ?_, fun index k serial response hk hr => ?_,
    fun request hrequest => ?_, fun pending hpending => ?_⟩
  · rw [(hrecorded index).2, hscanned.issued index, List.length_append, h.requests index, List.length_map]
    cases out.1 with
    | none => rfl
    | some pending => by_cases heq : pending.masterIndex = index <;> simp [heq]
  · rw [(hrecorded index).1, hscanned.answered index]
    exact h.responses index
  · rw [hscanned.issued]
    exact Nat.lt_add_right _ (h.past entry hentry)
  · rw [hscanned.answered] at hk
    rw [(hrecorded index).1] at hr
    obtain ⟨request, hrequest, hanswered⟩ := h.answered index k serial response hk hr
    exact ⟨request, hgrow hrequest, hanswered⟩
  · rw [hscanned.inFlightRequests] at hrequest
    obtain ⟨hmine, hstate⟩ := h.inFlight request hrequest
    exact ⟨hgrow hmine, hstate⟩
  · have hserial := hscanned.serial pending hpending
    refine ⟨?_, [], ?_⟩
    · rw [(hrecorded _).2, hserial, ← h.requests, List.getElem?_append_right (Nat.le_refl _), Nat.sub_self,
        show out.1 = some pending from hpending]
      simp
    · refine callsFor_eq_nil fun entry hentry heq => ?_
      have hlt := h.past entry hentry
      rw [heq, ← hserial] at hlt
      exact Nat.lt_irrefl _ hlt

theorem Backed.chosen {arbiter : ArbiterBus β (RecordedMaster M) n} {log : List (LoggedCall n)}
    (h : Backed arbiter.masters arbiter.inFlightRequests arbiter.pendingRequest log) :
    Backed arbiter.chosen.masters arbiter.chosen.inFlightRequests arbiter.chosen.pendingRequest log := by
  unfold ArbiterBus.chosen
  split
  · exact h
  · rename_i hpending
    have hnone := Option.not_isSome_iff_eq_none.1 hpending
    rw [hnone] at h
    have hselected := h.selected
    have hscanned := scanned_selectNextRequest arbiter
    rcases hselect : arbiter.selectNextRequest with ⟨_ | pending, selected⟩
    · rw [hselect] at hselected hscanned
      rw [show selected.pendingRequest = none from hscanned.pendingRequest.trans hnone]
      exact hselected
    · rw [hselect] at hselected
      exact hselected

end Choose

/-! ## The numbers of the requests -/

section Numbers

variable {arbiter : ArbiterBus β M n}

theorem mem_serialsOf {active : List (InFlightRequest n)} {request : InFlightRequest n}
    (h : request ∈ active) : request.serial ∈ serialsOf request.masterIndex active :=
  List.mem_map_of_mem (List.mem_filter.2 ⟨h, by simp⟩)

theorem nodup_tags {active : List (InFlightRequest n)} (h : ∀ index, (serialsOf index active).Nodup) :
    (active.map InFlightRequest.tag).Nodup := by
  induction active with
  | nil => exact List.nodup_nil
  | cons request rest ih =>
    rw [List.map_cons]
    refine List.nodup_cons.2 ⟨fun hmem => ?_, ih fun index => ?_⟩
    · obtain ⟨other, hother, htag⟩ := List.mem_map.1 hmem
      obtain ⟨hindex, hserial⟩ := Prod.mk.inj htag
      have hnodup := h request.masterIndex
      rw [serialsOf_cons, if_pos rfl] at hnodup
      refine (List.nodup_cons.1 hnodup).1 ?_
      rw [← hserial, ← hindex]
      exact mem_serialsOf hother
    · have hnodup := h index
      rw [serialsOf_cons] at hnodup
      exact (List.nodup_append.1 hnodup).2.1

/-- The numbers of the requests of a master are different. -/
theorem Orderly.nodup (h : arbiter.Orderly) (index : Fin n) :
    ((arbiter.masters.get index).answered ++ arbiter.outstandingSerials index).Nodup := by
  rw [h.serials index]
  exact List.nodup_range

theorem Orderly.nodup_tags (h : arbiter.Orderly) :
    (arbiter.inFlightRequests.map InFlightRequest.tag).Nodup :=
  ArbiterBus.nodup_tags fun index => (List.nodup_append.1 (List.nodup_append.1 (h.nodup index)).2.1).1

theorem Orderly.mem_outstanding_of_inFlight {request : InFlightRequest n}
    (hrequest : request ∈ arbiter.inFlightRequests) :
    request.serial ∈ arbiter.outstandingSerials request.masterIndex :=
  List.mem_append_left _ (mem_serialsOf hrequest)

theorem Orderly.mem_outstanding_of_pending {pending : PendingRequest n}
    (hpending : arbiter.pendingRequest = some pending) :
    pending.serial ∈ arbiter.outstandingSerials pending.masterIndex := by
  refine List.mem_append_right _ ?_
  rw [hpending]
  simp

theorem Orderly.lt_issued (h : arbiter.Orderly) {index : Fin n} {serial : Nat}
    (hmem : serial ∈ arbiter.outstandingSerials index) : serial < (arbiter.masters.get index).issued := by
  have hrange := List.mem_append_right (arbiter.masters.get index).answered hmem
  rw [h.serials index] at hrange
  exact List.mem_range.1 hrange

/-- A request that is outstanding has not been answered. -/
theorem Orderly.not_answered (h : arbiter.Orderly) {index : Fin n} {serial : Nat}
    (hmem : serial ∈ arbiter.outstandingSerials index) : serial ∉ (arbiter.masters.get index).answered :=
  fun hanswered => (List.nodup_append.1 (h.nodup index)).2.2 serial hanswered serial hmem rfl

/-- The pending request is not in flight. -/
theorem Orderly.tag_ne_pending (h : arbiter.Orderly) {request : InFlightRequest n} {pending : PendingRequest n}
    (hrequest : request ∈ arbiter.inFlightRequests) (hpending : arbiter.pendingRequest = some pending) :
    request.tag ≠ (pending.masterIndex, pending.serial) := by
  intro heq
  obtain ⟨hindex, hserial⟩ := Prod.mk.inj heq
  have houtstanding := (List.nodup_append.1 (h.nodup pending.masterIndex)).2.1
  unfold outstandingSerials at houtstanding
  have hmem := mem_serialsOf hrequest
  rw [hindex, hserial] at hmem
  exact (List.nodup_append.1 houtstanding).2.2 _ hmem pending.serial (by rw [hpending]; simp) rfl

end Numbers

/-! ## A tick -/

section Tick

variable {log : List (LoggedCall n)}

/-- **The poll of a tick.** -/
theorem Backed.polled {arbiter : ArbiterBus β (RecordedMaster M) n} {active : List (InFlightRequest n)}
    {calls : List (LoggedCall n)}
    (h : Backed arbiter.masters arbiter.inFlightRequests arbiter.pendingRequest log)
    (horderly : arbiter.Orderly) (hpolled : Polled arbiter.inFlightRequests active calls) :
    Backed arbiter.masters active arbiter.pendingRequest (log ++ calls) := by
  refine ⟨h.requests, h.responses, fun entry hentry => ?_, fun index k serial response hk hr => ?_,
    hpolled.backed horderly.nodup_tags h.inFlight, fun pending hpending => ?_⟩
  · rcases List.mem_append.1 hentry with hold | hnew
    · exact h.past entry hold
    · obtain ⟨request, hrequest, htag⟩ := hpolled.mem_tags hnew
      rw [htag]
      exact horderly.lt_issued (Orderly.mem_outstanding_of_inFlight hrequest)
  · obtain ⟨request, hrequest, hanswered⟩ := h.answered index k serial response hk hr
    refine ⟨request, hrequest, ?_⟩
    rw [callsFor_append_of_ne fun call hcall heq => ?_]
    · exact hanswered
    · obtain ⟨other, hother, htag⟩ := hpolled.mem_tags hcall
      obtain ⟨hindex, hserial⟩ := Prod.mk.inj (htag.symm.trans heq)
      refine horderly.not_answered (Orderly.mem_outstanding_of_inFlight hother) ?_
      rw [hindex, hserial]
      exact List.mem_of_getElem? hk
  · obtain ⟨hmine, hwaits⟩ := h.pending pending hpending
    refine ⟨hmine, ?_⟩
    rw [callsFor_append_of_ne fun call hcall heq => ?_]
    · exact hwaits
    · obtain ⟨other, hother, htag⟩ := hpolled.mem_tags hcall
      exact horderly.tag_ne_pending hother hpending (htag.symm.trans heq)

/-- The call that submits the pending request. -/
theorem Backed.submitted {arbiter : ArbiterBus β (RecordedMaster M) n} {pending : PendingRequest n}
    (h : Backed arbiter.masters arbiter.inFlightRequests arbiter.pendingRequest log)
    (horderly : arbiter.Orderly) (hpending : arbiter.pendingRequest = some pending) (call : FabricCall) :
    Backed arbiter.masters arbiter.inFlightRequests none
      (log ++ [((pending.masterIndex, pending.serial), call)]) := by
  refine ⟨h.requests, h.responses, fun entry hentry => ?_, fun index k serial response hk hr => ?_,
    fun request hrequest => ?_, fun _ h => by cases h⟩
  · rcases List.mem_append.1 hentry with hold | hnew
    · exact h.past entry hold
    · rw [List.mem_singleton.1 hnew]
      exact horderly.lt_issued (Orderly.mem_outstanding_of_pending hpending)
  · obtain ⟨request, hrequest, hanswered⟩ := h.answered index k serial response hk hr
    refine ⟨request, hrequest, ?_⟩
    rw [callsFor_append_of_ne fun entry hentry heq => ?_]
    · exact hanswered
    · rw [List.mem_singleton.1 hentry] at heq
      obtain ⟨hindex, hserial⟩ := Prod.mk.inj heq
      refine horderly.not_answered (Orderly.mem_outstanding_of_pending hpending) ?_
      rw [hindex, hserial]
      exact List.mem_of_getElem? hk
  · obtain ⟨hmine, hstate⟩ := h.inFlight request hrequest
    refine ⟨hmine, ?_⟩
    rw [callsFor_append_of_ne fun entry hentry heq => ?_]
    · exact hstate
    · rw [List.mem_singleton.1 hentry] at heq
      exact horderly.tag_ne_pending hrequest hpending heq.symm

variable [BusMaster M] [FabricBus β]

theorem trySubmitPendingRequest_inner {γ N : Type} [BusMaster N] [FabricBus γ] {arbiter : ArbiterBus γ N n}
    {pending : PendingRequest n} (hpending : arbiter.pendingRequest = some pending) :
    arbiter.trySubmitPendingRequest.inner = (pending.request.submit arbiter.inner).2 := by
  unfold trySubmitPendingRequest
  rw [hpending]
  dsimp only
  rcases pending.request.submit arbiter.inner with ⟨error | requestId, inner⟩
  · cases error <;> rfl
  · rfl

theorem trySubmitPendingRequest_none {arbiter : ArbiterBus β M n}
    (hpending : arbiter.pendingRequest = none) : arbiter.trySubmitPendingRequest = arbiter := by
  unfold trySubmitPendingRequest
  rw [hpending]

/-- **The submission of a tick**, with the call that it makes. -/
theorem Backed.trySubmitPendingRequest {arbiter : ArbiterBus (RecordedFabric β) (RecordedMaster M) n}
    (h : Backed arbiter.masters arbiter.inFlightRequests arbiter.pendingRequest log)
    (horderly : arbiter.Orderly) : ∃ calls : List (LoggedCall n),
    calls.map Prod.fst =
        arbiter.pendingRequest.toList.map (fun pending => (pending.masterIndex, pending.serial)) ∧
      arbiter.trySubmitPendingRequest.inner.record = arbiter.inner.record ++ calls.map Prod.snd ∧
      Backed arbiter.trySubmitPendingRequest.masters arbiter.trySubmitPendingRequest.inFlightRequests
        arbiter.trySubmitPendingRequest.pendingRequest (log ++ calls) := by
  cases hpending : arbiter.pendingRequest with
  | none =>
    rw [trySubmitPendingRequest_none hpending]
    exact ⟨[], rfl, (List.append_nil _).symm, by rw [List.append_nil]; exact h⟩
  | some pending =>
    let call : FabricCall := .submit pending.request.lowered (pending.request.submit arbiter.inner).1
    have hsubmitted := h.submitted horderly hpending call
    obtain ⟨hmine, hwaits⟩ := h.pending pending hpending
    have hcalls : callsFor (log ++ [((pending.masterIndex, pending.serial), call)])
        (pending.masterIndex, pending.serial) =
          callsFor log (pending.masterIndex, pending.serial) ++ [call] :=
      callsFor_append_self call
    refine ⟨[((pending.masterIndex, pending.serial), call)], rfl, ?_, ?_⟩
    · rw [trySubmitPendingRequest_inner hpending]
      exact pending.request.submit_recorded arbiter.inner
    obtain ⟨hnone, -⟩ | ⟨pending', hpending', hcases⟩ := submit_cases arbiter
    · rw [hpending] at hnone
      cases hnone
    obtain rfl : pending = pending' := Option.some.inj (hpending.symm.trans hpending')
    rcases hcases with ⟨requestId, inner, hafter, hanswer⟩ | ⟨cycles, inner, hafter, hanswer⟩ |
      ⟨error, inner, hbusy, hafter, hanswer⟩
    · -- the request is in flight
      rw [hafter]
      refine { hsubmitted with inFlight := fun request hrequest => ?_ }
      rcases List.mem_append.1 hrequest with hold | hnew
      · exact hsubmitted.inFlight request hold
      · rw [List.mem_singleton.1 hnew]
        refine ⟨hmine, ?_⟩
        show pending.request.Flies requestId (callsFor _ (pending.masterIndex, pending.serial))
        rw [hcalls, show call = .submit pending.request.lowered (.ok requestId) from congrArg _ hanswer]
        exact hwaits.accepted requestId
    · -- the request stays pending
      rw [hafter]
      refine { hsubmitted with pending := fun other hother => ?_ }
      obtain rfl := Option.some.inj (hpending.symm.trans hother)
      refine ⟨hmine, ?_⟩
      rw [hcalls, show call = .submit pending.request.lowered (.error (.busy cycles)) from congrArg _ hanswer]
      exact hwaits.busy cycles
    · -- the refusal is handed on
      rw [hafter]
      refine hsubmitted.deliver hmine (.inl ⟨_, error, hwaits, hbusy, rfl, ?_⟩)
      rw [hcalls, show call = .submit pending.request.lowered (.error error) from congrArg _ hanswer]

end Tick

end ArbiterBus

/-! ## Runs -/

namespace ArbiterLedger

variable {β M : Type} {n : Nat}

/-- **What holds in every state in front of a refusal that overtakes.** -/
structure Sound (ledger : ArbiterLedger β M n) : Prop where
  orderly : ledger.arbiter.Orderly
  backed : ArbiterBus.Backed ledger.arbiter.masters ledger.arbiter.inFlightRequests
    ledger.arbiter.pendingRequest ledger.log
  logged : ledger.log.map Prod.snd = ledger.arbiter.inner.record

theorem Sound.answersInOrder {ledger : ArbiterLedger β M n} (h : ledger.Sound) : ledger.AnswersInOrder := by
  refine ⟨h.orderly.answersInOrder, h.backed.requests, h.backed.responses, fun index k response hr => ?_,
    h.logged, fun request hrequest => ?_⟩
  · have hlt := (List.getElem?_eq_some_iff.1 hr).1
    rw [h.backed.responses index] at hlt
    refine h.backed.answered index k k response ?_ hr
    rw [h.orderly.answersInOrder.inOrder index, List.getElem?_range hlt]
  · obtain ⟨hmine, hstate⟩ := h.backed.inFlight request hrequest
    refine ⟨hmine, fun hnone => ?_⟩
    rw [hnone] at hstate
    exact hstate

theorem sound_start (inner : β) (masters : Vector M n) : (start inner masters).Sound := by
  have hslot (index : Fin n) : ((start inner masters).arbiter.masters.get index) =
      { master := { inner := masters[index] } } := by
    unfold start ArbiterBus.new
    show (Vector.map _ (Vector.map _ masters))[index.val] = _
    rw [Vector.getElem_map, Vector.getElem_map]
    rfl
  refine ⟨ArbiterBus.orderly_new _ _, ⟨fun index => ?_, fun index => ?_, fun _ h => (by cases h),
    fun index k serial response hk => ?_, fun _ h => (by cases h), fun _ h => (by cases h)⟩, rfl⟩
  · rw [hslot]
    rfl
  · rw [hslot]
    rfl
  · rw [hslot] at hk
    cases hk

variable [FabricBus β] [BusMaster M]

/-- The log of a tick, when its calls are known. -/
theorem next_tick {ledger : ArbiterLedger β M n} {calls : List (LoggedCall n)}
    (hcallers : calls.map Prod.fst = ledger.arbiter.callers)
    (hrecord : ledger.arbiter.tick.inner.record = ledger.arbiter.inner.record ++ calls.map Prod.snd) :
    ledger.next .tick = { arbiter := ledger.arbiter.tick, log := ledger.log ++ calls } := by
  show ArbiterLedger.mk ledger.arbiter.tick (ledger.log ++ ledger.arbiter.callers.zip
    (ledger.arbiter.tick.inner.record.drop ledger.arbiter.inner.record.length)) = _
  rw [hrecord, List.drop_left, ← hcallers, List.zip_map', List.map_id']

/-- **A tick** in which no refusal overtakes. -/
theorem Sound.tick {ledger : ArbiterLedger β M n} (h : ledger.Sound)
    (hbehind : ¬ ledger.arbiter.RefusedBehind .tick) : (ledger.next .tick).Sound := by
  -- the calls of the poll
  obtain ⟨calls, hpolled, hrecord⟩ :=
    ArbiterBus.polled_collectResponses (Bus.tick ledger.arbiter.inner) ledger.arbiter.inFlightRequests
  have hpoll : ArbiterBus.Backed ledger.arbiter.polled.masters ledger.arbiter.polled.inFlightRequests
      ledger.arbiter.polled.pendingRequest (ledger.log ++ calls) :=
    ((h.backed.polled h.orderly hpolled).deliverCompleted : ArbiterBus.Backed
      (ArbiterBus.deliverCompleted _ [] _).1 (ArbiterBus.deliverCompleted _ [] _).2 _ _)
  have hchosen := hpoll.chosen
  have hinner : ledger.arbiter.polled.chosen.inner = ledger.arbiter.polled.inner := by
    have hscanned := ArbiterBus.scanned_selectNextRequest ledger.arbiter.polled
    unfold ArbiterBus.chosen
    split
    · rfl
    · rcases hselect : ledger.arbiter.polled.selectNextRequest with ⟨_ | pending, selected⟩ <;>
        rw [hselect] at hscanned <;> exact hscanned.inner
  -- the call of the submission
  obtain ⟨submits, hcallers, hsubmit, hbacked⟩ :=
    hchosen.trySubmitPendingRequest h.orderly.polled.chosen
  rw [← ArbiterBus.tick_eq] at hsubmit hbacked
  have hrecords : ledger.arbiter.tick.inner.record =
      ledger.arbiter.inner.record ++ (calls ++ submits).map Prod.snd := by
    rw [hsubmit, hinner, List.map_append, ← List.append_assoc]
    exact congrArg (· ++ _) hrecord
  have hcalled : (calls ++ submits).map Prod.fst = ledger.arbiter.callers := by
    rw [List.map_append, hpolled.callers, hcallers]
    rfl
  rw [next_tick hcalled hrecords]
  refine ⟨h.orderly.tick hbehind, ?_, ?_⟩
  · rw [← List.append_assoc]
    exact hbacked
  · rw [hrecords, List.map_append, h.logged]

/-- A call of the CPU leaves the record. -/
theorem call_recorded (arbiter : ArbiterBus (RecordedFabric β) (RecordedMaster M) n) (request : BusRequest) :
    (request.call arbiter).2.inner.record = arbiter.inner.record := by
  have hcall {α : Type} (call : RecordedFabric β → Except BusError α × RecordedFabric β)
      (hkeep : ∀ bus, (call bus).2.record = bus.record) :
      (arbiter.forCpu call).2.inner.record = arbiter.inner.record := by
    unfold ArbiterBus.forCpu
    split
    · rfl
    · exact hkeep _
  cases request with
  | fetch32 addr => exact hcall (Bus.fetch32 · addr) fun _ => rfl
  | load8 addr => exact hcall (Bus.load8 · addr) fun _ => rfl
  | load16 addr => exact hcall (Bus.load16 · addr) fun _ => rfl
  | load32 addr => exact hcall (Bus.load32 · addr) fun _ => rfl
  | store8 addr value => exact hcall (Bus.store8 · addr value) fun _ => rfl
  | store16 addr value => exact hcall (Bus.store16 · addr value) fun _ => rfl
  | store32 addr value => exact hcall (Bus.store32 · addr value) fun _ => rfl

/-- **One event** keeps what holds unless it is a tick in which a refusal overtakes. -/
theorem Sound.next {ledger : ArbiterLedger β M n} (h : ledger.Sound) (event : ArbiterEvent β M n)
    (hbehind : ¬ ledger.arbiter.RefusedBehind (ledger.arbiter.recordedEvent event)) :
    (ledger.next event).Sound := by
  have hnext := h.orderly.next (ledger.arbiter.recordedEvent event) hbehind
  cases event with
  | tick => exact h.tick hbehind
  | cpu request =>
    obtain ⟨inner, hafter⟩ := ledger.arbiter.call_inner request
    have hrecord := call_recorded ledger.arbiter request
    refine ⟨hnext, ?_, ?_⟩
    · show ArbiterBus.Backed (request.call ledger.arbiter).2.masters
        (request.call ledger.arbiter).2.inFlightRequests (request.call ledger.arbiter).2.pendingRequest
        (ledger.log ++ [])
      rw [hafter, List.append_nil]
      exact h.backed
    · show (ledger.log ++ []).map Prod.snd = (request.call ledger.arbiter).2.inner.record
      rw [hrecord, List.append_nil]
      exact h.logged
  | lower inner =>
    refine ⟨hnext, ?_, ?_⟩
    · show ArbiterBus.Backed _ _ _ (ledger.log ++ [])
      rw [List.append_nil]
      exact h.backed
    · show (ledger.log ++ []).map Prod.snd = _
      rw [List.append_nil]
      exact h.logged
  | master index master =>
    refine ⟨hnext, ?_, ?_⟩
    · show ArbiterBus.Backed (ledger.arbiter.masters.set index { ledger.arbiter.masters.get index with
        master := { (ledger.arbiter.masters.get index).master with inner := master } } index.isLt) _ _
        (ledger.log ++ [])
      rw [List.append_nil]
      refine h.backed.of_slots fun other => ?_
      rw [ArbiterBus.slot_set]
      split
      · rename_i heq
        subst heq
        exact ⟨rfl, rfl, rfl, rfl⟩
      · exact ⟨rfl, rfl, rfl, rfl⟩
    · show (ledger.log ++ []).map Prod.snd = _
      rw [List.append_nil]
      exact h.logged

/-- The responses are in order behind the event. -/
def LeavesInOrder (ledger : ArbiterLedger β M n) (event : ArbiterEvent β M n) : Prop :=
  (ledger.next event).AnswersInOrder

/-- A refusal that overtakes. -/
def RefusedBehind (ledger : ArbiterLedger β M n) (event : ArbiterEvent β M n) : Prop :=
  ledger.arbiter.RefusedBehind (ledger.arbiter.recordedEvent event)

end ArbiterLedger

/-- **The responses of a run are in order if and only if no refusal overtakes**: behind every event the `n`-th
response that a master was given is what the lower bus has answered to its `n`-th request. -/
theorem answersInOrder_iff {β M : Type} {n : Nat} [FabricBus β] [BusMaster M] (inner : β)
    (masters : Vector M n) (events : List (ArbiterEvent β M n)) :
    Along ArbiterLedger.next ArbiterLedger.LeavesInOrder (.start inner masters) events ↔
      Along ArbiterLedger.next (fun ledger event => ¬ ledger.RefusedBehind event)
        (.start inner masters) events := by
  refine Along.iff_of_invariant (ArbiterLedger.sound_start inner masters)
    (fun ledger event h _ hbehind => ?_) (fun ledger event h _ hbehind => ?_)
    (Along.trivial_of _ events)
  · exact ⟨(h.next event hbehind).answersInOrder, h.next event hbehind⟩
  · cases event with
    | tick => exact fun hanswers => h.orderly.overtaken (not_not.1 hbehind) hanswers.toAnswersInOrder
    | _ => exact absurd (not_not.1 hbehind) id

/-- The second request of a master is unmapped, and is answered while the first one is in flight. -/
theorem refusal_overtakes :
    ¬ ∀ events : List (ArbiterEvent (MemoryMap (LatencyAdapter Ram) 1) ScriptedMaster 1),
      Along ArbiterLedger.next ArbiterLedger.LeavesInOrder
        (.start sluggishWord #v[⟨2, [.load32 0, .load32 0x100], []⟩]) events := by
  intro h
  have hsecond := (h [.tick, .tick]).2.1.inOrder 0
  revert hsecond
  decide +kernel

end RvSim
