import RvSim.System.Compat

/-!
# Answers through the compatibility slot

A request of the bus trait that is repeated is answered exactly when its slot is free for it, and then with the
result of its own transaction, which one of the repetitions has performed.

## Main definitions

* `MemoryMap.attempts`: the rounds of a request that is repeated
* `MemoryMap.PerformedInRounds`: the transaction that the rounds perform
* `MemoryMap.Answered`: the request is answered with the result of a transaction of its own
* `MemoryMap.Free`: the slot is free for the request

## Main results

* `Waiting.answered`: a request that waits is answered from its transaction
* `answered_iff_free`: **a request is answered exactly when its slot is free**
* `load_never_answered`: behind a fetch that was given up, no load is answered
-/

namespace RvSim

namespace MemoryMap

variable {D : Type} {n : Nat} [Addressable D] {map : MemoryMap D n} {id : U64}

/-! ## Repeating a request -/

/-- The map after `k` rounds of a request with a tick behind it. -/
def attempts (request : TransactionRequest) (map : MemoryMap D n) : Nat → MemoryMap D n
  | 0 => map
  | k + 1 => (performRequest (attempts request map k) request).2.tick

theorem attempts_succ (request : TransactionRequest) (map : MemoryMap D n) (k : Nat) :
    attempts request map (k + 1) = attempts request (map.performRequest request).2.tick k := by
  induction k with
  | zero => rfl
  | succ k ih =>
    rw [attempts, ih]
    rfl

/-- Two maps on which the request does the same. -/
theorem attempts_congr {request : TransactionRequest} {map' : MemoryMap D n}
    (h : map.performRequest request = map'.performRequest request) (k : Nat) :
    attempts request map (k + 1) = attempts request map' (k + 1) := by
  rw [attempts_succ, attempts_succ, h]

/-- The bus answers the request after `k` rounds, and not before; until then its slot is kept. -/
structure AnsweredAfter (map : MemoryMap D n) (id : U64) (request : TransactionRequest) (k : Nat) :
    Prop where
  busy : ∀ j < k, ¬ Settled ((attempts request map j).performRequest request).1
  settled : Settled ((attempts request map k).performRequest request).1
  slot : 0 < k → (attempts request map k).compatTransaction = some ⟨id, request⟩

theorem AnsweredAfter.succ {request : TransactionRequest} {k : Nat}
    (hbusy : ¬ Settled (map.performRequest request).1)
    (h : (map.performRequest request).2.tick.AnsweredAfter id request k)
    (hslot : (map.performRequest request).2.tick.compatTransaction = some ⟨id, request⟩) :
    map.AnsweredAfter id request (k + 1) := by
  refine ⟨fun j hj => ?_, ?_, fun _ => ?_⟩
  · cases j with
    | zero => exact hbusy
    | succ j =>
      rw [attempts_succ]
      exact h.busy j (by omega)
  · rw [attempts_succ]
    exact h.settled
  · rw [attempts_succ]
    cases k with
    | zero => exact hslot
    | succ k => exact h.slot (by omega)

theorem AnsweredAfter.congr {request : TransactionRequest} {map' : MemoryMap D n} {k : Nat}
    (heq : map.performRequest request = map'.performRequest request)
    (h : map'.AnsweredAfter id request k) : map.AnsweredAfter id request k := by
  refine ⟨fun j hj => ?_, ?_, fun hk => ?_⟩
  · cases j with
    | zero =>
      show ¬ Settled (map.performRequest request).1
      rw [heq]
      exact h.busy 0 hj
    | succ j =>
      rw [attempts_congr heq]
      exact h.busy (j + 1) hj
  · cases k with
    | zero =>
      show Settled (map.performRequest request).1
      rw [heq]
      exact h.settled
    | succ k =>
      rw [attempts_congr heq]
      exact h.settled
  · cases k with
    | zero => omega
    | succ k =>
      rw [attempts_congr heq]
      exact h.slot hk

theorem not_settled_busy {α : Type} (c : U32) : ¬ Settled (.error (.busy c) : Except BusError α) :=
  fun h => h c rfl

/-! ## Where the transaction is performed -/

/-- The transaction is performed in the first `k` rounds, or in the call behind them. -/
def PerformedWithin (map : MemoryMap D n) (request : TransactionRequest) (k : Nat) (id : U64)
    (active : ActiveTransaction n) (result : Except BusError TransactionResponse) : Prop :=
  (∃ j ≤ k, (attempts request map j).CallPerforms request id active result) ∨
    ∃ j < k, ((attempts request map j).performRequest request).2.TickPerforms id active result

section Performed

variable {request : TransactionRequest} {active active' : ActiveTransaction n} {k : Nat}
  {result : Except BusError TransactionResponse}

/-- It is performed in the first round or in a later one. -/
theorem performedWithin_succ_iff : map.PerformedWithin request (k + 1) id active result ↔
    map.CallPerforms request id active result ∨
      (map.performRequest request).2.TickPerforms id active result ∨
      (map.performRequest request).2.tick.PerformedWithin request k id active result := by
  constructor
  · rintro (⟨j, hj, hcall⟩ | ⟨j, hj, htick⟩)
    · cases j with
      | zero => exact .inl hcall
      | succ j =>
        rw [attempts_succ] at hcall
        exact .inr (.inr (.inl ⟨j, by omega, hcall⟩))
    · cases j with
      | zero => exact .inr (.inl htick)
      | succ j =>
        rw [attempts_succ] at htick
        exact .inr (.inr (.inr ⟨j, by omega, htick⟩))
  · rintro (hcall | htick | ⟨j, hj, hcall⟩ | ⟨j, hj, htick⟩)
    · exact .inl ⟨0, by omega, hcall⟩
    · exact .inr ⟨0, by omega, htick⟩
    · refine .inl ⟨j + 1, by omega, ?_⟩
      rw [attempts_succ]
      exact hcall
    · refine .inr ⟨j + 1, by omega, ?_⟩
      rw [attempts_succ]
      exact htick

theorem performedWithin_zero_iff : map.PerformedWithin request 0 id active result ↔
    map.CallPerforms request id active result := by
  constructor
  · rintro (⟨j, hj, hcall⟩ | ⟨j, hj, -⟩)
    · obtain rfl := Nat.le_zero.1 hj
      exact hcall
    · omega
  · exact fun hcall => .inl ⟨0, Nat.le_refl 0, hcall⟩

/-- Two maps on which the request does the same differ in what their first call performs. -/
theorem PerformedWithin.congr {map' : MemoryMap D n}
    (heq : map.performRequest request = map'.performRequest request)
    (h : map'.PerformedWithin request k id active result) :
    map'.CallPerforms request id active result ∨ map.PerformedWithin request k id active result := by
  cases k with
  | zero => exact .inl (performedWithin_zero_iff.1 h)
  | succ k =>
    rw [performedWithin_succ_iff, ← heq] at h
    rw [performedWithin_succ_iff]
    exact h.imp_right .inr

end Performed

/-- The bus answers the request after `k` rounds from this transaction: if it was still to be performed, these
rounds perform it, and the answer is the result; and they perform no other one. -/
structure AnsweredFrom (map : MemoryMap D n) (id : U64) (request : TransactionRequest)
    (active : ActiveTransaction n) (k : Nat) : Prop extends AnsweredAfter map id request k where
  performed : active.phase.isPending = true → ∃ active' result,
    map.PerformedWithin request k id active' result ∧ active'.request = active.request ∧
      active'.deviceIndex = active.deviceIndex ∧
      ((attempts request map k).performRequest request).1 = result
  only : ∀ active' result, map.PerformedWithin request k id active' result →
    active.phase.isPending = true ∧ active'.request = active.request

section Answered

variable {request : TransactionRequest} {active : ActiveTransaction n}
  {result : Except BusError TransactionResponse}

/-- A transaction that has been performed is answered at once, and not performed again. -/
theorem Waiting.answered_performed (h : map.Waiting id request active)
    (hphase : active.phase = .ofResult result) (settled : Settled result) :
    map.AnsweredFrom id request active 0 := by
  have hpending : active.phase.isPending = false := by
    rw [hphase]
    exact TransactionPhase.isPending_ofResult result
  refine ⟨⟨by omega, ?_, by omega⟩, fun hp => ?_, fun active' result' hwithin => ?_⟩
  · show Settled (map.performRequest request).1
    rw [h.call_performed hphase]
    exact settled
  · rw [hpending] at hp
    cases hp
  · obtain ⟨-, haccepted, -⟩ := h.of_callPerforms (performedWithin_zero_iff.1 hwithin)
    rw [haccepted] at hpending
    cases hpending

variable [ReadyDevice D]

/-- A transaction in flight is answered when its latency has passed. -/
theorem Waiting.answered_inFlight {c : U32} (h : map.Waiting id request active)
    (hphase : active.phase = .inFlight c) : ∃ k, map.AnsweredFrom id request active k := by
  -- by induction on the cycles that are left
  induction hc : c.toNat using Nat.strong_induction_on generalizing map c active with
  | _ m ih =>
    have hcall := h.call_inFlight hphase
    have hbusy : ¬ Settled (map.performRequest request).1 := by
      rw [hcall]
      exact not_settled_busy _
    have hmap : (map.performRequest request).2 = map := by rw [hcall]
    have hpending : active.phase.isPending = true := by
      rw [hphase]
      rfl
    obtain ⟨index, hindex, hstage, next⟩ := h.tick
    generalize hactive' : ({ active with phase := ((map.stage index).stepTransaction active).1 } :
      ActiveTransaction n) = active' at next
    have hrequest : active'.request = active.request := by rw [← hactive']
    have hdevice : active'.deviceIndex = active.deviceIndex := by rw [← hactive']
    -- whatever is performed behind the call is the same transaction
    have only : ∀ {k}, map.tick.AnsweredFrom id request active' k → ∀ a result,
        map.PerformedWithin request (k + 1) id a result →
        active.phase.isPending = true ∧ a.request = active.request := by
      intro k hk a result hwithin
      refine ⟨hpending, ?_⟩
      rw [performedWithin_succ_iff, hmap] at hwithin
      rcases hwithin with hcallPerforms | ⟨index', hindex', hget, -⟩ | hlater
      · obtain ⟨rfl, -⟩ := h.of_callPerforms hcallPerforms
        rfl
      · obtain rfl := Option.some.inj (hindex.symm.trans hindex')
        rw [Option.some.inj (hget.symm.trans hstage)]
      · exact (hk.only a result hlater).2.trans hrequest
    have after : ∀ {k}, map.tick.AnsweredFrom id request active' k →
        map.AnsweredAfter id request (k + 1) := by
      intro k hk
      refine .succ hbusy ?_ ?_ <;> rw [hmap]
      · exact hk.toAnsweredAfter
      · exact next.slot
    rcases (map.stage index).stepTransaction_cases active with ⟨hacc, -⟩ | ⟨c', hc', hlt, hstep⟩ |
      ⟨result, hexecutes, hsettled⟩ | ⟨hp, -⟩
    · rw [hphase] at hacc
      cases hacc
    · rw [hphase] at hc'
      obtain rfl := TransactionPhase.inFlight.inj hc'
      have hphase' : active'.phase = .inFlight (c - 1) := by rw [← hactive', hstep]
      have hsub : (c - 1).toNat < m := by
        have hone : (1 : U32).toNat = 1 := rfl
        have hlt' := BitVec.lt_def.mp hlt
        rw [BitVec.toNat_sub_of_le (BitVec.le_of_lt hlt)]
        omega
      obtain ⟨k, hk⟩ := ih _ hsub next hphase' rfl
      refine ⟨k + 1, after hk, fun _ => ?_, only hk⟩
      obtain ⟨a, result, hwithin, harequest, hadevice, hanswer⟩ := hk.performed (by rw [hphase']; rfl)
      refine ⟨a, result, ?_, harequest.trans hrequest, hadevice.trans hdevice, ?_⟩
      · rw [performedWithin_succ_iff, hmap]
        exact .inr (.inr hwithin)
      · rw [attempts_succ, hmap]
        exact hanswer
    · -- the tick performs it
      have hphase' : active'.phase = .ofResult result := by rw [← hactive', hexecutes.phase]
      have hk := next.answered_performed hphase' hsettled
      refine ⟨1, after hk, fun _ => ⟨active, result, ?_, rfl, rfl, ?_⟩, only hk⟩
      · rw [performedWithin_succ_iff, hmap]
        exact .inr (.inl ⟨index, hindex, hstage, hexecutes⟩)
      · rw [attempts_succ, hmap]
        exact next.call_performed hphase'
    · rw [hpending] at hp
      cases hp

/-- **A request that waits is answered.** -/
theorem Waiting.answered (h : map.Waiting id request active) (ready : active.phase.NotBusy) :
    ∃ k, map.AnsweredFrom id request active k := by
  rcases hphase : active.phase with _ | c | response | error
  · obtain ⟨next, heq⟩ := h.call_accepted hphase
    rcases map.stepTransaction_cases active with ⟨-, c, hstep⟩ | ⟨c', hc', -⟩ |
      ⟨result, hexecutes, hsettled⟩ | ⟨hp, -⟩
    · -- the call starts its latency
      have heq := heq (by rw [hstep]; simp)
      obtain ⟨k, hk⟩ := next.answered_inFlight hstep
      refine ⟨k, hk.toAnsweredAfter.congr heq, fun _ => ?_, fun a result hwithin => ?_⟩
      · obtain ⟨a, result, hwithin, hrequest, hdevice, hanswer⟩ := hk.performed (by rw [hstep]; rfl)
        refine ⟨a, result, (hwithin.congr heq).resolve_left fun hcall => ?_, hrequest, hdevice, ?_⟩
        · obtain ⟨-, haccepted, -⟩ := next.of_callPerforms hcall
          rw [show (map.stepTransaction active).1 = .accepted from haccepted] at hstep
          cases hstep
        · cases k with
          | zero =>
            show (map.performRequest request).1 = result
            rw [heq]
            exact hanswer
          | succ k =>
            rw [attempts_congr heq]
            exact hanswer
      · refine ⟨by rw [hphase]; rfl, ?_⟩
        rcases hwithin.congr heq.symm with hcall | hwithin'
        · rw [(h.of_callPerforms hcall).1]
        · exact (hk.only a result hwithin').2
    · rw [hphase] at hc'
      cases hc'
    · -- the call performs it
      have heq := heq (by rw [hexecutes.phase]; cases result <;> simp [TransactionPhase.ofResult])
      have hk := next.answered_performed hexecutes.phase hsettled
      refine ⟨0, hk.toAnsweredAfter.congr heq, fun _ => ⟨active, result, ?_, rfl, rfl, ?_⟩,
        fun a result hwithin => ?_⟩
      · exact performedWithin_zero_iff.2 (h.callPerforms hphase hexecutes)
      · show (map.performRequest request).1 = result
        rw [heq]
        exact next.call_performed hexecutes.phase
      · refine ⟨by rw [hphase]; rfl, ?_⟩
        rw [(h.of_callPerforms (performedWithin_zero_iff.1 hwithin)).1]
    · rw [hphase] at hp
      cases hp
  · exact h.answered_inFlight hphase
  · exact ⟨0, answered_performed h (show active.phase = .ofResult (.ok response) from hphase) (settled_ok response)⟩
  · have hresult : active.phase = .ofResult (.error error) := hphase
    refine ⟨0, h.answered_performed hresult fun c hc => ?_⟩
    exact ready c (hphase.trans (congrArg _ (Except.error.inj hc)))

end Answered

/-! ## The slot from which a request is answered -/

section Installed

variable {request : TransactionRequest} {active : ActiveTransaction n} {k : Nat}

/-- Two maps that a call takes to the same step perform the same. -/
theorem performedWithin_congr {map' : MemoryMap D n}
    (hcall : map.performRequest request = map'.performRequest request)
    (hsubmitted : map.submitted request = map'.submitted request)
    {result : Except BusError TransactionResponse} :
    map.PerformedWithin request k id active result ↔ map'.PerformedWithin request k id active result := by
  have hfirst : map.CallPerforms request id active result ↔ map'.CallPerforms request id active result := by
    constructor <;> rintro ⟨hslot, hfound, haccepted, hexecutes⟩
    · rw [hsubmitted] at hslot hfound hexecutes
      exact ⟨hslot, hfound, haccepted, hexecutes⟩
    · rw [← hsubmitted] at hslot hfound hexecutes
      exact ⟨hslot, hfound, haccepted, hexecutes⟩
  cases k with
  | zero => rw [performedWithin_zero_iff, performedWithin_zero_iff, hfirst]
  | succ k => rw [performedWithin_succ_iff, performedWithin_succ_iff, hfirst, hcall]

theorem AnsweredFrom.congr {map' : MemoryMap D n}
    (hcall : map.performRequest request = map'.performRequest request)
    (hsubmitted : map.submitted request = map'.submitted request)
    (h : map'.AnsweredFrom id request active k) : map.AnsweredFrom id request active k := by
  refine ⟨h.toAnsweredAfter.congr hcall, fun hpending => ?_, fun active' result hwithin => ?_⟩
  · obtain ⟨active', result, hwithin, hrequest, hdevice, hanswer⟩ := h.performed hpending
    refine ⟨active', result, (performedWithin_congr hcall hsubmitted).2 hwithin, hrequest, hdevice, ?_⟩
    cases k with
    | zero =>
      show (map.performRequest request).1 = result
      rw [hcall]
      exact hanswer
    | succ k =>
      rw [attempts_congr hcall]
      exact hanswer
  · exact h.only active' result ((performedWithin_congr hcall hsubmitted).1 hwithin)

omit [Addressable D] in
/-- A new transaction waits in its slot; an older one with its id would take its place. -/
theorem waiting_install (map : MemoryMap D n) (index : Fin n) (request : TransactionRequest) :
    ∃ active : ActiveTransaction n,
      (map.install index request).Waiting map.nextTransactionId request active ∧
      (map.transaction map.nextTransactionId = some active ∨
        map.transaction map.nextTransactionId = none ∧ active.request = request ∧
          active.phase.isPending = true) := by
  have hindex : (map.install index request).transactionIndex map.nextTransactionId =
      (map.transactionIndex map.nextTransactionId <|> some map.activeTransactions.length) := by
    unfold transactionIndex install MemoryMap.acceptTransaction
    dsimp only
    rw [List.findIdx?_append]
    simp
  have hget (i : Nat) : (map.install index request).activeTransactions[i]? =
      (map.activeTransactions ++ [⟨map.nextTransactionId, index, request, .accepted⟩])[i]? := rfl
  rcases hold : map.transactionIndex map.nextTransactionId with _ | i
  · refine ⟨⟨map.nextTransactionId, index, request, .accepted⟩, ⟨rfl, ?_⟩, .inr ⟨?_, rfl, rfl⟩⟩
    · unfold transaction
      rw [hindex, hold]
      show (map.install index request).activeTransactions[map.activeTransactions.length]? = _
      rw [hget, List.getElem?_append_right (Nat.le_refl _), Nat.sub_self]
      rfl
    · unfold transaction
      rw [hold]
      rfl
  · have hlt : i < map.activeTransactions.length := by
      unfold transactionIndex at hold
      exact (List.findIdx?_eq_some_iff_getElem.mp hold).1
    refine ⟨map.activeTransactions[i], ⟨rfl, ?_⟩, .inl ?_⟩
    · unfold transaction
      rw [hindex, hold]
      show (map.install index request).activeTransactions[i]? = _
      rw [hget, List.getElem?_append_left hlt, List.getElem?_eq_getElem hlt]
    · unfold transaction
      rw [hold]
      exact List.getElem?_eq_getElem hlt

omit [Addressable D] in
/-- A request that is answered from a transaction is for a device. -/
theorem Sound.mapped_of_answerId (h : map.Sound)
    (hslot : ∀ compat ∈ map.compatTransaction, compat.request = request)
    (hid : id ∈ map.answerId request) : ∃ index, map.findDeviceIndex request.addr = some index := by
  unfold answerId at hid
  rcases hcompat : map.compatTransaction with _ | compat
  · rw [hcompat] at hid
    obtain ⟨index, hfind, -⟩ := Option.map_eq_some_iff.1 hid
    exact ⟨index, hfind⟩
  · rw [← hslot compat hcompat]
    exact Option.isSome_iff_exists.1 (h.slot compat hcompat).2

/-- **A request whose slot holds no other request is answered** from the transaction of its slot, which is for
the device of its address. It awaits the request exactly when it is its own and has not been performed. -/
theorem Sound.answeredFrom [ReadyDevice D] (h : map.Sound)
    (hslot : ∀ compat ∈ map.compatTransaction, compat.request = request)
    (hid : id ∈ map.answerId request) : ∃ active k, map.AnsweredFrom id request active k ∧
      map.findDeviceIndex active.request.addr = some active.deviceIndex ∧
      (map.Awaits id request ↔ active.request = request ∧ active.phase.isPending = true) := by
  have awaits_iff {active : ActiveTransaction n} (hactive : map.transaction id = some active) :
      map.Awaits id request ↔ active.request = request ∧ active.phase.isPending = true := by
    refine ⟨fun hawaits => hawaits active hactive, fun hown active' hactive' => ?_⟩
    obtain rfl := Option.some.inj (hactive.symm.trans hactive')
    exact hown
  unfold answerId at hid
  rcases hcompat : map.compatTransaction with _ | compat
  · rw [hcompat] at hid
    obtain ⟨index, hfind, rfl⟩ := Option.map_eq_some_iff.1 hid
    obtain ⟨active, waiting, hactive⟩ := map.waiting_install index request
    have accepted := h.acceptTransaction hfind
    have hmem : active ∈ (map.acceptTransaction index request).activeTransactions :=
      mem_of_transaction waiting.found
    obtain ⟨k, hk⟩ := waiting.answered (accepted.notBusy active hmem)
    have hsubmitted : map.submitted request = map.install index request := by
      unfold submitted
      rw [hcompat, hfind]
    refine ⟨active, k, hk.congr ?_ ?_, accepted.routed active hmem, ?_⟩
    · rw [performRequest_submit hcompat hfind, waiting.performRequest_eq]
    · rw [hsubmitted, waiting.submitted_eq]
    · rcases hactive with hold | ⟨hnone, hnew⟩
      · exact awaits_iff hold
      · refine ⟨fun _ => hnew, fun _ active' hactive' => ?_⟩
        rw [hnone] at hactive'
        cases hactive'
  · rw [hcompat] at hid
    obtain rfl : compat.id = id := Option.some.inj hid
    obtain ⟨active, hactive⟩ := exists_transaction (h.slot compat hcompat).1
    have waiting : map.Waiting compat.id request active :=
      ⟨by rw [hcompat, ← hslot compat hcompat], hactive⟩
    have hmem := mem_of_transaction hactive
    obtain ⟨k, hk⟩ := waiting.answered (h.notBusy active hmem)
    exact ⟨active, k, hk, h.routed active hmem, awaits_iff hactive⟩

/-- A slot that holds another request is never freed by repeating this one. -/
theorem attempts_other {compat : CompatTransaction}
    (hslot : map.compatTransaction = some compat) (hother : compat.request ≠ request) (k : Nat) :
    (attempts request map k).compatTransaction = some compat := by
  induction k with
  | zero => exact hslot
  | succ k ih =>
    rw [attempts, tick_compatTransaction, performRequest_other ih hother]
    exact ih

theorem AnsweredAfter.answerId_eq (h : map.AnsweredAfter id request k) (hid : id ∈ map.answerId request) :
    (attempts request map k).answerId request = some id := by
  rcases Nat.eq_zero_or_pos k with rfl | hk
  · exact hid
  · unfold answerId
    rw [h.slot hk]

end Installed

/-! ## When a request of the bus trait is answered -/

/-- The transaction is performed in the first `k` rounds of the request, or in the call behind them. -/
def PerformedInRounds (map : MemoryMap D n) (request : BusRequest) (k : Nat) (id : U64)
    (active : ActiveTransaction n) (result : Except BusError TransactionResponse) : Prop :=
  (∃ j ≤ k, (request.rounds map j).CallPerforms request.transaction id active result) ∨
    ∃ j < k, (request.call (request.rounds map j)).2.TickPerforms id active result

/-- The answer behind `k` rounds is the request's own: the result of its transaction on the device of its
address, performed in these rounds. A request that gets no transaction is refused. -/
def AnswersOwn (map : MemoryMap D n) (request : BusRequest) (k : Nat) : Prop :=
  if request.transaction.Aligned then
    match map.findDeviceIndex request.transaction.addr with
    | none =>
      (request.call (request.rounds map k)).1 = .error (.unmappedAddress request.transaction.addr)
    | some index =>
      ∃ id ∈ (request.rounds map k).answerId request.transaction, ∃ active result,
        map.PerformedInRounds request k id active result ∧ active.request = request.transaction ∧
          active.deviceIndex = index ∧
          (request.call (request.rounds map k)).1 = request.ofResponse result
  else
    (request.call (request.rounds map k)).1 =
      .error (.misalignedAccess request.transaction.addr request.transaction.width)

/-- Repeating the request, with a tick between two calls, ends with an answer, which is its own. -/
def Answered (map : MemoryMap D n) (request : BusRequest) : Prop :=
  ∃ k, (∀ j < k, ¬ Settled (request.call (request.rounds map j)).1) ∧
    Settled (request.call (request.rounds map k)).1 ∧ map.AnswersOwn request k

/-- The slot is free for the request: it holds no other request, and the transaction from which it would
be answered, if it exists, is one for this request that has not been performed. A misaligned request
does not need the slot. -/
def Free (map : MemoryMap D n) (request : BusRequest) : Prop :=
  request.transaction.Aligned →
    (∀ compat ∈ map.compatTransaction, compat.request = request.transaction) ∧
    ∀ id ∈ map.answerId request.transaction, map.Awaits id request.transaction

section Rounds

variable {request : BusRequest} (aligned : request.transaction.Aligned) (map : MemoryMap D n) (k : Nat)

include aligned

/-- The rounds of an aligned request are attempts through the slot. -/
theorem rounds_eq_attempts : request.rounds map k = attempts request.transaction map k := by
  induction k with
  | zero => rfl
  | succ k ih =>
    show MemoryMap.tick (request.call (request.rounds map k)).2 = _
    rw [call_aligned aligned, ih]
    rfl

theorem call_rounds : request.call (request.rounds map k) =
    (request.ofResponse ((attempts request.transaction map k).performRequest request.transaction).1,
      ((attempts request.transaction map k).performRequest request.transaction).2) := by
  rw [rounds_eq_attempts aligned, call_aligned aligned]

theorem settled_rounds_iff : Settled (request.call (request.rounds map k)).1 ↔
    Settled ((attempts request.transaction map k).performRequest request.transaction).1 := by
  rw [call_rounds aligned]
  exact settled_ofResponse_iff request _

theorem performedInRounds_iff {active : ActiveTransaction n} {result : Except BusError TransactionResponse} :
    map.PerformedInRounds request k id active result ↔
      map.PerformedWithin request.transaction k id active result := by
  unfold PerformedInRounds PerformedWithin
  simp only [rounds_eq_attempts aligned, call_aligned aligned]

end Rounds

section Iff

variable [ReadyDevice D] {request : BusRequest}

/-- A request that is answered with its own result has found its slot free. -/
theorem Sound.free_of_answered (h : map.Sound) (answered : map.Answered request) : map.Free request := by
  intro aligned
  obtain ⟨k, hbusy, hsettled, hown⟩ := answered
  have hcall := settled_rounds_iff aligned map
  have hslot : ∀ compat ∈ map.compatTransaction, compat.request = request.transaction := by
    intro compat hcompat
    -- the slot of another request never becomes free, and answers busy
    by_contra hother
    have hkept := attempts_other hcompat hother k
    have hanswer := (hcall k).mp hsettled
    rw [performRequest_other hkept hother] at hanswer
    exact not_settled_busy _ hanswer
  refine ⟨hslot, fun id hid => ?_⟩
  obtain ⟨active, j, hj, -, hawaits⟩ := h.answeredFrom hslot hid
  -- the call settles exactly once, in the round in which its own transaction is answered
  obtain rfl : j = k := by
    rcases Nat.lt_trichotomy j k with hlt | heq | hgt
    · exact absurd ((hcall j).mpr hj.settled) (hbusy j hlt)
    · exact heq
    · exact absurd ((hcall k).mp hsettled) (hj.busy k hgt)
  obtain ⟨index, hfind⟩ := h.mapped_of_answerId hslot hid
  unfold AnswersOwn at hown
  rw [if_pos aligned, hfind] at hown
  obtain ⟨id', hid', active', result, hperformed, hrequest, -, -⟩ := hown
  rw [rounds_eq_attempts aligned, hj.answerId_eq hid] at hid'
  obtain rfl := Option.some.inj hid'
  obtain ⟨hpending, hsame⟩ := hj.only active' result ((performedInRounds_iff aligned map j).1 hperformed)
  exact hawaits.2 ⟨hsame.symm.trans hrequest, hpending⟩

/-- **A request whose slot is free is answered**, with the result of its own transaction. -/
theorem Sound.answered_of_free (h : map.Sound) (free : map.Free request) : map.Answered request := by
  by_cases aligned : request.transaction.Aligned
  · obtain ⟨hslot, hawaits⟩ := free aligned
    have hcall := settled_rounds_iff aligned map
    rcases hid : map.answerId request.transaction with _ | id
    · -- without a transaction the address is of no device, and the call fails at once
      have hcompat : map.compatTransaction = none := by
        unfold answerId at hid
        rcases hcompat : map.compatTransaction with _ | compat
        · rfl
        · rw [hcompat] at hid
          cases hid
      have hfind : map.findDeviceIndex request.transaction.addr = none := by
        unfold answerId at hid
        rw [hcompat] at hid
        exact Option.map_eq_none_iff.1 hid
      have hanswer : (request.call map).1 = request.ofResponse
          (.error (.unmappedAddress request.transaction.addr)) := by
        rw [call_aligned aligned, performRequest_unmapped hcompat hfind]
      refine ⟨0, by omega, ?_, ?_⟩
      · show Settled (request.call map).1
        rw [hanswer]
        exact (settled_ofResponse_iff request _).2 (settled_error rfl)
      · unfold AnswersOwn
        rw [if_pos aligned, hfind]
        show (request.call map).1 = _
        rw [hanswer]
        cases request <;> rfl
    · obtain ⟨active, k, hk, hrouted, hown⟩ := h.answeredFrom hslot hid
      obtain ⟨hrequest, hpending⟩ := hown.1 (hawaits id hid)
      obtain ⟨active', result, hwithin, hrequest', hdevice, hanswer⟩ := hk.performed hpending
      rw [hrequest] at hrouted hrequest'
      refine ⟨k, fun j hj hsettled => hk.busy j hj ((hcall j).mp hsettled), (hcall k).mpr hk.settled, ?_⟩
      unfold AnswersOwn
      rw [if_pos aligned, hrouted]
      refine ⟨id, ?_, active', result, (performedInRounds_iff aligned map k).2 hwithin, hrequest', hdevice, ?_⟩
      · rw [rounds_eq_attempts aligned]
        exact hk.answerId_eq hid
      · rw [call_rounds aligned, hanswer]
  · have hanswer := call_misaligned aligned map
    refine ⟨0, by omega, ?_, ?_⟩
    · show Settled (request.call map).1
      rw [hanswer]
      exact settled_error rfl
    · unfold AnswersOwn
      rw [if_neg aligned]
      exact congrArg Prod.fst hanswer

end Iff

/-- **In every reachable state, a request is answered with the result of its own access exactly when its slot
is free.** -/
theorem answered_iff_free [ReadyDevice D] (devices : Vector (DeviceSlot D) n) (ops : List MapOp)
    (request : BusRequest) :
    (Automata.run apply (fresh devices) ops).Answered request ↔
      (Automata.run apply (fresh devices) ops).Free request :=
  ⟨(sound_run devices ops).free_of_answered, (sound_run devices ops).answered_of_free⟩

/-- A load that has waited a cycle is answered. -/
theorem load_answered_slowRam :
    (Automata.run apply (fresh slowRam) [.request (.load32 4), .tick]).Answered (.load32 4) := by
  refine (answered_iff_free slowRam _ _).2 fun _ => ⟨?_, ?_⟩
  · have hslot : (Automata.run apply (fresh slowRam) [.request (.load32 4), .tick]).compatTransaction =
        some ⟨0, .load 4 4⟩ := by decide +kernel
    intro compat hcompat
    rw [← Option.some.inj (hslot.symm.trans hcompat)]
    rfl
  · have hid : (Automata.run apply (fresh slowRam) [.request (.load32 4), .tick]).answerId (.load 4 4) =
        some 0 := by decide +kernel
    have hactive : (Automata.run apply (fresh slowRam) [.request (.load32 4), .tick]).transaction 0 =
        some ⟨0, 0, .load 4 4, .inFlight 1⟩ := by decide +kernel
    intro id hid'
    obtain rfl := Option.some.inj (hid.symm.trans hid')
    intro active hactive'
    obtain rfl := Option.some.inj (hactive.symm.trans hactive')
    exact ⟨rfl, rfl⟩

/-- A fetch that is not repeated keeps the slot, and a load is never answered. -/
theorem load_never_answered : ¬ ∀ (ops : List MapOp) (request : BusRequest),
    (Automata.run apply (fresh slowRam) ops).Answered request := by
  intro h
  have answered := h [.request (.fetch32 0), .tick, .tick] (.load32 4)
  have free := (sound_run slowRam [.request (.fetch32 0), .tick, .tick]).free_of_answered answered (by decide)
  have hslot := free.1 ⟨0, .fetch32 0⟩ (by decide +kernel)
  exact absurd hslot (by decide)

end MemoryMap

end RvSim
