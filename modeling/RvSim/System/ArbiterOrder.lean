import RvSim.Automata.Run
import RvSim.Devices.Ram
import RvSim.System.Arbiter

/-!
# The order of responses

The requests of a master are answered in the order of their numbers, each once, as long as the lower bus does not
refuse a request of a master that has another one in flight: a refusal is handed on at once, in front of the
responses that are still to come.

## Main definitions

* `ArbiterBus.AnswersInOrder`: the `n`-th request that is answered is the `n`-th one
* `ArbiterBus.RefusedBehind`: a refusal that overtakes

## Main results

* `ArbiterBus.Orderly.next`: an event keeps the order unless a refusal overtakes
* `ArbiterBus.Orderly.overtaken`: a refusal that overtakes is answered out of order
-/

namespace RvSim

open Automata

namespace ArbiterBus

variable {β M : Type} {n : Nat}

/-- The numbers of the requests of a master in a list. -/
def serialsOf (index : Fin n) (active : List (InFlightRequest n)) : List Nat :=
  (active.filter (·.masterIndex = index)).map (·.serial)

/-- The numbers of the requests of a master that are in flight or pending. -/
def outstandingSerials (arbiter : ArbiterBus β M n) (index : Fin n) : List Nat :=
  serialsOf index arbiter.inFlightRequests ++
    (arbiter.pendingRequest.toList.filter (·.masterIndex = index)).map (·.serial)

/-- The oldest request of a master in flight has not been answered by the lower bus. -/
def Prompt (active : List (InFlightRequest n)) : Prop :=
  ∀ index : Fin n, ∀ oldest ∈ (active.filter (·.masterIndex = index)).head?, oldest.completion = none

/-- **The `n`-th request of a master that is answered is its `n`-th one**; every request is answered once or is
still outstanding, and no response of the lower bus is kept back except behind an older request that is not
answered. -/
structure AnswersInOrder (arbiter : ArbiterBus β M n) : Prop where
  inOrder (index : Fin n) :
    (arbiter.masters.get index).answered = List.range (arbiter.masters.get index).answered.length
  once (index : Fin n) : ((arbiter.masters.get index).answered ++ arbiter.outstandingSerials index).Perm
    (List.range (arbiter.masters.get index).issued)
  prompt : Prompt arbiter.inFlightRequests

/-- What is answered and what is outstanding are the requests so far, in order. -/
structure Orderly (arbiter : ArbiterBus β M n) : Prop where
  serials (index : Fin n) : (arbiter.masters.get index).answered ++ arbiter.outstandingSerials index =
    List.range (arbiter.masters.get index).issued
  prompt : Prompt arbiter.inFlightRequests

theorem Orderly.answersInOrder {arbiter : ArbiterBus β M n} (h : arbiter.Orderly) :
    arbiter.AnswersInOrder := by
  refine ⟨fun index => ?_, fun index => .of_eq (h.serials index), h.prompt⟩
  have hprefix : (arbiter.masters.get index).answered <+: List.range (arbiter.masters.get index).issued :=
    ⟨_, h.serials index⟩
  have hlength := hprefix.length_le
  rw [List.length_range] at hlength
  have htake := List.prefix_iff_eq_take.1 hprefix
  rwa [List.take_range, Nat.min_eq_left hlength] at htake

/-! ## Lists of requests -/

/-- In a list that counts up, the last element is the number of those before it. -/
theorem last_of_eq_range {l : List Nat} {last k : Nat} (h : l ++ [last] = List.range k) :
    last = l.length := by
  have hlength := congrArg List.length h
  rw [List.length_append, List.length_singleton, List.length_range] at hlength
  subst hlength
  rw [List.range_succ] at h
  exact List.singleton_inj.1 (List.append_inj_right' h rfl)

theorem serialsOf_append (index : Fin n) (l m : List (InFlightRequest n)) :
    serialsOf index (l ++ m) = serialsOf index l ++ serialsOf index m := by
  rw [serialsOf, List.filter_append, List.map_append]
  rfl

theorem serialsOf_cons (index : Fin n) (active : InFlightRequest n) (l : List (InFlightRequest n)) :
    serialsOf index (active :: l) =
      (if active.masterIndex = index then [active.serial] else []) ++ serialsOf index l := by
  unfold serialsOf
  by_cases h : active.masterIndex = index
  · rw [List.filter_cons_of_pos (by simpa using h), if_pos h]
    rfl
  · rw [List.filter_cons_of_neg (by simpa using h), if_neg h]
    rfl

theorem serialsOf_eq_nil {index : Fin n} {l : List (InFlightRequest n)}
    (h : ∀ active ∈ l, active.masterIndex ≠ index) : serialsOf index l = [] := by
  unfold serialsOf
  rw [List.filter_eq_nil_iff.2 (by simpa using h), List.map_nil]

/-- A request that is added is the oldest of its master only if it is the only one. -/
theorem Prompt.append {l : List (InFlightRequest n)} (h : Prompt l) {active : InFlightRequest n}
    (hactive : active.completion = none ∨ ∃ other ∈ l, other.masterIndex = active.masterIndex) :
    Prompt (l ++ [active]) := by
  intro index oldest holdest
  rw [List.filter_append, List.head?_append] at holdest
  cases hhead : (l.filter (·.masterIndex = index)).head? with
  | some older =>
    rw [hhead] at holdest
    cases holdest
    exact h index oldest hhead
  | none =>
    rw [hhead] at holdest
    by_cases heq : active.masterIndex = index
    · rw [List.filter_cons_of_pos (by simpa using heq)] at holdest
      cases holdest
      refine hactive.resolve_right ?_
      rintro ⟨other, hmem, hother⟩
      have hnil := List.head?_eq_none_iff.1 hhead
      have hfiltered : other ∈ l.filter (·.masterIndex = index) :=
        List.mem_filter.2 ⟨hmem, by simpa using hother.trans heq⟩
      rw [hnil] at hfiltered
      cases hfiltered
    · rw [List.filter_cons_of_neg (by simpa using heq)] at holdest
      cases holdest

/-! ## Polling -/

section Poll

variable [BusMaster M]

/-- A response adds the number of its request. -/
theorem answered_deliver (masters : Vector (MasterSlot M) n) (index other : Fin n) (serial : Nat)
    (response : Except BusError BusMasterResponse) :
    ((deliver masters index serial response).get other).answered =
      (masters.get other).answered ++ (if index = other then [serial] else []) ∧
    ((deliver masters index serial response).get other).issued = (masters.get other).issued := by
  unfold deliver
  rw [slot_set]
  split
  · rename_i heq
    subst heq
    exact ⟨rfl, rfl⟩
  · exact ⟨(List.append_nil _).symm, rfl⟩

/-- **Handing out** moves the oldest requests of each master over, in order. -/
theorem deliverCompleted_spec (masters : Vector (MasterSlot M) n) (kept rest : List (InFlightRequest n))
    (hprompt : Prompt kept) :
    (∀ index, ((deliverCompleted masters kept rest).1.get index).answered ++
        serialsOf index (deliverCompleted masters kept rest).2 =
      (masters.get index).answered ++ serialsOf index (kept ++ rest) ∧
      ((deliverCompleted masters kept rest).1.get index).issued = (masters.get index).issued) ∧
    Prompt (deliverCompleted masters kept rest).2 := by
  induction rest generalizing masters kept with
  | nil =>
    rw [List.append_nil]
    exact ⟨fun _ => ⟨rfl, rfl⟩, hprompt⟩
  | cons active rest ih =>
    -- the request stays, behind an older one of its master or without a response
    have hkeep (h : active.completion = none ∨
        ∃ other ∈ kept, other.masterIndex = active.masterIndex) := by
      have hih := ih masters (kept ++ [active]) (hprompt.append h)
      rwa [List.append_assoc] at hih
    cases hcompletion : active.completion with
    | none =>
      have hnext : deliverCompleted masters kept (active :: rest) =
          deliverCompleted masters (kept ++ [active]) rest := by
        rw [deliverCompleted, hcompletion]
      rw [hnext]
      exact hkeep (.inl hcompletion)
    | some result =>
      have hnext : deliverCompleted masters kept (active :: rest) =
          if kept.any (·.masterIndex = active.masterIndex) then
            deliverCompleted masters (kept ++ [active]) rest
          else deliverCompleted (deliver masters active.masterIndex active.serial result) kept rest := by
        rw [deliverCompleted, hcompletion]
      rw [hnext]
      split
      · rename_i hany
        refine hkeep (.inr ?_)
        simpa using hany
      · rename_i hnone
        -- the response is handed out: the request is the oldest of its master
        obtain ⟨hserials, hlast⟩ :=
          ih (deliver masters active.masterIndex active.serial result) kept hprompt
        refine ⟨fun index => ?_, hlast⟩
        obtain ⟨hanswered, hissued⟩ := hserials index
        obtain ⟨hanswered', hissued'⟩ :=
          answered_deliver masters active.masterIndex index active.serial result
        refine ⟨?_, hissued.trans hissued'⟩
        rw [hanswered, hanswered', serialsOf_append, serialsOf_append, serialsOf_cons]
        by_cases heq : active.masterIndex = index
        · have hkept : serialsOf index kept = [] := by
            refine serialsOf_eq_nil fun other hmem hother => hnone ?_
            exact List.any_eq_true.2 ⟨other, hmem, by simpa using hother.trans heq.symm⟩
          rw [hkept, if_pos heq, List.append_assoc]
          rfl
        · rw [if_neg heq, List.append_nil]
          rfl

variable [FabricBus β]

omit [BusMaster M] in
theorem serialsOf_collectResponses (inner : β) (l : List (InFlightRequest n)) (index : Fin n) :
    serialsOf index (collectResponses inner l).2 = serialsOf index l := by
  induction l generalizing inner with
  | nil => rfl
  | cons active rest ih =>
    unfold collectResponses
    split
    · dsimp only
      rw [serialsOf_cons, serialsOf_cons, ih]
    · dsimp only
      rw [serialsOf_cons, serialsOf_cons, ih]

theorem Orderly.polled {arbiter : ArbiterBus β M n} (h : arbiter.Orderly) : arbiter.polled.Orderly := by
  obtain ⟨hserials, hprompt⟩ := deliverCompleted_spec arbiter.masters []
    (collectResponses (Bus.tick arbiter.inner) arbiter.inFlightRequests).2
    fun _ _ h => by cases h
  refine ⟨fun index => ?_, hprompt⟩
  obtain ⟨hanswered, hissued⟩ := hserials index
  rw [List.nil_append, serialsOf_collectResponses] at hanswered
  show ((deliverCompleted _ _ _).1.get index).answered ++ (serialsOf index (deliverCompleted _ _ _).2 ++
    (arbiter.pendingRequest.toList.filter (·.masterIndex = index)).map (·.serial)) =
      List.range ((deliverCompleted _ _ _).1.get index).issued
  rw [← List.append_assoc, hanswered, hissued, List.append_assoc]
  exact h.serials index

/-! ## Choosing and submitting -/

omit [FabricBus β] in
theorem Orderly.chosen {arbiter : ArbiterBus β M n} (h : arbiter.Orderly) : arbiter.chosen.Orderly := by
  unfold ArbiterBus.chosen
  split
  · exact ⟨h.serials, h.prompt⟩
  · rename_i hpending
    have hnone := Option.not_isSome_iff_eq_none.1 hpending
    have hscanned := scanned_selectNextRequest arbiter
    rcases hselect : arbiter.selectNextRequest with ⟨_ | pending, selected⟩
    · rw [hselect] at hscanned
      refine ⟨fun index => ?_, ?_⟩
      · have hserials := h.serials index
        unfold outstandingSerials at hserials ⊢
        rw [hscanned.answered, hscanned.issued, hscanned.inFlightRequests, hscanned.pendingRequest]
        exact hserials
      · rw [hscanned.inFlightRequests]
        exact h.prompt
    · rw [hselect] at hscanned
      refine ⟨fun index => ?_, ?_⟩
      · have hserials := h.serials index
        have hnumber : pending.serial = (arbiter.masters.get pending.masterIndex).issued :=
          hscanned.serial pending rfl
        unfold outstandingSerials at hserials
        rw [hnone, Option.toList_none, List.filter_nil, List.map_nil, List.append_nil] at hserials
        show (selected.masters.get index).answered ++ (serialsOf index selected.inFlightRequests ++
          ([pending].filter (·.masterIndex = index)).map (·.serial)) =
            List.range (selected.masters.get index).issued
        rw [hscanned.answered, hscanned.issued, hscanned.inFlightRequests, ← List.append_assoc, hserials]
        by_cases heq : pending.masterIndex = index
        · subst heq
          simp [hnumber, List.range_succ]
        · simp [heq]
      · show Prompt selected.inFlightRequests
        rw [hscanned.inFlightRequests]
        exact h.prompt

omit [BusMaster M] [FabricBus β] in
/-- The pending request of a master has the last number. -/
theorem Orderly.pending {arbiter : ArbiterBus β M n} (h : arbiter.Orderly) {pending : PendingRequest n}
    (hpending : arbiter.pendingRequest = some pending) :
    (arbiter.masters.get pending.masterIndex).answered ++
      serialsOf pending.masterIndex arbiter.inFlightRequests ++ [pending.serial] =
        List.range (arbiter.masters.get pending.masterIndex).issued := by
  have hserials := h.serials pending.masterIndex
  unfold outstandingSerials at hserials
  rw [hpending] at hserials
  simpa using hserials

omit [FabricBus β] in
/-- The pending request is refused, and no request of its master is in flight. -/
theorem Orderly.refused {arbiter : ArbiterBus β M n} (h : arbiter.Orderly) {pending : PendingRequest n}
    (hpending : arbiter.pendingRequest = some pending)
    (hfree : ∀ active ∈ arbiter.inFlightRequests, active.masterIndex ≠ pending.masterIndex)
    (inner : β) (response : Except BusError BusMasterResponse) :
    ({ arbiter with
      inner
      masters := deliver arbiter.masters pending.masterIndex pending.serial response
      pendingRequest := none } : ArbiterBus β M n).Orderly := by
  refine ⟨fun index => ?_, h.prompt⟩
  have hserials := h.serials index
  obtain ⟨hanswered, hissued⟩ :=
    answered_deliver arbiter.masters pending.masterIndex index pending.serial response
  unfold outstandingSerials at hserials ⊢
  dsimp only
  rw [hanswered, hissued, Option.toList_none, List.filter_nil, List.map_nil, List.append_nil]
  rw [hpending] at hserials
  by_cases heq : pending.masterIndex = index
  · subst heq
    rw [serialsOf_eq_nil hfree, if_pos rfl, List.append_nil]
    rw [serialsOf_eq_nil hfree] at hserials
    simpa using hserials
  · rw [if_neg heq, List.append_nil]
    simpa [heq] using hserials

omit [BusMaster M] [FabricBus β] in
/-- The pending request is accepted. -/
theorem Orderly.accepted {arbiter : ArbiterBus β M n} (h : arbiter.Orderly) {pending : PendingRequest n}
    (hpending : arbiter.pendingRequest = some pending) (inner : β) (requestId : RequestId) :
    ({ arbiter with
      inner
      inFlightRequests := arbiter.inFlightRequests ++
        [{ masterIndex := pending.masterIndex, request := pending.request, requestId
           completion := none, serial := pending.serial }]
      pendingRequest := none } : ArbiterBus β M n).Orderly := by
  refine ⟨fun index => ?_, h.prompt.append (.inl rfl)⟩
  have hserials := h.serials index
  unfold outstandingSerials at hserials ⊢
  rw [hpending] at hserials
  dsimp only
  rw [serialsOf_append, serialsOf_cons]
  by_cases heq : pending.masterIndex = index <;> simpa [heq, serialsOf] using hserials

/-- A refusal that overtakes: the lower bus refuses the request that the tick submits, while another one of
its master is in flight. -/
def RefusedBehind (arbiter : ArbiterBus β M n) (event : ArbiterEvent β M n) : Prop :=
  match event with
  | .tick => ∃ pending ∈ arbiter.polled.chosen.pendingRequest,
    (∃ error, (pending.request.submit arbiter.polled.chosen.inner).1 = .error error ∧
      error.isBusy = false) ∧
    ∃ active ∈ arbiter.polled.chosen.inFlightRequests, active.masterIndex = pending.masterIndex
  | _ => False

/-- What the submission of a request does. -/
theorem submit_cases (arbiter : ArbiterBus β M n) :
    (arbiter.pendingRequest = none ∧ arbiter.trySubmitPendingRequest = arbiter) ∨
    ∃ pending, arbiter.pendingRequest = some pending ∧
      ((∃ requestId inner, arbiter.trySubmitPendingRequest =
          { arbiter with
            inner
            inFlightRequests := arbiter.inFlightRequests ++
              [{ masterIndex := pending.masterIndex, request := pending.request, requestId
                 completion := none, serial := pending.serial }]
            pendingRequest := none } ∧
          (pending.request.submit arbiter.inner).1 = .ok requestId) ∨
        (∃ cycles inner, arbiter.trySubmitPendingRequest = { arbiter with inner } ∧
          (pending.request.submit arbiter.inner).1 = .error (.busy cycles)) ∨
        ∃ error inner, error.isBusy = false ∧ arbiter.trySubmitPendingRequest =
          { arbiter with
            inner
            masters := deliver arbiter.masters pending.masterIndex pending.serial (.error error)
            pendingRequest := none } ∧
          (pending.request.submit arbiter.inner).1 = .error error) := by
  unfold trySubmitPendingRequest
  cases hpending : arbiter.pendingRequest with
  | none => exact .inl ⟨rfl, rfl⟩
  | some pending =>
    refine .inr ⟨pending, rfl, ?_⟩
    dsimp only
    rcases pending.request.submit arbiter.inner with ⟨error | requestId, inner⟩
    · cases error with
      | busy cycles => exact .inr (.inl ⟨cycles, inner, rfl, rfl⟩)
      | _ => exact .inr (.inr ⟨_, inner, rfl, rfl, rfl⟩)
    · exact .inl ⟨requestId, inner, rfl, rfl⟩

/-- **A tick** keeps the order unless a refusal overtakes. -/
theorem Orderly.tick {arbiter : ArbiterBus β M n} (h : arbiter.Orderly)
    (hbehind : ¬ arbiter.RefusedBehind .tick) : arbiter.tick.Orderly := by
  rw [tick_eq]
  have hchosen := h.polled.chosen
  obtain ⟨-, hsame⟩ | ⟨pending, hpending, hcases⟩ := submit_cases arbiter.polled.chosen
  · rw [hsame]
    exact hchosen
  · rcases hcases with ⟨requestId, inner, hafter, -⟩ | ⟨cycles, inner, hafter, -⟩ |
      ⟨error, inner, hbusy, hafter, hrefused⟩
    · rw [hafter]
      exact hchosen.accepted hpending inner requestId
    · rw [hafter]
      exact ⟨hchosen.serials, hchosen.prompt⟩
    · rw [hafter]
      refine hchosen.refused hpending (fun active hmem hsame => hbehind ?_) inner _
      exact ⟨pending, hpending, ⟨error, hrefused, hbusy⟩, active, hmem, hsame⟩

/-- A refusal that overtakes is answered out of order. -/
theorem Orderly.overtaken {arbiter : ArbiterBus β M n} (h : arbiter.Orderly)
    (hbehind : arbiter.RefusedBehind .tick) : ¬ arbiter.tick.AnswersInOrder := by
  rw [tick_eq]
  have hchosen := h.polled.chosen
  obtain ⟨pending, hpending, ⟨error, hrefused, hbusy⟩, active, hmem, hsame⟩ := hbehind
  have hlast := hchosen.pending hpending
  intro hanswers
  obtain ⟨hnone, -⟩ | ⟨pending', hpending', hcases⟩ := submit_cases arbiter.polled.chosen
  · rw [hpending] at hnone
    cases hnone
  · obtain rfl : pending = pending' := Option.some.inj (hpending.symm.trans hpending')
    rcases hcases with ⟨requestId, inner, -, haccepted⟩ | ⟨cycles, inner, -, hwait⟩ |
      ⟨error', inner, -, hafter, -⟩
    · rw [hrefused] at haccepted
      cases haccepted
    · rw [hrefused] at hwait
      cases hwait
      cases hbusy
    · have hinOrder := hanswers.inOrder pending.masterIndex
      rw [hafter] at hinOrder
      dsimp only at hinOrder
      rw [(answered_deliver _ _ _ _ _).1, if_pos rfl] at hinOrder
      have hfirst := last_of_eq_range hinOrder
      rw [last_of_eq_range hlast, List.length_append] at hfirst
      have hnil : serialsOf pending.masterIndex arbiter.polled.chosen.inFlightRequests = [] :=
        List.eq_nil_of_length_eq_zero (by omega)
      have hin : active ∈ arbiter.polled.chosen.inFlightRequests.filter
          (·.masterIndex = pending.masterIndex) := List.mem_filter.2 ⟨hmem, by simpa using hsame⟩
      rw [List.map_eq_nil_iff.1 hnil] at hin
      cases hin

end Poll

/-! ## Runs -/

variable [BusMaster M] [FabricBus β]

omit [BusMaster M] [FabricBus β] in
theorem orderly_new (inner : β) (masters : Vector M n) : (ArbiterBus.new inner masters).Orderly := by
  refine ⟨fun index => ?_, fun _ _ h => by cases h⟩
  show ((masters.map fun master => ({ master } : MasterSlot M))[index.val]).answered ++ [] =
    List.range ((masters.map fun master => ({ master } : MasterSlot M))[index.val]).issued
  rw [Vector.getElem_map]
  rfl

/-- **One event** keeps the order unless it is a tick in which a refusal overtakes. -/
theorem Orderly.next {arbiter : ArbiterBus β M n} (h : arbiter.Orderly) (event : ArbiterEvent β M n)
    (hbehind : ¬ arbiter.RefusedBehind event) : (arbiter.next event).Orderly := by
  cases event with
  | tick => exact h.tick hbehind
  | cpu request =>
    obtain ⟨inner, hafter⟩ := arbiter.call_inner request
    show (request.call arbiter).2.Orderly
    rw [hafter]
    exact ⟨h.serials, h.prompt⟩
  | lower inner => exact ⟨h.serials, h.prompt⟩
  | master index master =>
    refine ⟨fun other => ?_, h.prompt⟩
    have hserials := h.serials other
    let slot := { arbiter.masters.get index with master }
    show ((arbiter.masters.set index slot index.isLt).get other).answered ++ _ =
      List.range ((arbiter.masters.set index slot index.isLt).get other).issued
    rw [slot_set]
    split
    · rename_i heq
      subst heq
      exact hserials
    · exact hserials

end ArbiterBus

/-- A word of memory that takes three cycles to answer. -/
def sluggishWord : MemoryMap (LatencyAdapter Ram) 1 where
  devices := #v[⟨⟨0, 4⟩, ⟨.new 0 4, 3⟩⟩]

end RvSim
