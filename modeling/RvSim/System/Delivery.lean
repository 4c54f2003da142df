import RvSim.Automata.Run
import RvSim.System.Ledger

/-!
# Every request is performed once and delivered once

Requests are addressed by id in lists that are reordered, advanced by ticks and by calls, and share the lists
with the compatibility slot. At any time each request that was accepted is in exactly one place: among the
transactions, among the bursts, or among the ones that have been taken.

## Main definitions

* `Ledger.Entry`, `Ledger.entries`: where the accepted requests are
* `Ledger.Sound`: the invariant of every run with fewer than 2^64 requests
* `Ledger.Framed`: a change of one request only

## Main results

* `Ledger.Sound.replace`: a change of one entry keeps the invariant
* `performed_and_delivered_once`: the invariant in every run, and the frame of every call
-/

namespace RvSim

open Automata

namespace Ledger

/-- A request that was accepted. -/
inductive Entry (n : Nat)
  | transaction (active : ActiveTransaction n)
  | burst (active : ActiveBurst n)
  | taken (taken : Taken n)

namespace Entry

variable {n : Nat}

def id : Entry n → U64
  | transaction active => active.id
  | burst active => active.id
  | taken (.transaction active _) => active.id
  | taken (.burst active _) => active.id

/-- The history that belongs to the request. A request that was taken had ended, and the answer was the one
of its history. -/
def History (history : List (RequestEvent n)) : Entry n → Prop
  | transaction active => TransactionHistory active history
  | burst active => BurstHistory active history
  | taken (.transaction active answer) => TransactionHistory active history ∧
    ((∃ response, active.phase = .ready response ∧ answer = .ok response) ∨
      ∃ error, active.phase = .failed error ∧ answer = .error error)
  | taken (.burst active answer) => BurstHistory active history ∧
    ((∃ completedBeats, active.phase = .ready completedBeats ∧
        answer = .ok (MemoryMap.ActiveBurst.response active completedBeats)) ∨
      ∃ error, active.phase = .failed error ∧ answer = .error error)

end Entry

variable {D : Type} {n : Nat}

/-- The requests that were accepted. -/
def entries (ledger : Ledger D n) : List (Entry n) :=
  ledger.map.activeTransactions.map .transaction ++ ledger.map.activeBursts.map .burst ++
    ledger.taken.map .taken

/-- The transaction of the slot. -/
def SlotFilled (map : MemoryMap D n) : Prop :=
  ∀ compat, map.compatTransaction = some compat →
    ∃ active ∈ map.activeTransactions, active.id = compat.id ∧ active.request = compat.request

/-- **Each accepted request is in one place, with the history that belongs to it there**, and the devices have
been called for nothing else. -/
structure Sound (ledger : Ledger D n) : Prop where
  few : ledger.accepted ≤ 2 ^ 64
  counter : ledger.map.nextTransactionId = BitVec.ofNat 64 ledger.accepted
  ids : (ledger.entries.map Entry.id).Perm ((List.range ledger.accepted).map (BitVec.ofNat 64))
  past : ∀ event ∈ ledger.log, event.1 ∈ (List.range ledger.accepted).map (BitVec.ofNat 64)
  histories : ∀ entry ∈ ledger.entries, entry.History (history ledger.log entry.id)
  records : ∀ index, (ledger.map.device index).record = calledOn index (ledger.log.map Prod.snd)
  slot : SlotFilled ledger.map

/-- Only one request has changed. -/
structure Framed (id : U64) (ledger ledger' : Ledger D n) : Prop where
  entries : ∀ entry : Entry n, entry.id ≠ id → (entry ∈ ledger'.entries ↔ entry ∈ ledger.entries)
  histories : ∀ other, other ≠ id → history ledger'.log other = history ledger.log other

theorem Framed.refl (id : U64) (ledger : Ledger D n) : Framed id ledger ledger :=
  ⟨fun _ _ => Iff.rfl, fun _ _ => rfl⟩

theorem Framed.trans {id : U64} {ledger ledger' ledger'' : Ledger D n} (h : Framed id ledger ledger')
    (h' : Framed id ledger' ledger'') : Framed id ledger ledger'' :=
  ⟨fun entry hne => (h'.entries entry hne).trans (h.entries entry hne),
    fun other hne => (h'.histories other hne).trans (h.histories other hne)⟩

/-! ## Histories -/

section Histories

variable {n : Nat} (log : List (U64 × RequestEvent n)) (id : U64) (events : List (RequestEvent n))

theorem history_append (more : List (U64 × RequestEvent n)) :
    history (log ++ more) id = history log id ++ history more id := List.filterMap_append

theorem history_same : history (events.map fun event => (id, event)) id = events := by
  induction events with
  | nil => rfl
  | cons event events ih =>
    unfold history at ih ⊢
    rw [List.map_cons, List.filterMap_cons, if_pos rfl, ih]

theorem history_other {other : U64} (hne : other ≠ id) :
    history (events.map fun event => (id, event)) other = [] := by
  induction events with
  | nil => rfl
  | cons event events ih =>
    unfold history at ih ⊢
    rw [List.map_cons, List.filterMap_cons, if_neg (Ne.symm hne), ih]

theorem history_future {id : U64} {log : List (U64 × RequestEvent n)}
    (h : ∀ event ∈ log, event.1 ≠ id) : history log id = [] := by
  unfold history
  rw [List.filterMap_eq_nil_iff]
  intro event hevent
  exact if_neg (h event hevent)

end Histories

/-- The ids of requests are different. -/
theorem nodup_ids {count : Nat} (hfew : count ≤ 2 ^ 64) :
    ((List.range count).map (BitVec.ofNat 64)).Nodup := by
  refine List.Nodup.map_on (fun i hi j hj heq => ?_) List.nodup_range
  have hi := List.mem_range.1 hi
  have hj := List.mem_range.1 hj
  have hval := congrArg BitVec.toNat heq
  rwa [BitVec.toNat_ofNat, BitVec.toNat_ofNat, Nat.mod_eq_of_lt (by omega), Nat.mod_eq_of_lt (by omega)]
    at hval

/-- A new request has an id of its own. -/
theorem not_mem_ids {count : Nat} (hfew : count < 2 ^ 64) :
    BitVec.ofNat 64 count ∉ (List.range count).map (BitVec.ofNat 64) := by
  rintro hmem
  obtain ⟨i, hi, heq⟩ := List.mem_map.1 hmem
  have hi := List.mem_range.1 hi
  have hval := congrArg BitVec.toNat heq
  rw [BitVec.toNat_ofNat, BitVec.toNat_ofNat, Nat.mod_eq_of_lt (by omega), Nat.mod_eq_of_lt (by omega)]
    at hval
  omega

/-- A change of one entry, with what happens to it. -/
structure Replaced (ledger ledger' : Ledger D n) (entry entry' : Entry n) (rest : List (Entry n))
    (events : List (RequestEvent n)) : Prop where
  before : ledger.entries.Perm (entry :: rest)
  after : ledger'.entries.Perm (entry' :: rest)
  id : entry'.id = entry.id
  log : ledger'.log = ledger.log ++ events.map fun event => (entry.id, event)
  accepted : ledger'.accepted = ledger.accepted
  counter : ledger'.map.nextTransactionId = ledger.map.nextTransactionId
  records : ∀ index, (ledger'.map.device index).record =
    (ledger.map.device index).record ++ calledOn index events

section Replaced

variable {ledger ledger' : Ledger D n} {entry entry' : Entry n} {rest : List (Entry n)}
  {events : List (RequestEvent n)}

theorem Replaced.framed (h : Replaced ledger ledger' entry entry' rest events) :
    Framed entry.id ledger ledger' := by
  refine ⟨fun other hne => ?_, fun other hne => ?_⟩
  · rw [h.before.mem_iff, h.after.mem_iff, List.mem_cons, List.mem_cons]
    refine or_congr (iff_of_false ?_ ?_) Iff.rfl
    · rintro rfl
      exact hne h.id
    · rintro rfl
      exact hne rfl
  · rw [h.log, history_append, history_other _ _ hne, List.append_nil]

/-- **A change of one entry** keeps the invariant. -/
theorem Sound.replace (hsound : ledger.Sound) (h : Replaced ledger ledger' entry entry' rest events)
    (hhistory : ∀ history, entry.History history → entry'.History (history ++ events))
    (hslot : SlotFilled ledger'.map) : ledger'.Sound := by
  have hids : (ledger'.entries.map Entry.id).Perm (ledger.entries.map Entry.id) := by
    refine (h.after.map _).trans ((List.Perm.trans ?_ (h.before.map _).symm))
    rw [List.map_cons, List.map_cons, h.id]
  have hnodup : (entry.id :: rest.map Entry.id).Nodup := by
    have hold := (hsound.ids.nodup_iff).2 (nodup_ids hsound.few)
    rw [(h.before.map _).nodup_iff] at hold
    exact hold
  have hmem : entry ∈ ledger.entries := h.before.mem_iff.2 List.mem_cons_self
  refine ⟨?_, ?_, ?_, fun event hevent => ?_, fun other hother => ?_, fun index => ?_, hslot⟩
  · rw [h.accepted]
    exact hsound.few
  · rw [h.counter, h.accepted]
    exact hsound.counter
  · rw [h.accepted]
    exact hids.trans hsound.ids
  · rw [h.log] at hevent
    rw [h.accepted]
    rcases List.mem_append.1 hevent with hold | hnew
    · exact hsound.past event hold
    · obtain ⟨what, -, rfl⟩ := List.mem_map.1 hnew
      exact hsound.ids.mem_iff.1 (List.mem_map_of_mem hmem)
  · rw [h.log, history_append]
    rcases List.mem_cons.1 (h.after.mem_iff.1 hother) with rfl | hrest
    · rw [h.id, history_same]
      exact hhistory _ (hsound.histories entry hmem)
    · have hne : other.id ≠ entry.id := by
        intro heq
        have hin := List.mem_map_of_mem (f := Entry.id) hrest
        rw [heq] at hin
        exact (List.nodup_cons.1 hnodup).1 hin
      rw [history_other _ _ hne, List.append_nil]
      exact hsound.histories other (h.before.mem_iff.2 (List.mem_cons_of_mem _ hrest))
  · rw [h.records, h.log, List.map_append, calledOn_append, hsound.records, List.map_map]
    exact congrArg _ (congrArg _ (List.map_id _).symm)

end Replaced

/-! ## The entries of a list -/

section Lists

variable {α : Type} {l : List α} {index : Nat} {x : α}

theorem perm_of_getElem? (h : l[index]? = some x) : l.Perm (x :: l.eraseIdx index) := by
  obtain ⟨hlt, rfl⟩ := List.getElem?_eq_some_iff.1 h
  exact (List.getElem_cons_eraseIdx_perm hlt).symm

theorem set_perm (h : l[index]? = some x) (y : α) : (l.set index y).Perm (y :: l.eraseIdx index) :=
  List.set_perm_cons_eraseIdx (List.getElem?_eq_some_iff.1 h).1 y

/-- `swap_remove` removes the element at the index. -/
theorem swapRemove_perm (h : l[index]? = some x) : l.Perm (x :: swapRemove l index) := by
  rcases List.eq_nil_or_concat l with rfl | ⟨front, last, rfl⟩
  · cases h
  have hswap : swapRemove (front.concat last) index = ((front.concat last).set index last).dropLast := by
    unfold swapRemove
    rw [List.concat_eq_append, List.getLast?_append_cons]
    rfl
  rw [hswap, List.concat_eq_append]
  rw [List.concat_eq_append] at h
  rcases Nat.lt_or_ge index front.length with hlt | hge
  · rw [List.getElem?_append_left hlt] at h
    rw [List.set_append_left _ _ hlt, List.dropLast_concat]
    refine List.Perm.trans (List.perm_append_comm.trans (List.Perm.cons last (perm_of_getElem? h))) ?_
    exact (List.Perm.swap _ _ _).trans (List.Perm.cons x (set_perm h last).symm)
  · rw [List.getElem?_append_right hge] at h
    have hone := (List.getElem?_eq_some_iff.1 h).1
    rw [List.length_singleton] at hone
    obtain rfl : index = front.length := by omega
    rw [Nat.sub_self] at h
    cases h
    rw [List.set_append_right _ _ hge, Nat.sub_self, List.set_cons_zero, List.dropLast_concat]
    exact List.perm_append_comm

/-- What is found has the property. -/
theorem of_findIdx? {p : α → Bool} (hindex : l.findIdx? p = some index) (hget : l[index]? = some x) :
    p x = true := by
  obtain ⟨hlt, hp, -⟩ := List.findIdx?_eq_some_iff_getElem.1 hindex
  obtain ⟨_, rfl⟩ := List.getElem?_eq_some_iff.1 hget
  exact hp

end Lists

/-- A transaction that is looked up. -/
theorem transaction_eq_some {map : MemoryMap D n} {id : U64} {active : ActiveTransaction n}
    (h : map.transaction id = some active) :
    ∃ index, map.transactionIndex id = some index ∧ map.activeTransactions[index]? = some active ∧
      active.id = id := by
  unfold MemoryMap.transaction at h
  rcases hindex : map.transactionIndex id with _ | index
  · rw [hindex] at h
    cases h
  · rw [hindex] at h
    have hget : map.activeTransactions[index]? = some active := h
    have hid := of_findIdx? hindex hget
    exact ⟨index, rfl, hget, eq_of_beq hid⟩

/-- A burst that is looked up. -/
theorem burst_eq_some {map : MemoryMap D n} {id : U64} {active : ActiveBurst n}
    (h : map.burst id = some active) :
    ∃ index, map.burstIndex id = some index ∧ map.activeBursts[index]? = some active ∧ active.id = id := by
  unfold MemoryMap.burst at h
  rcases hindex : map.burstIndex id with _ | index
  · rw [hindex] at h
    cases h
  · rw [hindex] at h
    have hget : map.activeBursts[index]? = some active := h
    have hid := of_findIdx? hindex hget
    exact ⟨index, rfl, hget, eq_of_beq hid⟩

/-! ## Steps of requests -/

variable [Addressable D]

section Advance

variable {ledger : Ledger D n}

theorem Sound.advanceTransactionAt (hsound : ledger.Sound) (index : Nat) :
    (ledger.advanceTransactionAt index).Sound ∧
      ∀ active, ledger.map.activeTransactions[index]? = some active →
        Framed active.id ledger (ledger.advanceTransactionAt index) := by
  unfold Ledger.advanceTransactionAt
  split
  · rename_i hnone
    refine ⟨hsound, fun active hactive => ?_⟩
    rw [hnone] at hactive
    cases hactive
  rename_i active hactive
  have hlist := ledger.map.advanceTransactionAt_activeTransactions index
  rw [hactive] at hlist
  have hsame : (ledger.map.advanceTransactionAt index).activeBursts = ledger.map.activeBursts := by
    unfold MemoryMap.advanceTransactionAt
    rw [hactive]
    exact (ledger.map.sameTraffic_stepTransaction active).activeBursts
  have hmem : Entry.transaction active ∈ ledger.entries := List.mem_append_left _
    (List.mem_append_left _ (List.mem_map_of_mem (List.mem_of_getElem? hactive)))
  obtain ⟨⟨calls, hrecords⟩, -⟩ := TransactionHistory.step (hsound.histories _ hmem) ledger.map
  have hdevices : (ledger.map.advanceTransactionAt index).devices =
      (ledger.map.stepTransaction active).2.devices := by
    unfold MemoryMap.advanceTransactionAt
    rw [hactive]
  -- the transaction keeps its place, with the events of the step
  have hreplaced : Replaced ledger
      { ledger with
        map := ledger.map.advanceTransactionAt index
        log := ledger.log ++ (ledger.map.transactionEvents active).map fun event => (active.id, event) }
      (.transaction active) (.transaction { active with phase := (ledger.map.stepTransaction active).1 })
      ((ledger.map.activeTransactions.eraseIdx index).map .transaction ++
        ledger.map.activeBursts.map .burst ++ ledger.taken.map .taken)
      (ledger.map.transactionEvents active) := by
    refine ⟨?_, ?_, rfl, rfl, rfl, (ledger.map.advanceTransactionAt_compat index).2, fun other => ?_⟩
    · exact (((perm_of_getElem? hactive).map _).append_right _).append_right _
    · unfold entries
      dsimp only
      rw [hlist, hsame]
      exact (((set_perm hactive _).map _).append_right _).append_right _
    · show ((ledger.map.advanceTransactionAt index).device other).record = _
      unfold MemoryMap.device
      rw [hdevices]
      exact hrecords.transactionEvents other
  refine ⟨hsound.replace hreplaced (fun history h => (h.step ledger.map).2) ?_, fun other hother => ?_⟩
  · intro compat hcompat
    rw [show (ledger.map.advanceTransactionAt index).compatTransaction = ledger.map.compatTransaction from
      (ledger.map.advanceTransactionAt_compat index).1] at hcompat
    -- the slot still has its transaction, which may be the one that was stepped
    obtain ⟨other, hmem, hid, hrequest⟩ := hsound.slot compat hcompat
    obtain ⟨i, hi⟩ := List.mem_iff_getElem?.1 hmem
    have hafter := ledger.map.advanceTransactionAt_getElem? index i
    rw [hi] at hafter
    split at hafter
    · exact ⟨_, List.mem_iff_getElem?.2 ⟨i, hafter⟩, hid, hrequest⟩
    · exact ⟨_, List.mem_iff_getElem?.2 ⟨i, hafter⟩, hid, hrequest⟩
  · cases hactive.symm.trans hother
    exact hreplaced.framed

theorem Sound.advanceBurstAt (hsound : ledger.Sound) (index : Nat) :
    (ledger.advanceBurstAt index).Sound ∧
      ∀ active, ledger.map.activeBursts[index]? = some active →
        Framed active.id ledger (ledger.advanceBurstAt index) := by
  unfold Ledger.advanceBurstAt
  split
  · rename_i hnone
    refine ⟨hsound, fun active hactive => ?_⟩
    rw [hnone] at hactive
    cases hactive
  rename_i active hactive
  have htraffic := ledger.map.sameTraffic_stepBurst active
  have hmap : ledger.map.advanceBurstAt index =
      { (ledger.map.stepBurst active).2 with
        activeBursts := (ledger.map.stepBurst active).2.activeBursts.set index
          (MemoryMap.ActiveBurst.advanced active (ledger.map.stepBurst active).1) } := by
    unfold MemoryMap.advanceBurstAt
    rw [hactive]
  have hkept (advance : BeatAdvance) : (MemoryMap.ActiveBurst.advanced active advance).id = active.id := by
    cases advance <;> rfl
  have hmem : Entry.burst active ∈ ledger.entries := List.mem_append_left _
    (List.mem_append_right _ (List.mem_map_of_mem (List.mem_of_getElem? hactive)))
  obtain ⟨⟨calls, hrecords⟩, -⟩ := BurstHistory.step (hsound.histories _ hmem) ledger.map
  -- the burst keeps its place, with the events of the step
  have hreplaced : Replaced ledger
      { ledger with
        map := ledger.map.advanceBurstAt index
        log := ledger.log ++ (ledger.map.burstEvents active).map fun event => (active.id, event) }
      (.burst active) (.burst (MemoryMap.ActiveBurst.advanced active (ledger.map.stepBurst active).1))
      (ledger.map.activeTransactions.map .transaction ++
        (ledger.map.activeBursts.eraseIdx index).map .burst ++ ledger.taken.map .taken)
      (ledger.map.burstEvents active) := by
    refine ⟨?_, ?_, hkept _, rfl, rfl, ?_, fun other => ?_⟩
    · exact ((((perm_of_getElem? hactive).map _).append_left _).trans List.perm_middle).append_right _
    · unfold entries
      dsimp only
      rw [hmap]
      dsimp only
      rw [htraffic.activeTransactions, htraffic.activeBursts]
      exact ((((set_perm hactive _).map _).append_left _).trans List.perm_middle).append_right _
    · dsimp only
      rw [hmap]
      exact htraffic.nextTransactionId
    · dsimp only
      rw [hmap]
      exact hrecords.burstEvents other
  refine ⟨hsound.replace hreplaced (fun history h => (h.step ledger.map).2) ?_, fun other hother => ?_⟩
  · obtain ⟨htransactions, hcompat⟩ := ledger.map.advanceBurstAt_sameTransactions index
    intro compat hslot
    dsimp only at hslot ⊢
    rw [hcompat] at hslot
    rw [htransactions]
    exact hsound.slot compat hslot
  · cases hactive.symm.trans hother
    exact hreplaced.framed

theorem Sound.advanceTransaction (hsound : ledger.Sound) (id : U64) :
    (ledger.advanceTransaction id).Sound ∧ Framed id ledger (ledger.advanceTransaction id) := by
  unfold Ledger.advanceTransaction
  split
  · exact ⟨hsound, .refl id ledger⟩
  · rename_i index hindex
    obtain ⟨hnext, hframed⟩ := hsound.advanceTransactionAt index
    obtain ⟨hlt, hbeq, -⟩ := List.findIdx?_eq_some_iff_getElem.1 hindex
    refine ⟨hnext, ?_⟩
    rw [← eq_of_beq hbeq]
    exact hframed _ (List.getElem?_eq_getElem hlt)

theorem Sound.advanceBurst (hsound : ledger.Sound) (id : U64) :
    (ledger.advanceBurst id).Sound ∧ Framed id ledger (ledger.advanceBurst id) := by
  unfold Ledger.advanceBurst
  split
  · exact ⟨hsound, .refl id ledger⟩
  · rename_i index hindex
    obtain ⟨hnext, hframed⟩ := hsound.advanceBurstAt index
    obtain ⟨hlt, hbeq, -⟩ := List.findIdx?_eq_some_iff_getElem.1 hindex
    refine ⟨hnext, ?_⟩
    rw [← eq_of_beq hbeq]
    exact hframed _ (List.getElem?_eq_getElem hlt)

theorem Sound.tick (hsound : ledger.Sound) : ledger.tick.Sound := by
  have htransactions (indices : List Nat) : ∀ ledger : Ledger D n, ledger.Sound →
      (indices.foldl Ledger.advanceTransactionAt ledger).Sound := by
    induction indices with
    | nil => exact fun _ h => h
    | cons index indices ih => exact fun ledger h => ih _ (h.advanceTransactionAt index).1
  have hbursts (indices : List Nat) : ∀ ledger : Ledger D n, ledger.Sound →
      (indices.foldl Ledger.advanceBurstAt ledger).Sound := by
    induction indices with
    | nil => exact fun _ h => h
    | cons index indices ih => exact fun ledger h => ih _ (h.advanceBurstAt index).1
  have hticked := hbursts (List.range
    ((List.range ledger.map.activeTransactions.length).foldl Ledger.advanceTransactionAt
      ledger).map.activeBursts.length) _
    (htransactions (List.range ledger.map.activeTransactions.length) ledger hsound)
  refine ⟨hticked.few, hticked.counter, hticked.ids, hticked.past, hticked.histories, fun index => ?_,
    hticked.slot⟩
  refine Eq.trans ?_ (hticked.records index)
  unfold MemoryMap.device Ledger.tick
  simp only [Fin.getElem_fin, Vector.getElem_map]
  rfl

end Advance

section Take

variable {ledger : Ledger D n}

omit [Addressable D] in
/-- A take delivers the answer of a request that has ended, or does nothing. -/
theorem takeTransactionResponse_cases (map : MemoryMap D n) (id : U64) :
    map.takeTransactionResponse id = (none, map) ∨ ∃ active index answer,
      map.transaction id = some active ∧ map.activeTransactions[index]? = some active ∧ active.id = id ∧
        map.takeTransactionResponse id = (some answer, map.removeTransaction index id) ∧
        ((∃ response, active.phase = .ready response ∧ answer = .ok response) ∨
          ∃ error, active.phase = .failed error ∧ answer = .error error) := by
  unfold MemoryMap.takeTransactionResponse MemoryMap.transactionPhase
  rcases htransaction : map.transaction id with _ | active
  · rcases map.transactionIndex id with _ | index <;> exact .inl rfl
  · obtain ⟨index, hindex, hget, hid⟩ := transaction_eq_some htransaction
    rw [hindex]
    rcases hphase : active.phase with _ | remaining | response | error
    · refine .inl ?_
      rw [show (some active).map (·.phase) = some active.phase from rfl, hphase]
    · refine .inl ?_
      rw [show (some active).map (·.phase) = some active.phase from rfl, hphase]
    · refine .inr ⟨active, index, .ok response, rfl, hget, hid, ?_, .inl ⟨response, hphase, rfl⟩⟩
      rw [show (some active).map (·.phase) = some active.phase from rfl, hphase]
    · refine .inr ⟨active, index, .error error, rfl, hget, hid, ?_, .inr ⟨error, hphase, rfl⟩⟩
      rw [show (some active).map (·.phase) = some active.phase from rfl, hphase]

omit [Addressable D] in
theorem Sound.takeTransactionResponse (hsound : ledger.Sound) (id : U64) :
    (ledger.takeTransactionResponse id).Sound ∧ Framed id ledger (ledger.takeTransactionResponse id) := by
  unfold Ledger.takeTransactionResponse
  rcases takeTransactionResponse_cases ledger.map id with hnone |
    ⟨active, index, answer, htransaction, hget, hid, htake, hanswer⟩
  · rw [hnone]
    rcases ledger.map.transaction id with _ | active <;> exact ⟨hsound, .refl id ledger⟩
  rw [htake, htransaction]
  dsimp only
  have hkept : (ledger.map.removeTransaction index id).activeTransactions =
        swapRemove ledger.map.activeTransactions index ∧
      (ledger.map.removeTransaction index id).activeBursts = ledger.map.activeBursts ∧
      (ledger.map.removeTransaction index id).nextTransactionId = ledger.map.nextTransactionId ∧
      (ledger.map.removeTransaction index id).devices = ledger.map.devices := by
    unfold MemoryMap.removeTransaction MemoryMap.clearCompatIfMatches
    split <;> exact ⟨rfl, rfl, rfl, rfl⟩
  -- the transaction moves to the requests that are taken
  have hreplaced : Replaced ledger
      { ledger with
        map := ledger.map.removeTransaction index id
        taken := ledger.taken ++ [.transaction active answer] }
      (.transaction active) (.taken (.transaction active answer))
      ((swapRemove ledger.map.activeTransactions index).map .transaction ++
        ledger.map.activeBursts.map .burst ++ ledger.taken.map .taken) [] := by
    refine ⟨?_, ?_, rfl, (List.append_nil _).symm, rfl, hkept.2.2.1, fun other => ?_⟩
    · exact (((swapRemove_perm hget).map _).append_right _).append_right _
    · unfold entries
      dsimp only
      rw [hkept.1, hkept.2.1, List.map_append, ← List.append_assoc]
      exact List.perm_append_comm
    · unfold MemoryMap.device
      rw [hkept.2.2.2]
      exact (List.append_nil _).symm
  refine ⟨hsound.replace hreplaced (fun history h => ?_) fun compat hcompat => ?_, ?_⟩
  · rw [List.append_nil]
    exact ⟨h, hanswer⟩
  · dsimp only at hcompat ⊢
    -- a slot that is still filled is that of another transaction, which is not removed
    have hslot : ledger.map.compatTransaction = some compat ∧ compat.id ≠ id := by
      unfold MemoryMap.removeTransaction MemoryMap.clearCompatIfMatches at hcompat
      split at hcompat
      · cases hcompat
      · rename_i hmatches
        dsimp only at hcompat hmatches
        refine ⟨hcompat, fun heq => hmatches ?_⟩
        rw [hcompat]
        exact beq_iff_eq.2 heq
    obtain ⟨other, hmem, hother, hrequest⟩ := hsound.slot compat hslot.1
    refine ⟨other, ?_, hother, hrequest⟩
    rw [hkept.1]
    rcases List.mem_cons.1 ((swapRemove_perm hget).mem_iff.1 hmem) with rfl | hrest
    · exact absurd (hother.symm.trans hid) hslot.2
    · exact hrest
  · have hframed := hreplaced.framed
    rwa [show (Entry.transaction active : Entry n).id = id from hid] at hframed

omit [Addressable D] in
theorem Sound.takeBurstResponse (hsound : ledger.Sound) (id : U64) :
    (ledger.takeBurstResponse id).Sound ∧ Framed id ledger (ledger.takeBurstResponse id) := by
  unfold Ledger.takeBurstResponse
  rcases hburst : ledger.map.burst id with _ | active
  · have hnone : ledger.map.takeBurstResponse id = (none, ledger.map) := by
      unfold MemoryMap.takeBurstResponse
      rw [hburst]
      rcases ledger.map.burstIndex id with _ | index <;> rfl
    rw [hnone]
    exact ⟨hsound, .refl id ledger⟩
  obtain ⟨index, hindex, hget, hid⟩ := burst_eq_some hburst
  -- the burst moves to the requests that are taken
  have hdelivered (answer : Except BusError BurstResponse)
      (hanswer : (∃ completedBeats, active.phase = .ready completedBeats ∧
          answer = .ok (MemoryMap.ActiveBurst.response active completedBeats)) ∨
        ∃ error, active.phase = .failed error ∧ answer = .error error) :
      Sound { ledger with
        map := { ledger.map with activeBursts := swapRemove ledger.map.activeBursts index }
        taken := ledger.taken ++ [.burst active answer] } ∧
      Framed id ledger { ledger with
        map := { ledger.map with activeBursts := swapRemove ledger.map.activeBursts index }
        taken := ledger.taken ++ [.burst active answer] } := by
    have hreplaced : Replaced ledger
        { ledger with
          map := { ledger.map with activeBursts := swapRemove ledger.map.activeBursts index }
          taken := ledger.taken ++ [.burst active answer] }
        (.burst active) (.taken (.burst active answer))
        (ledger.map.activeTransactions.map .transaction ++
          (swapRemove ledger.map.activeBursts index).map .burst ++ ledger.taken.map .taken) [] := by
      refine ⟨?_, ?_, rfl, (List.append_nil _).symm, rfl, rfl, fun _ => (List.append_nil _).symm⟩
      · exact ((((swapRemove_perm hget).map _).append_left _).trans List.perm_middle).append_right _
      · unfold entries
        dsimp only
        rw [List.map_append, ← List.append_assoc]
        exact List.perm_append_comm
    refine ⟨hsound.replace hreplaced (fun history h => ?_) hsound.slot, ?_⟩
    · rw [List.append_nil]
      exact ⟨h, hanswer⟩
    · have hframed := hreplaced.framed
      rwa [show (Entry.burst active : Entry n).id = id from hid] at hframed
  unfold MemoryMap.takeBurstResponse
  rw [hindex, hburst]
  dsimp only
  rcases hphase : active.phase with _ | _ | completedBeats | error
  · exact ⟨hsound, .refl id ledger⟩
  · exact ⟨hsound, .refl id ledger⟩
  · exact hdelivered _ (.inl ⟨completedBeats, hphase, rfl⟩)
  · exact hdelivered _ (.inr ⟨error, hphase, rfl⟩)

end Take

/-! ## Requests are accepted -/

section Accept

variable {ledger : Ledger D n}

/-- A request that is accepted. -/
structure Accepts (ledger ledger' : Ledger D n) (entry : Entry n) : Prop where
  entries : ledger'.entries.Perm (entry :: ledger.entries)
  id : entry.id = ledger.map.nextTransactionId
  log : ledger'.log = ledger.log
  accepted : ledger'.accepted = ledger.accepted + 1
  counter : ledger'.map.nextTransactionId = ledger.map.nextTransactionId + 1
  history : entry.History []
  devices : ledger'.map.devices = ledger.map.devices

omit [Addressable D] in
theorem Accepts.framed {ledger' : Ledger D n} {entry : Entry n} (h : Accepts ledger ledger' entry) :
    Framed ledger.map.nextTransactionId ledger ledger' := by
  refine ⟨fun other hne => ?_, fun other hne => by rw [h.log]⟩
  rw [h.entries.mem_iff, List.mem_cons]
  refine or_iff_right ?_
  rintro rfl
  exact hne h.id

omit [Addressable D] in
/-- **A request that is accepted** keeps the invariant. -/
theorem Sound.accept (hsound : ledger.Sound) {ledger' : Ledger D n} {entry : Entry n}
    (h : Accepts ledger ledger' entry) (hfew : ledger.accepted < 2 ^ 64) (hslot : SlotFilled ledger'.map) :
    ledger'.Sound := by
  have hnew : entry.id = BitVec.ofNat 64 ledger.accepted := h.id.trans hsound.counter
  have hids : (List.range ledger'.accepted).map (BitVec.ofNat 64) =
      (List.range ledger.accepted).map (BitVec.ofNat 64) ++ [entry.id] := by
    rw [h.accepted, List.range_succ, List.map_append, hnew]
    rfl
  have hfuture : history ledger.log entry.id = [] := by
    refine history_future fun event hevent heq => not_mem_ids hfew ?_
    rw [← hnew, ← heq]
    exact hsound.past event hevent
  refine ⟨?_, ?_, ?_, fun event hevent => ?_, fun other hother => ?_, fun index => ?_, hslot⟩
  · rw [h.accepted]
    exact hfew
  · rw [h.counter, hsound.counter, h.accepted, BitVec.ofNat_add]
    rfl
  · rw [hids]
    refine (h.entries.map _).trans ?_
    rw [List.map_cons]
    exact (List.Perm.cons _ hsound.ids).trans (List.perm_append_singleton _ _).symm
  · rw [h.log] at hevent
    rw [hids]
    exact List.mem_append_left _ (hsound.past event hevent)
  · rw [h.log]
    rcases List.mem_cons.1 (h.entries.mem_iff.1 hother) with rfl | hold
    · rw [hfuture]
      exact h.history
    · exact hsound.histories other hold
  · rw [h.log, ← hsound.records index]
    unfold MemoryMap.device
    rw [h.devices]

omit [Addressable D] in
/-- The request is refused, or it is accepted. -/
theorem submitTransaction_cases (ledger : Ledger D n) (request : TransactionRequest) :
    (ledger.submitTransaction request = ledger ∧
      ∃ error, ledger.map.submitTransaction request = (.error error, ledger.map)) ∨
      ∃ deviceIndex, ledger.map.findDeviceIndex request.addr = some deviceIndex ∧
        ledger.map.submitTransaction request = (.ok ledger.map.nextTransactionId,
          ledger.map.acceptTransaction deviceIndex request) ∧
        ledger.submitTransaction request = { ledger with
          map := ledger.map.acceptTransaction deviceIndex request, accepted := ledger.accepted + 1 } ∧
        Accepts ledger (ledger.submitTransaction request) (.transaction
          { id := ledger.map.nextTransactionId, deviceIndex, request, phase := .accepted }) := by
  unfold submitTransaction MemoryMap.submitTransaction
  rcases hfind : ledger.map.findDeviceIndex request.addr with _ | deviceIndex
  · exact .inl ⟨rfl, _, rfl⟩
  · refine .inr ⟨deviceIndex, rfl, rfl, rfl, ?_, rfl, rfl, rfl, rfl, rfl, rfl⟩
    unfold entries MemoryMap.acceptTransaction
    dsimp only
    rw [List.map_append]
    exact ((List.perm_append_singleton _ _).append_right _).append_right _

omit [Addressable D] in
theorem submitBurst_cases (ledger : Ledger D n) (request : BurstRequest) :
    ledger.submitBurst request = ledger ∨ ∃ entry,
      Accepts ledger (ledger.submitBurst request) entry ∧
        (ledger.submitBurst request).map.activeTransactions = ledger.map.activeTransactions ∧
        (ledger.submitBurst request).map.compatTransaction = ledger.map.compatTransaction := by
  unfold submitBurst MemoryMap.submitBurst
  by_cases hzero : request.beats = 0
  · rw [if_pos hzero]
    exact .inl rfl
  rw [if_neg hzero]
  rcases ledger.map.findDeviceIndex request.baseAddr with _ | deviceIndex
  · exact .inl rfl
  dsimp only
  rcases ledger.map.crossing request deviceIndex with _ | addr
  · refine .inr ⟨.burst
      { id := ledger.map.nextTransactionId, deviceIndex, request, beatIndex := 0
        readWords := List.replicate request.beats 0, phase := .accepted 0 request.beats },
      ⟨?_, rfl, rfl, rfl, rfl, ?_, rfl⟩, rfl, rfl⟩
    · unfold entries
      dsimp only
      rw [List.map_append]
      exact (((List.perm_append_singleton _ _).append_left _).trans List.perm_middle).append_right _
    · exact ⟨[], [], rfl, (fun i beat hi => by simp at hi), rfl,
        ⟨rfl, rfl, Nat.pos_of_ne_zero hzero, rfl⟩, rfl⟩
  · exact .inl rfl

omit [Addressable D] in
theorem Sound.submitTransaction (hsound : ledger.Sound) (request : TransactionRequest)
    (hfew : (ledger.submitTransaction request).accepted ≤ 2 ^ 64) :
    (ledger.submitTransaction request).Sound := by
  rcases ledger.submitTransaction_cases request with ⟨hsame, -⟩ | ⟨deviceIndex, -, -, hledger, haccepts⟩
  · rwa [hsame]
  · refine hsound.accept haccepts (by rw [haccepts.accepted] at hfew; exact hfew) ?_
    rw [hledger]
    intro compat hcompat
    obtain ⟨active, hmem, hid⟩ := hsound.slot compat hcompat
    exact ⟨active, List.mem_append_left _ hmem, hid⟩

omit [Addressable D] in
theorem Sound.submitBurst (hsound : ledger.Sound) (request : BurstRequest)
    (hfew : (ledger.submitBurst request).accepted ≤ 2 ^ 64) : (ledger.submitBurst request).Sound := by
  rcases ledger.submitBurst_cases request with hsame | ⟨entry, haccepts, htransactions, hcompat⟩
  · rwa [hsame]
  · refine hsound.accept haccepts (by rw [haccepts.accepted] at hfew; exact hfew) fun compat hslot => ?_
    rw [hcompat] at hslot
    rw [htransactions]
    exact hsound.slot compat hslot

end Accept

/-! ## The compatibility path -/

section Compat

variable {ledger : Ledger D n}

omit [Addressable D] in
theorem Sound.withSlot (hsound : ledger.Sound) {slot : Option CompatTransaction}
    (hslot : ∀ compat, slot = some compat →
      ∃ active ∈ ledger.map.activeTransactions, active.id = compat.id ∧ active.request = compat.request) :
    (ledger.withSlot slot).Sound :=
  ⟨hsound.few, hsound.counter, hsound.ids, hsound.past, hsound.histories, hsound.records, hslot⟩

omit [Addressable D] in
theorem framed_withSlot (id : U64) (slot : Option CompatTransaction) :
    Framed id ledger (ledger.withSlot slot) := ⟨fun _ _ => Iff.rfl, fun _ _ => rfl⟩

omit [Addressable D] in
theorem Sound.answerCompat (hsound : ledger.Sound) (compat : CompatTransaction) :
    (ledger.answerCompat compat).Sound ∧ Framed compat.id ledger (ledger.answerCompat compat) := by
  obtain ⟨htaken, hframed⟩ := hsound.takeTransactionResponse compat.id
  unfold Ledger.answerCompat
  split
  · exact ⟨htaken.withSlot nofun, hframed.trans (framed_withSlot _ _)⟩
  · exact ⟨htaken, hframed⟩

theorem Sound.awaitCompat (hsound : ledger.Sound) (compat : CompatTransaction) :
    (ledger.awaitCompat compat).Sound ∧ Framed compat.id ledger (ledger.awaitCompat compat) := by
  unfold Ledger.awaitCompat
  split
  · obtain ⟨hadvanced, hframed⟩ := hsound.advanceTransaction compat.id
    obtain ⟨hanswered, hframed'⟩ := hadvanced.answerCompat compat
    exact ⟨hanswered, hframed.trans hframed'⟩
  · exact hsound.answerCompat compat

omit [Addressable D] in
/-- The transaction of the slot exists. -/
theorem Sound.transactionPhase_ne_none (hsound : ledger.Sound) {compat : CompatTransaction}
    (hcompat : ledger.map.compatTransaction = some compat) :
    ledger.map.transactionPhase compat.id ≠ none := by
  obtain ⟨active, hmem, hid, -⟩ := hsound.slot compat hcompat
  have hin : compat.id ∈ ledger.map.ids := hid ▸ List.mem_map_of_mem hmem
  obtain ⟨found, hfound⟩ := MemoryMap.exists_transaction hin
  unfold MemoryMap.transactionPhase
  rw [hfound]
  simp

end Compat

/-! ## Calls of clients -/

theorem accepted_advanceTransaction (ledger : Ledger D n) (id : U64) :
    (ledger.advanceTransaction id).accepted = ledger.accepted := by
  unfold Ledger.advanceTransaction Ledger.advanceTransactionAt
  split
  · rfl
  · split <;> rfl

omit [Addressable D] in
theorem accepted_takeTransactionResponse (ledger : Ledger D n) (id : U64) :
    (ledger.takeTransactionResponse id).accepted = ledger.accepted := by
  unfold Ledger.takeTransactionResponse
  rcases ledger.map.transaction id with _ | active <;>
    rcases ledger.map.takeTransactionResponse id with ⟨_ | answer, map⟩ <;> rfl

theorem accepted_awaitCompat (ledger : Ledger D n) (compat : CompatTransaction) :
    (ledger.awaitCompat compat).accepted = ledger.accepted := by
  have hanswer (ledger : Ledger D n) : (ledger.answerCompat compat).accepted = ledger.accepted := by
    unfold Ledger.answerCompat
    split
    · exact ledger.accepted_takeTransactionResponse compat.id
    · exact ledger.accepted_takeTransactionResponse compat.id
  unfold Ledger.awaitCompat
  split
  · rw [hanswer, accepted_advanceTransaction]
  · exact hanswer ledger

/-- The request that a call takes further, advances or takes. -/
def target (ledger : Ledger D n) : MapOp → Option U64
  | .request request => ledger.map.answerId request.transaction
  | .advanceTransaction id => some id
  | .takeTransactionResponse id => some id
  | .advanceBurst id => some id
  | .takeBurstResponse id => some id
  | _ => none

section Apply

variable {ledger : Ledger D n}

theorem Sound.performRequest (hsound : ledger.Sound) (request : TransactionRequest)
    (hfew : (ledger.performRequest request).accepted ≤ 2 ^ 64) :
    (ledger.performRequest request).Sound ∧
      ∀ id, ledger.map.answerId request = some id → Framed id ledger (ledger.performRequest request) := by
  unfold Ledger.performRequest MemoryMap.answerId at *
  rcases hslot : ledger.map.compatTransaction with _ | compat
  · rw [hslot] at hfew
    dsimp only at hfew ⊢
    rcases ledger.submitTransaction_cases request with ⟨hsame, error, hsubmit⟩ |
      ⟨deviceIndex, hfind, hsubmit, hledger, haccepts⟩
    · rw [hsubmit]
      dsimp only
      rw [hsame]
      exact ⟨hsound, fun id _ => .refl id ledger⟩
    -- the transaction is accepted, and the slot holds it while it is awaited
    · rw [hsubmit] at hfew ⊢
      dsimp only at hfew ⊢
      rw [accepted_awaitCompat] at hfew
      have hsubmitted := hsound.submitTransaction request hfew
      have hslot : ∀ compat : CompatTransaction,
          some { id := ledger.map.nextTransactionId, request } = some compat →
          ∃ active ∈ (ledger.submitTransaction request).map.activeTransactions,
            active.id = compat.id ∧ active.request = compat.request := by
        rintro compat ⟨⟩
        rw [hledger]
        exact ⟨_, List.mem_append_right _ (List.mem_singleton_self _), rfl, rfl⟩
      have hinstalled := hsubmitted.withSlot hslot
      obtain ⟨hawaited, hframed⟩ := hinstalled.awaitCompat { id := ledger.map.nextTransactionId, request }
      refine ⟨hawaited, fun id hid => ?_⟩
      rw [hfind] at hid
      cases hid
      exact (haccepts.framed.trans (framed_withSlot _ _)).trans hframed
  · dsimp only
    split
    · exact ⟨hsound, fun id _ => .refl id ledger⟩
    · rw [if_neg (hsound.transactionPhase_ne_none hslot)]
      obtain ⟨hawaited, hframed⟩ := hsound.awaitCompat compat
      refine ⟨hawaited, ?_⟩
      rintro id ⟨⟩
      exact hframed

/-- **A call of a client** keeps the invariant, and changes no other request than the one it is for. -/
theorem Sound.apply (hsound : ledger.Sound) (op : MapOp) (hfew : (ledger.apply op).accepted ≤ 2 ^ 64) :
    (ledger.apply op).Sound ∧ ∀ id, ledger.target op = some id → Framed id ledger (ledger.apply op) := by
  cases op with
  | request request =>
    unfold Ledger.apply at hfew ⊢
    dsimp only at hfew ⊢
    split
    · rename_i haligned
      rw [if_pos haligned] at hfew
      exact hsound.performRequest _ hfew
    · exact ⟨hsound, fun id _ => .refl id ledger⟩
  | submitTransaction request => exact ⟨hsound.submitTransaction request hfew, nofun⟩
  | advanceTransaction id =>
    obtain ⟨hnext, hframed⟩ := hsound.advanceTransaction id
    exact ⟨hnext, by rintro _ ⟨⟩; exact hframed⟩
  | takeTransactionResponse id =>
    obtain ⟨hnext, hframed⟩ := hsound.takeTransactionResponse id
    exact ⟨hnext, by rintro _ ⟨⟩; exact hframed⟩
  | submitBurst request => exact ⟨hsound.submitBurst request hfew, nofun⟩
  | advanceBurst id =>
    obtain ⟨hnext, hframed⟩ := hsound.advanceBurst id
    exact ⟨hnext, by rintro _ ⟨⟩; exact hframed⟩
  | takeBurstResponse id =>
    obtain ⟨hnext, hframed⟩ := hsound.takeBurstResponse id
    exact ⟨hnext, by rintro _ ⟨⟩; exact hframed⟩
  | tick => exact ⟨hsound.tick, nofun⟩

end Apply

/-! ## Runs -/

omit [Addressable D] in
theorem accepted_le_submitTransaction (ledger : Ledger D n) (request : TransactionRequest) :
    ledger.accepted ≤ (ledger.submitTransaction request).accepted := by
  rcases ledger.submitTransaction_cases request with ⟨hsame, -⟩ | ⟨deviceIndex, -, -, -, haccepts⟩
  · rw [hsame]
  · rw [haccepts.accepted]
    exact Nat.le_succ _

/-- No request is forgotten. -/
theorem accepted_le_apply (ledger : Ledger D n) (op : MapOp) :
    ledger.accepted ≤ (ledger.apply op).accepted := by
  cases op with
  | request request =>
    unfold Ledger.apply
    dsimp only
    split
    · unfold Ledger.performRequest
      split
      · split
        · exact Nat.le_refl _
        · split
          · exact Nat.le_refl _
          · rw [accepted_awaitCompat]
      · split
        · rw [accepted_awaitCompat]
          exact ledger.accepted_le_submitTransaction _
        · exact ledger.accepted_le_submitTransaction _
    · exact Nat.le_refl _
  | submitTransaction request => exact ledger.accepted_le_submitTransaction request
  | advanceTransaction id => exact (ledger.accepted_advanceTransaction id).ge
  | takeTransactionResponse id => exact (ledger.accepted_takeTransactionResponse id).ge
  | submitBurst request =>
    show ledger.accepted ≤ (ledger.submitBurst request).accepted
    rcases ledger.submitBurst_cases request with hsame | ⟨entry, haccepts, -⟩
    · rw [hsame]
    · rw [haccepts.accepted]
      exact Nat.le_succ _
  | advanceBurst id =>
    show ledger.accepted ≤ (ledger.advanceBurst id).accepted
    unfold Ledger.advanceBurst Ledger.advanceBurstAt
    repeat' split
    all_goals exact Nat.le_refl _
  | takeBurstResponse id =>
    show ledger.accepted ≤ (ledger.takeBurstResponse id).accepted
    unfold Ledger.takeBurstResponse
    rcases ledger.map.burst id with _ | active <;>
      rcases ledger.map.takeBurstResponse id with ⟨_ | answer, map⟩ <;> exact Nat.le_refl _
  | tick =>
    have htransactions (indices : List Nat) : ∀ ledger : Ledger D n,
        (indices.foldl Ledger.advanceTransactionAt ledger).accepted = ledger.accepted := by
      induction indices with
      | nil => exact fun _ => rfl
      | cons index indices ih =>
        intro ledger
        rw [List.foldl_cons, ih]
        unfold Ledger.advanceTransactionAt
        split <;> rfl
    have hbursts (indices : List Nat) : ∀ ledger : Ledger D n,
        (indices.foldl Ledger.advanceBurstAt ledger).accepted = ledger.accepted := by
      induction indices with
      | nil => exact fun _ => rfl
      | cons index indices ih =>
        intro ledger
        rw [List.foldl_cons, ih]
        unfold Ledger.advanceBurstAt
        split <;> rfl
    show ledger.accepted ≤ ledger.tick.accepted
    unfold Ledger.tick
    dsimp only
    rw [hbursts, htransactions]

/-- The call does not reach the `expect` of `perform_request`, and changes no other request than the one
it is for. -/
def KeepsApart (ledger : Ledger D n) (op : MapOp) : Prop :=
  (∀ compat, ledger.map.compatTransaction = some compat →
    ledger.map.transactionPhase compat.id ≠ none) ∧
  ∀ id, ledger.target op = some id → Framed id ledger (ledger.apply op)

theorem accepted_le_run (ledger : Ledger D n) (ops : List MapOp) :
    ledger.accepted ≤ (run apply ledger ops).accepted := by
  induction ops generalizing ledger with
  | nil => exact Nat.le_refl _
  | cons op ops ih => exact (ledger.accepted_le_apply op).trans (ih _)

omit [Addressable D] in
theorem sound_start (devices : Vector (DeviceSlot D) n) : (start devices).Sound := by
  have hentries : (start devices).entries = [] := rfl
  have hlog : (start devices).log = [] := rfl
  refine ⟨Nat.zero_le _, rfl, .refl _, ?_, ?_, fun index => ?_, fun _ h => by cases h⟩
  · rw [hlog]
    exact fun _ h => absurd h List.not_mem_nil
  · rw [hentries]
    exact fun _ h => absurd h List.not_mem_nil
  · unfold MemoryMap.device start MemoryMap.fresh
    simp only [Fin.getElem_fin, Vector.getElem_map]
    rfl

/-- The invariant of a run, and what its calls leave. -/
theorem Sound.run {ledger : Ledger D n} (hsound : ledger.Sound) (ops : List MapOp)
    (hfew : (Automata.run Ledger.apply ledger ops).accepted ≤ 2 ^ 64) :
    (Automata.run Ledger.apply ledger ops).Sound ∧ Along Ledger.apply KeepsApart ledger ops := by
  induction ops generalizing ledger with
  | nil => exact ⟨hsound, trivial⟩
  | cons op ops ih =>
    obtain ⟨hnext, hframed⟩ := hsound.apply op (((ledger.apply op).accepted_le_run ops).trans hfew)
    obtain ⟨hend, halong⟩ := ih hnext hfew
    exact ⟨hend, ⟨fun compat => hsound.transactionPhase_ne_none, hframed⟩, halong⟩

end Ledger

end RvSim
