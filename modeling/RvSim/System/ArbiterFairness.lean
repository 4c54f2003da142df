import RvSim.System.ArbiterOrder

/-!
# Windows and fairness

A master never has more requests outstanding than its window, and no master is selected twice while
another one that is ready is passed over: the round-robin pointer has the ready one in front.

## Main definitions

* `ConstantWindow`: masters whose window does not change
* `ArbiterBus.selected`: the master that an event selects
* `ArbiterBus.distance`: how far a master is from the round-robin pointer

## Main results

* `windows_and_fairness`: both, over every run
-/

namespace RvSim

open Automata

/-- Masters whose window does not change. -/
class ConstantWindow (M : Type) [BusMaster M] : Prop where
  request (master : M) : BusMaster.maxOutstandingRequests (BusMaster.request master).2 =
    BusMaster.maxOutstandingRequests master
  onResponse (master : M) (response : Except BusError BusMasterResponse) :
    BusMaster.maxOutstandingRequests (BusMaster.onResponse master response) =
      BusMaster.maxOutstandingRequests master

instance : ConstantWindow ScriptedMaster where
  request _ := rfl
  onResponse _ _ := rfl

namespace ArbiterBus

variable {β M : Type} {n : Nat} [BusMaster M]

/-- The window of a master. -/
def window (masters : Vector (MasterSlot M) n) (index : Fin n) : Nat :=
  max (BusMaster.maxOutstandingRequests (masters.get index).master) 1

/-- Every master is within its window. -/
def WithinWindows (arbiter : ArbiterBus β M n) : Prop :=
  ∀ index, arbiter.outstandingRequestCountForMaster index ≤ window arbiter.masters index

/-- The event leaves the windows of the masters. -/
def KeepsWindows (arbiter : ArbiterBus β M n) (event : ArbiterEvent β M n) : Prop :=
  match event with
  | .master index master => BusMaster.maxOutstandingRequests master =
    BusMaster.maxOutstandingRequests (arbiter.masters.get index).master
  | _ => True

instance (arbiter : ArbiterBus β M n) (event : ArbiterEvent β M n) :
    Decidable (arbiter.KeepsWindows event) := by
  unfold KeepsWindows
  split <;> infer_instance

/-! ## Windows -/

section Window

/-- A slot that is replaced by one with the same window. -/
theorem window_set {masters : Vector (MasterSlot M) n} {index : Fin n} {slot : MasterSlot M}
    (h : BusMaster.maxOutstandingRequests slot.master =
      BusMaster.maxOutstandingRequests (masters.get index).master) :
    window (masters.set index slot index.isLt) = window masters := by
  funext other
  unfold window
  rw [slot_set]
  split
  · rename_i heq
    subst heq
    rw [h]
  · rfl

variable [ConstantWindow M]

theorem window_deliver (masters : Vector (MasterSlot M) n) (index : Fin n) (serial : Nat)
    (response : Except BusError BusMasterResponse) :
    window (deliver masters index serial response) = window masters :=
  window_set (ConstantWindow.onResponse _ _)

theorem window_deliverCompleted (masters : Vector (MasterSlot M) n)
    (kept rest : List (InFlightRequest n)) :
    window (deliverCompleted masters kept rest).1 = window masters := by
  induction rest generalizing masters kept with
  | nil => rfl
  | cons active rest ih =>
    unfold deliverCompleted
    split
    · exact ih _ _
    · split
      · exact ih _ _
      · exact (ih _ _).trans (window_deliver _ _ _ _)

theorem window_request (slot : MasterSlot M) :
    BusMaster.maxOutstandingRequests slot.request.2.master =
      BusMaster.maxOutstandingRequests slot.master := by
  have hrequest := ConstantWindow.request slot.master
  unfold MasterSlot.request
  rcases hout : BusMaster.request slot.master with ⟨_ | _, _⟩
  all_goals
    rw [hout] at hrequest
    exact hrequest

theorem window_scan (arbiter : ArbiterBus β M n) (order : List (Fin n)) :
    window (arbiter.scan order).2.masters = window arbiter.masters := by
  induction order generalizing arbiter with
  | nil => rfl
  | cons index rest ih =>
    unfold scan
    dsimp only
    split
    · exact ih _
    · have hslot := window_request (arbiter.masters.get index)
      rcases hrequest : (arbiter.masters.get index).request with ⟨_ | request, slot⟩
      all_goals
        rw [hrequest] at hslot
      · exact (ih _).trans (window_set hslot)
      · exact window_set hslot

end Window

/-- What is handed out is taken from the requests in flight. -/
theorem deliverCompleted_sublist (masters : Vector (MasterSlot M) n)
    (kept rest : List (InFlightRequest n)) :
    (deliverCompleted masters kept rest).2.Sublist (kept ++ rest) := by
  induction rest generalizing masters kept with
  | nil => rw [deliverCompleted, List.append_nil]
  | cons active rest ih =>
    have hkeep := ih masters (kept ++ [active])
    rw [List.append_assoc] at hkeep
    unfold deliverCompleted
    split
    · exact hkeep
    · split
      · exact hkeep
      · exact (ih _ kept).trans ((List.sublist_cons_self active rest).append_left kept)

section Steps

variable [FabricBus β]

/-- Polling leaves no master with more requests than before. -/
theorem outstanding_polled (arbiter : ArbiterBus β M n) (index : Fin n) :
    arbiter.polled.outstandingRequestCountForMaster index ≤
      arbiter.outstandingRequestCountForMaster index := by
  have hsublist := deliverCompleted_sublist arbiter.masters []
    (collectResponses (Bus.tick arbiter.inner) arbiter.inFlightRequests).2
  have hfiltered := (hsublist.filter (·.masterIndex = index)).length_le
  have hcollected := congrArg List.length
    (serialsOf_collectResponses (Bus.tick arbiter.inner) arbiter.inFlightRequests index)
  unfold serialsOf at hcollected
  rw [List.length_map, List.length_map] at hcollected
  rw [List.nil_append, hcollected] at hfiltered
  exact Nat.add_le_add_left hfiltered _

omit [FabricBus β] in
/-- A submission leaves no master with more requests than before. -/
theorem WithinWindows.mono {arbiter other : ArbiterBus β M n} (h : arbiter.WithinWindows)
    (hcount : ∀ index, other.outstandingRequestCountForMaster index ≤
      arbiter.outstandingRequestCountForMaster index)
    (hwindow : window other.masters = window arbiter.masters) : other.WithinWindows := by
  intro index
  rw [hwindow]
  exact (hcount index).trans (h index)

variable [ConstantWindow M]

theorem WithinWindows.polled {arbiter : ArbiterBus β M n} (h : arbiter.WithinWindows) :
    arbiter.polled.WithinWindows :=
  h.mono arbiter.outstanding_polled (window_deliverCompleted _ _ _)

omit [FabricBus β] in
theorem WithinWindows.chosen {arbiter : ArbiterBus β M n} (h : arbiter.WithinWindows) :
    arbiter.chosen.WithinWindows := by
  unfold ArbiterBus.chosen
  split
  · exact h
  · rename_i hpending
    have hnone := Option.not_isSome_iff_eq_none.1 hpending
    have hscanned := scanned_selectNextRequest arbiter
    have hwindow : window arbiter.selectNextRequest.2.masters = window arbiter.masters :=
      window_scan arbiter _
    rcases hselect : arbiter.selectNextRequest with ⟨_ | pending, selected⟩
    · rw [hselect] at hscanned hwindow
      refine h.mono (fun index => le_of_eq ?_) hwindow
      unfold outstandingRequestCountForMaster
      rw [hscanned.pendingRequest, hscanned.inFlightRequests]
    · rw [hselect] at hscanned hwindow
      intro index
      have hcount : outstandingRequestCountForMaster { selected with
          cpuReservedThisCycle := true, pendingRequest := some pending } index =
          (if pending.masterIndex = index then 1 else 0) +
            arbiter.outstandingRequestCountForMaster index := by
        unfold outstandingRequestCountForMaster
        dsimp only
        rw [hscanned.inFlightRequests, hnone]
        simp
      show _ ≤ window selected.masters index
      rw [hcount, hwindow]
      split
      · rename_i heq
        subst heq
        have hbelow := hscanned.window pending rfl
        unfold window
        omega
      · rw [Nat.zero_add]
        exact h index

theorem WithinWindows.submitted {arbiter : ArbiterBus β M n} (h : arbiter.WithinWindows) :
    arbiter.trySubmitPendingRequest.WithinWindows := by
  obtain ⟨-, hsame⟩ | ⟨pending, hpending, hcases⟩ := submit_cases arbiter
  · rw [hsame]
    exact h
  · rcases hcases with ⟨requestId, inner, hafter, -⟩ | ⟨cycles, inner, hafter, -⟩ |
      ⟨error, inner, -, hafter, -⟩
    · rw [hafter]
      refine h.mono (fun index => le_of_eq ?_) rfl
      unfold outstandingRequestCountForMaster
      dsimp only
      rw [hpending, List.filter_append, List.length_append]
      by_cases heq : pending.masterIndex = index <;> simp [heq, Nat.add_comm]
    · rw [hafter]
      exact h
    · rw [hafter]
      refine h.mono (fun index => ?_) (window_deliver _ _ _ _)
      unfold outstandingRequestCountForMaster
      simp

/-- **One event** leaves every master within its window. -/
theorem WithinWindows.next {arbiter : ArbiterBus β M n} (h : arbiter.WithinWindows)
    (event : ArbiterEvent β M n) (hkeeps : arbiter.KeepsWindows event) :
    (arbiter.next event).WithinWindows := by
  cases event with
  | tick =>
    show arbiter.tick.WithinWindows
    rw [tick_eq]
    exact h.polled.chosen.submitted
  | cpu request =>
    obtain ⟨inner, hafter⟩ := arbiter.call_inner request
    show (request.call arbiter).2.WithinWindows
    rw [hafter]
    exact h
  | lower inner => exact h
  | master index master => exact h.mono (fun _ => le_refl _) (window_set hkeeps)

omit [FabricBus β] [ConstantWindow M] in
theorem withinWindows_new (inner : β) (masters : Vector M n) :
    (ArbiterBus.new inner masters).WithinWindows := fun _ => Nat.zero_le _

end Steps

/-! ## The round-robin pointer -/

section Pointer

/-- How far a master is from the round-robin pointer. -/
def distance (start : Nat) (index : Fin n) : Nat :=
  if start % n ≤ index then index - start % n else index + n - start % n

theorem distance_cases (start : Nat) (index : Fin n) :
    start % n ≤ index ∧ distance start index + start % n = index ∨
      index < start % n ∧ distance start index + start % n = index + n := by
  have hstart := Nat.mod_lt start index.pos
  unfold distance
  split <;> omega

theorem distance_lt (start : Nat) (index : Fin n) : distance start index < n := by
  have hstart := Nat.mod_lt start index.pos
  have hindex := index.isLt
  have hcases := distance_cases start index
  omega

/-- The place in the scan order that is `k` behind the pointer. -/
theorem add_mod_cases (start : Nat) {k : Nat} (hk : k < n) :
    (start + k) % n = if start % n + k < n then start % n + k else start % n + k - n := by
  have hstart := Nat.mod_lt start (Nat.zero_lt_of_lt hk)
  rw [Nat.add_mod, Nat.mod_eq_of_lt hk]
  split
  · rename_i hlt
    exact Nat.mod_eq_of_lt hlt
  · rename_i hge
    rw [Nat.mod_eq_sub_mod (not_lt.1 hge)]
    exact Nat.mod_eq_of_lt (by omega)

/-- The scan order lists the masters by distance. -/
theorem scanOrder_getElem (start : Nat) {k : Nat} (hk : k < n) :
    (scanOrder start : List (Fin n))[k]? = some ⟨(start + k) % n, Nat.mod_lt _ (Nat.zero_lt_of_lt hk)⟩ := by
  unfold scanOrder
  rw [List.getElem?_map, List.getElem?_eq_getElem (by rwa [List.length_finRange])]
  simp

theorem scanOrder_distance (start : Nat) (index : Fin n) :
    (scanOrder start : List (Fin n))[distance start index]? = some index := by
  have hlt := distance_lt start index
  have hstart := Nat.mod_lt start index.pos
  have hindex := index.isLt
  rw [scanOrder_getElem start hlt]
  refine congrArg some (Fin.ext ?_)
  show (start + distance start index) % n = index
  rw [add_mod_cases start hlt]
  unfold distance
  split <;> split <;> omega

/-- A master that is scanned before another one is nearer to the pointer. -/
theorem distance_of_scanned {start : Nat} {first index : Fin n} {before after : List (Fin n)}
    (horder : scanOrder start = before ++ first :: after) (hbefore : index ∉ before)
    (hne : index ≠ first) : distance start first < distance start index := by
  have hfirst : before.length = distance start first := by
    have hat : (scanOrder start : List (Fin n))[before.length]? = some first := by
      rw [horder, List.getElem?_append_right (le_refl _), Nat.sub_self]
      rfl
    have hlength : before.length < (scanOrder start : List (Fin n)).length :=
      (List.getElem?_eq_some_iff.1 hat).1
    exact (List.getElem?_inj hlength (nodup_scanOrder start)).1
      (hat.trans (scanOrder_distance start first).symm)
  have hindex := scanOrder_distance start index
  rw [horder] at hindex
  by_contra hle
  rcases lt_or_eq_of_le (not_lt.1 hle) with hlt | heq
  · rw [List.getElem?_append_left (by omega)] at hindex
    exact hbefore (List.mem_of_getElem? hindex)
  · rw [heq, ← hfirst, List.getElem?_append_right (le_refl _), Nat.sub_self] at hindex
    exact hne (Option.some.inj hindex).symm

/-- The pointer behind a master. -/
theorem pointer_cases (index : Fin n) :
    index.val + 1 < n ∧ (index + 1) % n % n = index.val + 1 ∨
      index.val + 1 = n ∧ (index + 1) % n % n = 0 := by
  have hindex := index.isLt
  rw [Nat.mod_mod]
  rcases Nat.lt_or_ge (index.val + 1) n with hlt | hge
  · exact .inl ⟨hlt, Nat.mod_eq_of_lt hlt⟩
  · have heq : index.val + 1 = n := by omega
    exact .inr ⟨heq, by rw [heq, Nat.mod_self]⟩

/-- Behind its selection a master is last. -/
theorem distance_selected {index other : Fin n} (hne : other ≠ index) :
    distance ((index + 1) % n) other < distance ((index + 1) % n) index := by
  have hval : other.val ≠ index.val := fun h => hne (Fin.ext h)
  have hother := other.isLt
  have hpointer := pointer_cases index
  have hcases := distance_cases ((index + 1) % n) other
  have hcases' := distance_cases ((index + 1) % n) index
  omega

/-- A selection in front of both leaves the order of two masters. -/
theorem distance_passed {start : Nat} {first near far : Fin n}
    (hfirst : distance start first < distance start near)
    (hnear : distance start near < distance start far) :
    distance ((first + 1) % n) near < distance ((first + 1) % n) far := by
  have hstart := Nat.mod_lt start first.pos
  have hbounds := first.isLt
  have hbounds' := near.isLt
  have hbounds'' := far.isLt
  have hpointer := pointer_cases first
  have h1 := distance_cases start first
  have h2 := distance_cases start near
  have h3 := distance_cases start far
  have h4 := distance_cases ((first + 1) % n) near
  have h5 := distance_cases ((first + 1) % n) far
  omega

end Pointer

/-! ## Selections -/

section Select

variable [FabricBus β]

/-- The master that an event selects. -/
def selected (arbiter : ArbiterBus β M n) (event : ArbiterEvent β M n) : Option (Fin n) :=
  match event with
  | .tick =>
    if arbiter.polled.pendingRequest.isSome then none
    else arbiter.polled.selectNextRequest.1.map (·.masterIndex)
  | _ => none

/-- If the event is a tick, the master is below its window and has a request when the arbiter scans. -/
def ReadyAt (index : Fin n) (arbiter : ArbiterBus β M n) (event : ArbiterEvent β M n) : Prop :=
  event matches .tick → arbiter.polled.Ready index

theorem pointer_submitted (arbiter : ArbiterBus β M n) :
    arbiter.trySubmitPendingRequest.nextMasterIndex = arbiter.nextMasterIndex := by
  obtain ⟨-, hsame⟩ | ⟨pending, hpending, hcases⟩ := submit_cases arbiter
  · rw [hsame]
  · rcases hcases with ⟨requestId, inner, hafter, -⟩ | ⟨cycles, inner, hafter, -⟩ |
      ⟨error, inner, -, hafter, -⟩ <;> rw [hafter]

/-- An event moves the pointer behind the master it selects. -/
theorem pointer_next (arbiter : ArbiterBus β M n) (event : ArbiterEvent β M n) :
    (arbiter.next event).nextMasterIndex = match arbiter.selected event with
      | some index => (index + 1) % n
      | none => arbiter.nextMasterIndex := by
  cases event with
  | tick =>
    show arbiter.tick.nextMasterIndex = _
    rw [tick_eq, pointer_submitted]
    unfold chosen selected
    dsimp only
    split
    · rfl
    · have hscanned := scanned_selectNextRequest arbiter.polled
      rcases hselect : arbiter.polled.selectNextRequest with ⟨_ | pending, after⟩
      · rw [hselect] at hscanned
        exact hscanned.unmoved rfl
      · rw [hselect] at hscanned
        exact hscanned.pointer pending rfl
  | cpu request =>
    obtain ⟨inner, hafter⟩ := arbiter.call_inner request
    show (request.call arbiter).2.nextMasterIndex = _
    rw [hafter]
    rfl
  | lower inner => rfl
  | master index master => rfl

/-- A selection finds the ready master that is nearest to the pointer. -/
theorem distance_selected_of_ready {arbiter : ArbiterBus β M n} {event : ArbiterEvent β M n}
    {first index : Fin n} (hfirst : arbiter.selected event = some first)
    (hready : ReadyAt index arbiter event) (hne : index ≠ first) :
    distance arbiter.nextMasterIndex first < distance arbiter.nextMasterIndex index := by
  cases event with
  | tick =>
    unfold selected at hfirst
    dsimp only at hfirst
    split at hfirst
    · cases hfirst
    · have hscanned := scanned_selectNextRequest arbiter.polled
      have hmem : index ∈ (scanOrder arbiter.polled.nextMasterIndex : List (Fin n)) :=
        List.mem_of_getElem? (scanOrder_distance _ index)
      obtain ⟨pending, hpending, before, after, horder, hbefore⟩ :=
        hscanned.first index (hready rfl) hmem
      have hsome : arbiter.polled.selectNextRequest.1 = some pending := hpending
      rw [hsome] at hfirst
      cases hfirst
      exact distance_of_scanned horder hbefore hne
  | _ => cases hfirst

/-- **Fairness**: behind a selection of one master, as long as another one is ready and not selected, the
first one is not selected either. -/
theorem not_selected_again {arbiter : ArbiterBus β M n} {index ready : Fin n}
    (hnearer : distance arbiter.nextMasterIndex ready < distance arbiter.nextMasterIndex index)
    {between : List (ArbiterEvent β M n)} {last : ArbiterEvent β M n}
    (hready : Along next (ReadyAt ready) arbiter (between ++ [last]))
    (hlast : (run next arbiter between).selected last = some index) :
    ∃ before event after, between = before ++ event :: after ∧
      (run next arbiter before).selected event = some ready := by
  have hne : ready ≠ index := by
    rintro rfl
    exact lt_irrefl _ hnearer
  induction between generalizing arbiter with
  | nil =>
    have hfarther : distance arbiter.nextMasterIndex index < distance arbiter.nextMasterIndex ready :=
      distance_selected_of_ready hlast hready.1 hne
    omega
  | cons event between ih =>
    have hpointer := arbiter.pointer_next event
    have hkeep : (∀ chosen, arbiter.selected event = some chosen → chosen ≠ ready) →
        distance (arbiter.next event).nextMasterIndex ready <
          distance (arbiter.next event).nextMasterIndex index := by
      intro hother
      cases hselected : arbiter.selected event with
      | none =>
        rw [hpointer, hselected]
        exact hnearer
      | some chosen =>
        rw [hpointer, hselected]
        have hfirst := distance_selected_of_ready hselected hready.1 (hother chosen hselected).symm
        exact distance_passed hfirst hnearer
    by_cases hthis : arbiter.selected event = some ready
    · exact ⟨[], event, between, rfl, hthis⟩
    · have hnext := hkeep fun chosen hchosen heq => hthis (heq ▸ hchosen)
      obtain ⟨before, found, after, hsplit, hfound⟩ := ih hnext hready.2 hlast
      exact ⟨event :: before, found, after, by rw [hsplit]; rfl, hfound⟩

end Select

end ArbiterBus

/-- **Windows and fairness.** In every run each master is within its window, at most one request is
pending, and between two selections of one master every other one that was ready throughout is selected. -/
theorem windows_and_fairness {β M : Type} {n : Nat} [FabricBus β] [BusMaster M] [ConstantWindow M]
    (inner : β) (masters : Vector M n) (events : List (ArbiterEvent β M n))
    (h : Along ArbiterBus.next ArbiterBus.KeepsWindows (.new inner masters) events) :
    (∀ index, (run ArbiterBus.next (.new inner masters) events).outstandingRequestCountForMaster index ≤
      max (BusMaster.maxOutstandingRequests
        ((run ArbiterBus.next (.new inner masters) events).masters.get index).master) 1) ∧
    (run ArbiterBus.next (.new inner masters) events).pendingRequest.toList.length ≤ 1 ∧
    ∀ (before between : List (ArbiterEvent β M n)) (first last : ArbiterEvent β M n)
      (index ready : Fin n), events = before ++ first :: between ++ [last] → ready ≠ index →
      (run ArbiterBus.next (.new inner masters) before).selected first = some index →
      (run ArbiterBus.next (.new inner masters) (before ++ first :: between)).selected last =
        some index →
      Along ArbiterBus.next (ArbiterBus.ReadyAt ready)
        (run ArbiterBus.next (.new inner masters) (before ++ [first])) (between ++ [last]) →
      ∃ passed event rest, between = passed ++ event :: rest ∧
        (run ArbiterBus.next (.new inner masters) (before ++ first :: passed)).selected event =
          some ready := by
  refine ⟨?_, ?_, ?_⟩
  · exact Along.run_invariant (ArbiterBus.withinWindows_new inner masters)
      (fun arbiter event hwithin hkeeps => hwithin.next event hkeeps) h
  · exact Option.length_toList_le
  · rintro before between first last index ready - hne hfirst hlast hready
    have hsplit (rest : List (ArbiterEvent β M n)) :
        run ArbiterBus.next (.new inner masters) (before ++ first :: rest) =
          run ArbiterBus.next ((run ArbiterBus.next (.new inner masters) before).next first) rest :=
      run_append _ _ _ _
    rw [hsplit] at hlast hready
    -- behind the first choice the pointer has passed `index`, so that `ready` is nearer
    have hnearer := ArbiterBus.distance_selected hne
    have hpointer := ArbiterBus.pointer_next (run ArbiterBus.next (.new inner masters) before) first
    rw [hfirst] at hpointer
    dsimp only at hpointer
    rw [← hpointer] at hnearer
    obtain ⟨passed, event, rest, hbetween, hselected⟩ :=
      ArbiterBus.not_selected_again hnearer hready hlast
    refine ⟨passed, event, rest, hbetween, ?_⟩
    rw [hsplit]
    exact hselected

/-- Two masters with a window of two and three requests each. -/
def twoMasters : Vector ScriptedMaster 2 :=
  #v[⟨2, [.load32 0, .load32 0, .load32 0], []⟩, ⟨2, [.store32 0 1, .load32 0, .load32 0], []⟩]

/-- Both are on one word of memory, and the CPU has a request. Between the two selections of the first master
the second one is selected. -/
theorem windows_and_fairness_two :
    let start : ArbiterBus (MemoryMap (LatencyAdapter Ram) 1) ScriptedMaster 2 :=
      .new sluggishWord twoMasters
    let bus := run ArbiterBus.next start [.tick, .cpu (.load32 0), .tick, .tick]
    (∀ index, bus.outstandingRequestCountForMaster index ≤
      max (BusMaster.maxOutstandingRequests (bus.masters.get index).master) 1) ∧
    bus.pendingRequest.toList.length ≤ 1 ∧
    ∃ passed event rest, [.cpu (.load32 0), .tick] = passed ++ event :: rest ∧
      (run ArbiterBus.next start (.tick :: passed)).selected event = some 1 := by
  obtain ⟨hwindows, hpending, hfair⟩ := windows_and_fairness sluggishWord twoMasters
    [.tick, .cpu (.load32 0), .tick, .tick] (by decide +kernel)
  have hready : Along ArbiterBus.next (ArbiterBus.ReadyAt 1)
      (run ArbiterBus.next (.new sluggishWord twoMasters) [.tick]) [.cpu (.load32 0), .tick, .tick] := by
    refine ⟨(fun h => nomatch h), fun _ => ⟨?_, ?_⟩, fun _ => ⟨?_, ?_⟩, trivial⟩ <;> decide +kernel
  have hfair := hfair [] [.cpu (.load32 0), .tick] .tick .tick 0 1 rfl (by decide)
    (by decide +kernel) (by decide +kernel) hready
  exact ⟨hwindows, hpending, hfair⟩

end RvSim
