import RvSim.Automata.Run
import RvSim.Devices.Ram
import RvSim.System.Cache.Lines
import RvSim.System.Cache.Outstanding

/-!
# No burst is left in the backing bus

The unified cache keeps hold of every burst it has submitted until it takes the response. The split
first-level cache does so as long as no store is done on a line that its instruction bank is refilling:
the store drops the refill, and its burst stays in the backing bus.

## Main definitions

* `DirectCall`, `SplitCall`: the calls of a client, and their steps
* `DirectMappedCache.held`, `SplitL1Cache.held`: the bursts of all operations in progress
* `SplitL1Cache.DropsRefill`: the call is a store that drops a refill with a burst

## Main results

* `outstanding_held_iff`: in a run, every outstanding burst is held in every state if and only if no
  store drops a refill
-/

namespace RvSim

open Automata

variable {β : Type} [BurstBus β] [CacheMaintenance β]

/-- The burst of a maintenance request, if one is in progress. -/
def maintenanceHeld {config : CacheConfig} (maintenance : Option (PendingMaintenance config)) :
    List U64 :=
  maintenance.elim [] PendingMaintenance.held

/-- Every outstanding burst, as often as it is outstanding, is held. -/
def AllHeld (outstanding held : List U64) : Prop := ∀ id, outstanding.count id ≤ held.count id

omit [BurstBus β] [CacheMaintenance β] in
theorem allHeld_of_perm {outstanding held : List U64} (h : outstanding.Perm held) :
    AllHeld outstanding held := fun id => (h.count_eq id).le

omit [BurstBus β] in
theorem outstanding_maintenanceCall (request : MaintenanceRequest) (inner : Tracked β) :
    (request.call inner).2.outstanding = inner.outstanding := by
  unfold MaintenanceRequest.call
  split <;> rfl

omit [BurstBus β] [CacheMaintenance β] in
/-- The bank behind the write-back of a range. -/
theorem owes_of_range {config : CacheConfig} {rest : List U64} {bank bank' : CacheBank config}
    {inner : Tracked β} (hone : bank.OneBurst) (hpending : bank'.pending = bank.pending)
    (h : inner.outstanding.Perm (rest ++ bank.held)) : Owes rest bank' inner :=
  Owes.congr ⟨h.trans List.perm_append_comm, hone⟩ hpending rfl

namespace CacheBank

variable {config : CacheConfig}

/-- The bank refills the line of an address, and has submitted a burst for it. -/
def Refills (bank : CacheBank config) (addr : Address) : Prop :=
  (config.cachesLineContaining addr = true ∧
    bank.pending.any (·.matchesLine (config.decode addr)) = true) ∧ bank.held ≠ []

instance (bank : CacheBank config) (addr : Address) : Decidable (bank.Refills addr) :=
  inferInstanceAs (Decidable (_ ∧ _))

omit [BurstBus β] [CacheMaintenance β] in
theorem held_invalidateLine_of_refills {bank : CacheBank config} {addr : Address}
    (h : bank.Refills addr) : (bank.invalidateLine addr).held = [] := by
  refine held_eq_nil ?_
  rw [pending_invalidateLine, if_pos h.1]

omit [BurstBus β] [CacheMaintenance β] in
/-- A bank that does not refill the line loses no burst. -/
theorem held_invalidateLine {bank : CacheBank config} {addr : Address} (h : ¬ bank.Refills addr) :
    (bank.invalidateLine addr).held = bank.held := by
  by_cases hmatch : config.cachesLineContaining addr = true ∧
      bank.pending.any (·.matchesLine (config.decode addr)) = true
  · have hnil : bank.held = [] := by_contra fun hheld => h ⟨hmatch, hheld⟩
    rw [hnil]
    refine held_eq_nil ?_
    rw [pending_invalidateLine, if_pos hmatch]
  · refine held_congr ?_
    rw [pending_invalidateLine, if_neg hmatch]

omit [BurstBus β] [CacheMaintenance β] in
theorem oneBurst_invalidateLine {bank : CacheBank config} (h : bank.OneBurst) (addr : Address) :
    (bank.invalidateLine addr).OneBurst := by
  intro pending hpending
  rw [pending_invalidateLine] at hpending
  split at hpending
  · cases hpending
  · exact h pending hpending

end CacheBank

/-! ## The unified cache -/

/-- A call of a client of the unified cache. -/
inductive DirectCall
  | access (request : BusRequest)
  | tick
  | maintain (request : MaintenanceRequest)
  | submitBurst (request : BurstRequest)
  | advanceBurst (id : U64)
  | takeBurstResponse (id : U64)
  deriving DecidableEq

namespace DirectMappedCache

variable {config : CacheConfig}

/-- A call, with its value left out. -/
def step (cache : DirectMappedCache config β) (call : DirectCall) :
    Except CacheError Unit × DirectMappedCache config β :=
  match call with
  | .access request => mapAnswer (fun _ => ()) (cache.access request)
  | .tick => cache.tick
  | .maintain request => cache.maintain request
  | .submitBurst request => mapAnswer (fun _ => ()) (cache.submitBurst request)
  | .advanceBurst id => mapAnswer (fun _ => ()) (cache.advanceBurst id)
  | .takeBurstResponse id => (.ok (), (cache.takeBurstResponse id).2)

/-- The cache behind a call. -/
def next (cache : DirectMappedCache config β) (call : DirectCall) : DirectMappedCache config β :=
  (cache.step call).2

/-- The bursts of the operations in progress. -/
def held (cache : DirectMappedCache config β) : List U64 :=
  cache.bank.held ++ maintenanceHeld cache.maintenance

/-- The outstanding bursts are those of the operations in progress. -/
def OwesHeld (cache : DirectMappedCache config (Tracked β)) : Prop :=
  Owes (maintenanceHeld cache.maintenance) cache.bank cache.inner

/-- A call that keeps hold of the bursts. -/
def Keeps {α : Type} (out : Except CacheError α × DirectMappedCache config (Tracked β)) : Prop :=
  Ends True out (fun _ => OwesHeld) fun _ => OwesHeld

variable {cache : DirectMappedCache config (Tracked β)}

omit [CacheMaintenance β] in
theorem keeps_through {α : Type} (h : cache.OwesHeld)
    {call : CacheBank config → Tracked β → Except CacheError α × CacheBank config × Tracked β}
    (hcall : KeepsBursts (maintenanceHeld cache.maintenance) (call cache.bank cache.inner)) :
    Keeps (cache.through call) := by
  unfold Keeps through onBank
  split
  · exact h
  · refine Ends.under (f := fun s => { cache with bank := s.1, inner := s.2 }) hcall ?_ ?_
    · exact fun _ _ hs => hs
    · exact fun _ _ hs => hs

omit [CacheMaintenance β] in
theorem keeps_access (h : cache.OwesHeld) (request : BusRequest) : Keeps (cache.access request) :=
  keeps_through h (owes_access h request)

omit [CacheMaintenance β] in
theorem keeps_store32 (h : cache.OwesHeld) (addr : Address) (value : U32) :
    Keeps (cache.store32 addr value) :=
  keeps_through h (owes_aligned h addr 4 (owes_store h _))

omit [CacheMaintenance β] in
theorem keeps_executeBurstBeat (h : cache.OwesHeld) (request : BurstRequest) (beatIndex : Nat) :
    Keeps (cache.executeBurstBeat request beatIndex) := by
  unfold executeBurstBeat
  split
  · exact Ends.mapAnswer (keeps_access h (.fetch32 _)) fun _ _ hs => hs
  · exact Ends.mapAnswer (keeps_access h (.load32 _)) fun _ _ hs => hs
  · trivial
  · exact Ends.mapAnswer (keeps_store32 h _ _) fun _ _ hs => hs

omit [CacheMaintenance β] in
theorem keeps_advanceActiveBurst (h : cache.OwesHeld) : Keeps cache.advanceActiveBurst := by
  unfold advanceActiveBurst
  split
  · exact h
  · rename_i active _
    split
    · exact h
    · exact h
    · have hbeat := keeps_executeBurstBeat h active.request active.beatIndex
      generalize cache.executeBurstBeat active.request active.beatIndex = out at hbeat
      obtain ⟨(error | _ | _) | _, cache'⟩ := out
      · cases error <;> exact hbeat
      · trivial
      · trivial
      · exact hbeat

omit [CacheMaintenance β] in
theorem keeps_ensureMaintenanceRequest (h : cache.OwesHeld) (request : MaintenanceRequest) :
    Keeps (cache.ensureMaintenanceRequest request) := by
  unfold ensureMaintenanceRequest
  split
  · split
    · exact h
    · exact h
  · rename_i hnone
    rw [OwesHeld, hnone] at h
    split
    · rw [← hnone] at h
      exact h
    · rename_i hidle
      have hpending : cache.bank.pending = none := by
        simp only [CacheBank.hasPendingActivity, Bool.or_eq_true, not_or, Bool.not_eq_true,
          Option.isSome_eq_false_iff, Option.isNone_iff_eq_none] at hidle
        exact hidle.2
      have hout := h.outstanding
      rw [CacheBank.held_eq_nil hpending] at hout
      split
      · exact owes_of_pending_none hpending hout
      · exact owes_of_pending_none (CacheBank.pending_invalidateRange hpending _ _) hout

omit [BurstBus β] in
theorem keeps_maintainInner (h : Owes [] cache.bank cache.inner) (request : MaintenanceRequest) :
    Keeps (cache.maintainInner request) := by
  have hcall := outstanding_maintenanceCall request cache.inner
  unfold maintainInner
  generalize request.call cache.inner = out at hcall
  obtain ⟨error | _, inner⟩ := out
  · cases error <;> exact h.congr rfl hcall
  · exact h.congr rfl hcall

theorem keeps_continueMaintenance (h : cache.OwesHeld) : Keeps cache.continueMaintenance := by
  unfold continueMaintenance
  split
  · exact h
  · rename_i request hstage
    rw [OwesHeld, hstage] at h
    exact keeps_maintainInner h request
  · rename_i request pending hstage
    rw [OwesHeld, hstage] at h
    have hrange := owes_continueWriteBackRange cache.bank cache.inner pending
      (h.outstanding.trans List.perm_append_comm)
    generalize cache.bank.continueWriteBackRange cache.inner pending = out at hrange
    obtain ⟨(_ | _ | _) | _, bank, pending', inner⟩ := out
    · exact owes_of_range h.oneBurst hrange.1 hrange.2
    · trivial
    · trivial
    · exact keeps_maintainInner
        (owes_of_range h.oneBurst hrange.1 hrange.2) request

theorem keeps_step (h : cache.OwesHeld) (call : DirectCall) : Keeps (cache.step call) := by
  cases call with
  | access request => exact Ends.mapAnswer (keeps_access h request) fun _ _ hs => hs
  | tick =>
    exact keeps_advanceActiveBurst
      (h.congr rfl rfl)
  | maintain request =>
    exact Ends.onOk (keeps_ensureMaintenanceRequest h request) fun _ _ hs => keeps_continueMaintenance hs
  | submitBurst request =>
    have hsubmit : Keeps (cache.submitBurst request) := by
      unfold submitBurst
      split
      · exact h
      · split
        · trivial
        · exact h
    exact Ends.mapAnswer hsubmit fun _ _ hs => hs
  | advanceBurst id =>
    have hadvance : Keeps (cache.advanceBurst id) := by
      unfold advanceBurst
      split
      · exact h
      · exact Ends.onOk (keeps_advanceActiveBurst h) fun _ _ hs => hs
    exact Ends.mapAnswer hadvance fun _ _ hs => hs
  | takeBurstResponse id =>
    show OwesHeld (cache.takeBurstResponse id).2
    unfold takeBurstResponse
    split
    · exact h
    · split
      · exact h
      · exact h
      · exact h

end DirectMappedCache

/-! ## The split cache -/

/-- A call of a client of the split cache. -/
inductive SplitCall
  | access (request : BusRequest)
  | tick
  | maintain (request : MaintenanceRequest)
  deriving DecidableEq

/-- The address of a store. -/
def BusRequest.storedAt : BusRequest → Option Address
  | .store8 addr _ | .store16 addr _ | .store32 addr _ => some addr
  | _ => none

namespace SplitL1Cache

variable {instr dat : CacheConfig}

/-- A call, with its value left out. -/
def step (cache : SplitL1Cache instr dat β) (call : SplitCall) :
    Except CacheError Unit × SplitL1Cache instr dat β :=
  match call with
  | .access request => mapAnswer (fun _ => ()) (cache.access request)
  | .tick => (.ok (), cache.tick)
  | .maintain request => cache.maintain request

/-- The cache behind a call. -/
def next (cache : SplitL1Cache instr dat β) (call : SplitCall) : SplitL1Cache instr dat β :=
  (cache.step call).2

/-- The bursts of the operations in progress. -/
def held (cache : SplitL1Cache instr dat β) : List U64 :=
  cache.instruction.held ++ (cache.data.held ++ maintenanceHeld cache.maintenance)

/-- The call is a store that is done while the instruction bank refills its line, with a burst it has
submitted. -/
def DropsRefill (cache : SplitL1Cache instr dat β) (call : SplitCall) : Prop :=
  ∃ request addr value, call = .access request ∧ request.storedAt = some addr ∧
    cache.instruction.Refills addr ∧ (cache.access request).1 = .ok value

/-- The outstanding bursts are those of the operations in progress. -/
structure OwesHeld (cache : SplitL1Cache instr dat (Tracked β)) : Prop where
  outstanding : cache.inner.outstanding.Perm cache.held
  instruction : cache.instruction.OneBurst
  data : cache.data.OneBurst

variable {cache : SplitL1Cache instr dat (Tracked β)}

omit [BurstBus β] [CacheMaintenance β] in
theorem OwesHeld.owesInstruction (h : cache.OwesHeld) :
    Owes (cache.data.held ++ maintenanceHeld cache.maintenance) cache.instruction cache.inner :=
  ⟨h.outstanding, h.instruction⟩

omit [BurstBus β] [CacheMaintenance β] in
theorem OwesHeld.owesData (h : cache.OwesHeld) :
    Owes (cache.instruction.held ++ maintenanceHeld cache.maintenance) cache.data cache.inner := by
  refine ⟨h.outstanding.trans ?_, h.data⟩
  unfold held
  rw [← List.append_assoc, ← List.append_assoc]
  exact List.perm_append_comm.append_right _

omit [BurstBus β] [CacheMaintenance β] in
theorem owesHeld_of_data {data : CacheBank dat} {inner : Tracked β}
    (maintenance : Option (PendingMaintenance dat))
    (h : Owes (cache.instruction.held ++ maintenanceHeld maintenance) data inner)
    (hone : cache.instruction.OneBurst) : OwesHeld { cache with maintenance, data, inner } := by
  refine ⟨h.outstanding.trans ?_, hone, h.oneBurst⟩
  unfold held
  rw [← List.append_assoc, ← List.append_assoc]
  exact List.perm_append_comm.append_right _

/-- A call that keeps hold of the bursts. -/
def Keeps {α : Type} (out : Except CacheError α × SplitL1Cache instr dat (Tracked β)) : Prop :=
  Ends True out (fun _ => OwesHeld) fun _ => OwesHeld

omit [BurstBus β] [CacheMaintenance β] in
theorem keeps_unlessMaintained {α : Type} (h : cache.OwesHeld)
    {out : Except CacheError α × SplitL1Cache instr dat (Tracked β)} (hout : Keeps out) :
    Keeps (cache.unlessMaintained out) := by
  unfold unlessMaintained
  split
  · exact h
  · exact hout

omit [BurstBus β] [CacheMaintenance β] in
theorem keeps_onData {α : Type} (h : cache.OwesHeld)
    {out : Except CacheError α × CacheBank dat × Tracked β}
    (hout : KeepsBursts (cache.instruction.held ++ maintenanceHeld cache.maintenance) out) :
    Keeps (cache.onData out) := by
  refine Ends.under (f := fun s => { cache with data := s.1, inner := s.2 }) hout ?_ ?_
  · exact fun _ _ hs => owesHeld_of_data _ hs h.instruction
  · exact fun _ _ hs => owesHeld_of_data _ hs h.instruction

omit [BurstBus β] [CacheMaintenance β] in
theorem keeps_load {α : Type} (h : cache.OwesHeld)
    {call : CacheBank dat → Tracked β → Except CacheError α × CacheBank dat × Tracked β}
    (hcall : KeepsBursts (cache.instruction.held ++ maintenanceHeld cache.maintenance)
      (call cache.data cache.inner)) : Keeps (cache.load call) :=
  keeps_unlessMaintained h (keeps_onData h hcall)

omit [CacheMaintenance β] in
theorem keeps_fetch32 (h : cache.OwesHeld) (addr : Address) : Keeps (cache.fetch32 addr) := by
  refine keeps_unlessMaintained h ?_
  refine Ends.under (f := fun s => { cache with instruction := s.1, inner := s.2 })
    (owes_access h.owesInstruction (.fetch32 addr)) ?_ ?_
  · exact fun _ _ hs => ⟨hs.outstanding, hs.oneBurst, h.data⟩
  · exact fun _ _ hs => ⟨hs.outstanding, hs.oneBurst, h.data⟩

omit [BurstBus β] [CacheMaintenance β] in
/-- The instruction bank drops its refill of the stored line, and with it the burst. -/
theorem not_allHeld_invalidateLine (h : cache.OwesHeld) {addr : Address}
    (hrefills : cache.instruction.Refills addr) :
    ¬ AllHeld cache.inner.outstanding
      (held { cache with instruction := cache.instruction.invalidateLine addr }) := by
  intro hall
  obtain ⟨id, hid⟩ := List.exists_mem_of_ne_nil _ hrefills.2
  have hcount := hall id
  have hpos := List.count_pos_iff.2 hid
  rw [h.outstanding.count_eq id, held, held, CacheBank.held_invalidateLine_of_refills hrefills,
    List.count_append] at hcount
  simp only [List.nil_append] at hcount
  omega

omit [BurstBus β] [CacheMaintenance β] in
/-- What a store leaves behind. -/
theorem ends_store {α : Type} (h : cache.OwesHeld) (addr : Address)
    {call : CacheBank dat → Tracked β → Except CacheError α × CacheBank dat × Tracked β}
    (hcall : KeepsBursts (cache.instruction.held ++ maintenanceHeld cache.maintenance)
      (call cache.data cache.inner)) :
    Ends True (cache.store addr call)
      (fun _ s => (¬ cache.instruction.Refills addr → s.OwesHeld) ∧
        (cache.instruction.Refills addr → ¬ AllHeld s.inner.outstanding s.held))
      fun _ => OwesHeld := by
  unfold store unlessMaintained
  split
  · exact h
  · have hdata : Ends True (cache.onData (call cache.data cache.inner))
        (fun _ s => s.OwesHeld ∧ s.instruction = cache.instruction) fun _ => OwesHeld := by
      refine Ends.under (f := fun s => { cache with data := s.1, inner := s.2 }) hcall ?_ ?_
      · exact fun _ _ hs => ⟨owesHeld_of_data _ hs h.instruction, rfl⟩
      · exact fun _ _ hs => owesHeld_of_data _ hs h.instruction
    refine hdata.onOk fun _ s hs => ?_
    obtain ⟨hs, hinstruction⟩ := hs
    rw [← hinstruction]
    refine ⟨fun hrefills => ?_, fun hrefills => not_allHeld_invalidateLine hs hrefills⟩
    refine ⟨?_, CacheBank.oneBurst_invalidateLine hs.instruction addr, hs.data⟩
    rw [held, CacheBank.held_invalidateLine hrefills]
    exact hs.outstanding

/-- What a request that is done leaves behind. -/
def AccessDone (cache : SplitL1Cache instr dat (Tracked β)) (request : BusRequest)
    (after : SplitL1Cache instr dat (Tracked β)) : Prop :=
  ((∀ addr, request.storedAt = some addr → ¬ cache.instruction.Refills addr) → after.OwesHeld) ∧
    ∀ addr, request.storedAt = some addr → cache.instruction.Refills addr →
      ¬ AllHeld after.inner.outstanding after.held

omit [CacheMaintenance β] in
theorem ends_access (h : cache.OwesHeld) (request : BusRequest) :
    Ends True (cache.access request) (fun _ => cache.AccessDone request) fun _ => OwesHeld := by
  have hdata := h.owesData
  have hread {α : Type} {out : Except CacheError α × SplitL1Cache instr dat (Tracked β)}
      (hout : Keeps out) (hnone : request.storedAt = none) :
      Ends True out (fun _ => cache.AccessDone request) fun _ => OwesHeld := by
    refine hout.imp (fun _ _ hs => ⟨fun _ => hs, fun addr hstored => ?_⟩) fun _ _ hs => hs
    rw [hnone] at hstored
    cases hstored
  have hwrite {out : Except CacheError Unit × SplitL1Cache instr dat (Tracked β)} {addr : Address}
      (hout : Ends True out
        (fun _ s => (¬ cache.instruction.Refills addr → s.OwesHeld) ∧
          (cache.instruction.Refills addr → ¬ AllHeld s.inner.outstanding s.held))
        fun _ => OwesHeld) (hstored : request.storedAt = some addr) :
      Ends True (mapAnswer (fun _ => (0 : U32)) out) (fun _ => cache.AccessDone request)
        fun _ => OwesHeld := by
    refine hout.mapAnswer fun _ s hs => ⟨fun hrefills => hs.1 (hrefills addr hstored), ?_⟩
    intro addr' hstored'
    rw [hstored, Option.some_inj] at hstored'
    rw [← hstored']
    exact hs.2
  cases request with
  | fetch32 addr => exact hread (keeps_fetch32 h addr) rfl
  | load8 addr =>
    exact hread (Ends.mapAnswer (keeps_load h (owes_read hdata _ rfl _ .load _)) fun _ _ hs => hs) rfl
  | load16 addr =>
    exact hread (Ends.mapAnswer
      (keeps_load h (owes_aligned hdata addr 2 (owes_read hdata _ rfl _ .load _))) fun _ _ hs => hs) rfl
  | load32 addr =>
    exact hread (keeps_load h (owes_aligned hdata addr 4 (owes_read hdata _ rfl addr .load id))) rfl
  | store8 addr value => exact hwrite (ends_store h addr (owes_store hdata _)) rfl
  | store16 addr value =>
    exact hwrite (ends_store h addr (owes_aligned hdata addr 2 (owes_store hdata _))) rfl
  | store32 addr value =>
    exact hwrite (ends_store h addr (owes_aligned hdata addr 4 (owes_store hdata _))) rfl

/-! ### Maintenance -/

omit [CacheMaintenance β] in
theorem keeps_ensureMaintenanceRequest (h : cache.OwesHeld) (request : MaintenanceRequest) :
    Keeps (cache.ensureMaintenanceRequest request) := by
  unfold ensureMaintenanceRequest
  split
  · split
    · exact h
    · exact h
  · rename_i hnone
    have hout := h.outstanding
    rw [held, hnone] at hout
    split
    · exact h
    · rename_i hidle
      simp only [CacheBank.hasPendingActivity, Bool.or_eq_true, not_or, Bool.not_eq_true,
        Option.isSome_eq_false_iff, Option.isNone_iff_eq_none] at hidle
      split
      · exact ⟨hout, h.instruction, h.data⟩
      · have hinstruction := CacheBank.pending_invalidateRange hidle.1 request.start request.len
        have hdata := CacheBank.pending_invalidateRange hidle.2 request.start request.len
        refine ⟨?_, CacheBank.oneBurst_of_pending_none hinstruction,
          CacheBank.oneBurst_of_pending_none hdata⟩
        rw [CacheBank.held_eq_nil hidle.1, CacheBank.held_eq_nil hidle.2] at hout
        rw [held, CacheBank.held_eq_nil hinstruction, CacheBank.held_eq_nil hdata]
        exact hout

omit [BurstBus β] in
theorem keeps_maintainInner (h : OwesHeld { cache with maintenance := none })
    (request : MaintenanceRequest) : Keeps (cache.maintainInner request) := by
  have hcall := outstanding_maintenanceCall request cache.inner
  have hout := h.outstanding
  unfold maintainInner
  generalize request.call cache.inner = out at hcall
  obtain ⟨error | _, inner⟩ := out
  · cases error <;> exact ⟨by rw [hcall]; exact hout, h.instruction, h.data⟩
  · exact ⟨by rw [hcall]; exact hout, h.instruction, h.data⟩

theorem keeps_continueMaintenance (h : cache.OwesHeld) : Keeps cache.continueMaintenance := by
  have hout := h.outstanding
  unfold continueMaintenance
  split
  · exact h
  · rename_i request hstage
    rw [held, hstage] at hout
    exact keeps_maintainInner ⟨hout, h.instruction, h.data⟩ request
  · rename_i request pending hstage
    rw [held, hstage, ← List.append_assoc] at hout
    have hrange := owes_continueWriteBackRange
      cache.data cache.inner pending (hout.trans List.perm_append_comm)
    have hafter {rest : List U64} {data : CacheBank dat} {inner : Tracked β}
        (hpending : data.pending = cache.data.pending)
        (hrest : inner.outstanding.Perm (rest ++ (cache.instruction.held ++ cache.data.held))) :
        Owes (cache.instruction.held ++ rest) data inner := by
      refine Owes.congr ⟨hrest.trans ?_, h.data⟩ hpending rfl
      refine List.perm_iff_count.2 fun id => ?_
      simp only [List.count_append]
      omega
    generalize cache.data.continueWriteBackRange cache.inner pending = out at hrange
    obtain ⟨(_ | _ | _) | _, data, pending', inner⟩ := out
    · exact owesHeld_of_data (some ⟨request, .writeBack pending'⟩) (hafter hrange.1 hrange.2) h.instruction
    · trivial
    · trivial
    · have hdata : OwesHeld { cache with maintenance := none, data, inner } :=
        owesHeld_of_data none (hafter hrange.1 hrange.2) h.instruction
      exact keeps_maintainInner hdata request

/-- **What a call leaves behind**: all bursts are held, unless the call drops a refill. -/
theorem step_cases (h : cache.OwesHeld) (call : SplitCall) (hreturned : Returned (cache.step call).1) :
    (¬ cache.DropsRefill call → (cache.next call).OwesHeld) ∧
      (cache.DropsRefill call → ¬ AllHeld (cache.next call).inner.outstanding (cache.next call).held) := by
  cases call with
  | access request =>
    have hends := ends_access h request
    unfold DropsRefill next
    simp only [step] at hreturned ⊢
    generalize hout : cache.access request = out at hends hreturned
    obtain ⟨(_ | _ | _) | value, after⟩ := out
    · refine ⟨fun _ => hends, ?_⟩
      rintro ⟨_, _, _, ⟨⟩, _, _, hok⟩
      rw [hout] at hok
      cases hok
    · obtain ⟨_, herror⟩ := hreturned _ rfl
      cases herror
    · obtain ⟨_, herror⟩ := hreturned _ rfl
      cases herror
    · constructor
      · intro hdrops
        refine hends.1 fun addr hstored hrefills => hdrops ⟨request, addr, value, rfl, hstored, hrefills, ?_⟩
        rw [hout]
      · rintro ⟨_, addr, _, ⟨⟩, hstored, hrefills, _⟩
        exact hends.2 addr hstored hrefills
  | tick =>
    exact ⟨fun _ => ⟨h.outstanding, h.instruction, h.data⟩, fun ⟨_, _, _, hcall, _⟩ => by cases hcall⟩
  | maintain request =>
    have hkeeps : Keeps (cache.maintain request) :=
      Ends.onOk (keeps_ensureMaintenanceRequest h request) fun _ _ hs => keeps_continueMaintenance hs
    exact ⟨fun _ => Ends.of_returned hkeeps hreturned, fun ⟨_, _, _, hcall, _⟩ => by cases hcall⟩

end SplitL1Cache

/-! ## Runs -/

/-- The call returns. -/
def DirectMappedCache.Returns {config : CacheConfig} (cache : DirectMappedCache config β)
    (call : DirectCall) : Prop := Returned (cache.step call).1

/-- Behind the call, every outstanding burst is held. -/
def DirectMappedCache.LeavesAllHeld {config : CacheConfig}
    (cache : DirectMappedCache config (Tracked β)) (call : DirectCall) : Prop :=
  AllHeld (cache.next call).inner.outstanding (cache.next call).held

/-- The call returns. -/
def SplitL1Cache.Returns {instr dat : CacheConfig} (cache : SplitL1Cache instr dat β)
    (call : SplitCall) : Prop := Returned (cache.step call).1

/-- Behind the call, every outstanding burst is held. -/
def SplitL1Cache.LeavesAllHeld {instr dat : CacheConfig}
    (cache : SplitL1Cache instr dat (Tracked β)) (call : SplitCall) : Prop :=
  AllHeld (cache.next call).inner.outstanding (cache.next call).held

/-- **No burst is left behind.** In a run of the unified cache every outstanding burst is held in every
state. In a run of the split cache that is so if and only if no store drops a refill of the instruction
bank. -/
theorem outstanding_held_iff (inner : β) :
    (∀ config calls,
      Along DirectMappedCache.next DirectMappedCache.Returns (.new (Tracked.track inner) config) calls →
        Along DirectMappedCache.next DirectMappedCache.LeavesAllHeld (.new (Tracked.track inner) config)
          calls) ∧
    ∀ instr dat calls,
      Along SplitL1Cache.next SplitL1Cache.Returns (.new (Tracked.track inner) instr dat) calls →
        (Along SplitL1Cache.next SplitL1Cache.LeavesAllHeld (.new (Tracked.track inner) instr dat) calls ↔
          Along SplitL1Cache.next (fun cache call => ¬ cache.DropsRefill call)
            (.new (Tracked.track inner) instr dat) calls) := by
  constructor
  · intro config calls hreturned
    have hnew : (DirectMappedCache.new (.track inner) config).OwesHeld :=
      owes_of_pending_none rfl List.Perm.rfl
    refine Along.of_invariant hnew (fun cache call h hcall => ?_) hreturned
    have hafter : (cache.next call).OwesHeld :=
      Ends.of_returned (DirectMappedCache.keeps_step h call) hcall
    exact ⟨allHeld_of_perm hafter.outstanding, hafter⟩
  · intro instr dat calls hreturned
    have hnew : (SplitL1Cache.new (.track inner) instr dat).OwesHeld :=
      ⟨List.Perm.rfl, CacheBank.oneBurst_of_pending_none rfl, CacheBank.oneBurst_of_pending_none rfl⟩
    refine Along.iff_of_invariant hnew (fun cache call h hcall hdrops => ?_)
      (fun cache call h hcall hdrops => ?_) hreturned
    · have hafter := (SplitL1Cache.step_cases h call hcall).1 hdrops
      exact ⟨allHeld_of_perm hafter.outstanding, hafter⟩
    · exact (SplitL1Cache.step_cases h call hcall).2 (not_not.1 hdrops)

/-- A word of memory that takes a cycle to answer. -/
def slowWord : MemoryMap (LatencyAdapter Ram) 1 where
  devices := #v[⟨⟨0, 4⟩, ⟨.new 0 4, 1⟩⟩]

instance {instr dat : CacheConfig} (cache : SplitL1Cache instr dat β) (call : SplitCall) :
    Decidable (cache.Returns call) := inferInstanceAs (Decidable (Returned _))

/-- A fetch that is repeated until the word is there, and behind it a store to the line: nothing is left
behind. -/
theorem outstanding_held_iff_fetch :
    Along SplitL1Cache.next SplitL1Cache.LeavesAllHeld
      (.new (Tracked.track slowWord) oneWordCache oneWordCache)
      [.access (.fetch32 0), .tick, .access (.fetch32 0), .access (.store8 0 1), .tick,
        .access (.store8 0 1)] := by
  have fetched {cache : SplitL1Cache oneWordCache oneWordCache (Tracked (MemoryMap (LatencyAdapter Ram) 1))} :
      ¬ cache.DropsRefill (.access (.fetch32 0)) := by
    rintro ⟨_, _, _, ⟨⟩, ⟨⟩, -⟩
  have stored {cache : SplitL1Cache oneWordCache oneWordCache (Tracked (MemoryMap (LatencyAdapter Ram) 1))}
      (hidle : ¬ cache.instruction.Refills 0) : ¬ cache.DropsRefill (.access (.store8 0 1)) := by
    rintro ⟨_, _, _, ⟨⟩, ⟨⟩, hrefills, -⟩
    exact hidle hrefills
  refine ((outstanding_held_iff slowWord).2 _ _ _ (by decide +kernel)).2
    ⟨fetched, ?_, fetched, stored (by decide +kernel), ?_, stored (by decide +kernel), trivial⟩ <;>
  · rintro ⟨_, _, _, ⟨⟩, -⟩

/-- A store to the line is done before the fetch is repeated, and the burst of the fetch is left
behind. -/
theorem store_leaves_burst :
    ¬ ∀ calls, Along SplitL1Cache.next SplitL1Cache.Returns
        (.new (Tracked.track slowWord) oneWordCache oneWordCache) calls →
      Along SplitL1Cache.next SplitL1Cache.LeavesAllHeld
        (.new (Tracked.track slowWord) oneWordCache oneWordCache) calls := by
  intro h
  have hall := h [.access (.fetch32 0), .access (.store8 0 1), .tick, .access (.store8 0 1)]
    (by decide +kernel)
  have hburst := hall.2.2.2.1 0
  revert hburst
  decide +kernel

end RvSim
