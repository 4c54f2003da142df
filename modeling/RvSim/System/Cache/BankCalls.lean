import RvSim.System.Cache.Orphans
import RvSim.System.Cache.Replacement

/-!
# The banks of a cache

Whatever a client does with a cache, each bank of the cache is one of a run of bank calls. What holds of
the runs of a bank, holds of the banks of a cache.

## Main definitions

* `CacheBank.Calls`: calls lead from one bank to the other

## Main results

* `DirectMappedCache.exists_bankCalls`, `SplitL1Cache.exists_bankCalls`
-/

namespace RvSim

open Automata

variable {config : CacheConfig} {β : Type} [BurstBus β]

/-- Calls lead from one bank to the other. -/
def CacheBank.Calls (β : Type) [BurstBus β] (bank bank' : CacheBank config) : Prop :=
  ∃ calls : List (BankCall config β), ∀ history,
    (run UsedBank.next ⟨bank, history⟩ calls).bank = bank'

theorem CacheBank.calls_refl (bank : CacheBank config) : bank.Calls β bank := ⟨[], fun _ => rfl⟩

theorem CacheBank.Calls.trans {bank bank' bank'' : CacheBank config} (h : bank.Calls β bank')
    (h' : bank'.Calls β bank'') : bank.Calls β bank'' := by
  obtain ⟨calls, hcalls⟩ := h
  obtain ⟨calls', hcalls'⟩ := h'
  refine ⟨calls ++ calls', fun history => ?_⟩
  rw [run_append, ← hcalls' (run UsedBank.next ⟨bank, history⟩ calls).history, ← hcalls history]

theorem CacheBank.calls_access (bank : CacheBank config) (inner : β) (request : BusRequest) :
    bank.Calls β (bank.access inner request).2.1 := ⟨[.access inner request], fun _ => rfl⟩

theorem CacheBank.calls_continueWriteBackRange (bank : CacheBank config) (inner : β)
    (pending : PendingBankWriteBack config) :
    bank.Calls β (bank.continueWriteBackRange inner pending).2.1 :=
  ⟨[.continueWriteBackRange inner pending], fun _ => rfl⟩

theorem CacheBank.calls_invalidateLine (bank : CacheBank config) (addr : Address) :
    bank.Calls β (bank.invalidateLine addr) :=
  ⟨[.invalidateLineBase (config.lineBase addr)], fun _ => rfl⟩

theorem CacheBank.calls_invalidateRange (bank : CacheBank config) (start : Address) (len : U64) :
    bank.Calls β (bank.invalidateRange start len) := by
  unfold invalidateRange
  generalize lineBasesForRange config start len = lineBases
  induction lineBases generalizing bank with
  | nil => exact bank.calls_refl
  | cons lineBase lineBases ih =>
    have hfirst : bank.Calls β (bank.invalidateLineBase lineBase) :=
      ⟨[.invalidateLineBase lineBase], fun _ => rfl⟩
    exact hfirst.trans (ih _)

variable [CacheMaintenance β]

namespace DirectMappedCache

variable (cache : DirectMappedCache config β)

omit [CacheMaintenance β] in
theorem calls_through {α : Type}
    {call : CacheBank config → β → Except CacheError α × CacheBank config × β}
    (h : cache.bank.Calls β (call cache.bank cache.inner).2.1) :
    cache.bank.Calls β (cache.through call).2.bank := by
  unfold through onBank
  split
  · exact cache.bank.calls_refl
  · exact h

omit [CacheMaintenance β] in
theorem calls_executeBurstBeat (request : BurstRequest) (beatIndex : Nat) :
    cache.bank.Calls β (cache.executeBurstBeat request beatIndex).2.bank := by
  unfold executeBurstBeat
  split
  · exact cache.calls_through (cache.bank.calls_access cache.inner (.fetch32 _))
  · exact cache.calls_through (cache.bank.calls_access cache.inner (.load32 _))
  · exact cache.bank.calls_refl
  · exact cache.calls_through (cache.bank.calls_access cache.inner (.store32 _ _))

omit [CacheMaintenance β] in
theorem calls_advanceActiveBurst : cache.bank.Calls β cache.advanceActiveBurst.2.bank := by
  unfold advanceActiveBurst
  split
  · exact cache.bank.calls_refl
  · rename_i active _
    split
    · exact cache.bank.calls_refl
    · exact cache.bank.calls_refl
    · have hbeat := cache.calls_executeBurstBeat active.request active.beatIndex
      generalize cache.executeBurstBeat active.request active.beatIndex = out at hbeat
      obtain ⟨(error | _ | _) | _, cache'⟩ := out
      · cases error <;> exact hbeat
      · exact hbeat
      · exact hbeat
      · exact hbeat

omit [CacheMaintenance β] in
theorem calls_ensureMaintenanceRequest (request : MaintenanceRequest) :
    cache.bank.Calls β (cache.ensureMaintenanceRequest request).2.bank := by
  unfold ensureMaintenanceRequest
  split
  · split <;> exact cache.bank.calls_refl
  · split
    · exact cache.bank.calls_refl
    · split
      · exact cache.bank.calls_refl
      · exact cache.bank.calls_invalidateRange request.start request.len

theorem calls_continueMaintenance : cache.bank.Calls β cache.continueMaintenance.2.bank := by
  unfold continueMaintenance
  split
  · exact cache.bank.calls_refl
  · rw [bank_maintainInner]
    exact cache.bank.calls_refl
  · rename_i request pending _
    have hrange := cache.bank.calls_continueWriteBackRange cache.inner pending
    generalize cache.bank.continueWriteBackRange cache.inner pending = out at hrange
    obtain ⟨error | _, bank, pending', inner⟩ := out
    · exact hrange
    · dsimp only
      rw [bank_maintainInner]
      exact hrange

theorem calls_next (call : DirectCall) : cache.bank.Calls β (cache.next call).bank := by
  unfold next
  cases call with
  | access request => exact cache.calls_through (cache.bank.calls_access cache.inner request)
  | tick => exact calls_advanceActiveBurst { cache with inner := Bus.tick cache.inner }
  | maintain request =>
    have hensure := cache.calls_ensureMaintenanceRequest request
    simp only [step, maintain, onOk]
    split
    · rename_i cache' hout
      rw [hout] at hensure
      exact hensure.trans cache'.calls_continueMaintenance
    · rename_i error cache' hout
      rw [hout] at hensure
      exact hensure
  | submitBurst request =>
    show cache.bank.Calls β (cache.submitBurst request).2.bank
    unfold submitBurst
    split
    · exact cache.bank.calls_refl
    · split <;> exact cache.bank.calls_refl
  | advanceBurst id =>
    show cache.bank.Calls β (cache.advanceBurst id).2.bank
    have hadvance := cache.calls_advanceActiveBurst
    unfold advanceBurst
    split
    · exact cache.bank.calls_refl
    · generalize cache.advanceActiveBurst = out at hadvance
      obtain ⟨_ | _, cache'⟩ := out <;> exact hadvance
  | takeBurstResponse id =>
    show cache.bank.Calls β (cache.takeBurstResponse id).2.bank
    unfold takeBurstResponse
    split
    · exact cache.bank.calls_refl
    · split <;> exact cache.bank.calls_refl

/-- The bank of a unified cache is one of a run of bank calls. -/
theorem exists_bankCalls (inner : β) (calls : List DirectCall) :
    ∃ bankCalls : List (BankCall config β), (run UsedBank.next {} bankCalls).bank =
      (run DirectMappedCache.next (.new inner config) calls).bank := by
  have hcalls : (CacheBank.new config).Calls β
      (run DirectMappedCache.next (.new inner config) calls).bank :=
    Along.run_invariant
      (I := fun cache : DirectMappedCache config β => (CacheBank.new config).Calls β cache.bank)
      (CacheBank.calls_refl _) (fun cache call h _ => h.trans (cache.calls_next call))
      (Along.trivial_of _ _)
  obtain ⟨bankCalls, hbank⟩ := hcalls
  exact ⟨bankCalls, hbank []⟩

end DirectMappedCache

namespace SplitL1Cache

variable {instr dat : CacheConfig}

/-- Calls lead from the banks of one split cache to those of the other. -/
structure Calls (cache cache' : SplitL1Cache instr dat β) : Prop where
  instruction : cache.instruction.Calls β cache'.instruction
  data : cache.data.Calls β cache'.data

variable (cache : SplitL1Cache instr dat β)

omit [CacheMaintenance β] in
theorem calls_of_eq {cache' : SplitL1Cache instr dat β}
    (hinstruction : cache'.instruction = cache.instruction) (hdata : cache'.data = cache.data) :
    cache.Calls cache' := by
  constructor
  · rw [hinstruction]
    exact cache.instruction.calls_refl
  · rw [hdata]
    exact cache.data.calls_refl

omit [CacheMaintenance β] in
theorem calls_unlessMaintained {α : Type} {out : Except CacheError α × SplitL1Cache instr dat β}
    (h : cache.Calls out.2) : cache.Calls (cache.unlessMaintained out).2 := by
  unfold unlessMaintained
  split
  · exact cache.calls_of_eq rfl rfl
  · exact h

omit [CacheMaintenance β] in
theorem calls_load {α : Type} (call : CacheBank dat → β → Except CacheError α × CacheBank dat × β)
    (h : cache.data.Calls β (call cache.data cache.inner).2.1) : cache.Calls (cache.load call).2 :=
  cache.calls_unlessMaintained ⟨cache.instruction.calls_refl, h⟩

omit [CacheMaintenance β] in
theorem calls_store {α : Type} (addr : Address)
    (call : CacheBank dat → β → Except CacheError α × CacheBank dat × β)
    (h : cache.data.Calls β (call cache.data cache.inner).2.1) :
    cache.Calls (cache.store addr call).2 := by
  refine cache.calls_unlessMaintained ?_
  unfold onData
  generalize call cache.data cache.inner = out at h
  obtain ⟨error | value, data, inner⟩ := out
  · exact ⟨cache.instruction.calls_refl, h⟩
  · exact ⟨cache.instruction.calls_invalidateLine addr, h⟩

omit [CacheMaintenance β] in
theorem calls_access (request : BusRequest) : cache.Calls (cache.access request).2 := by
  have hdata := cache.data.calls_access cache.inner request
  cases request with
  | fetch32 addr =>
    exact cache.calls_unlessMaintained
      ⟨cache.instruction.calls_access cache.inner (.fetch32 addr), cache.data.calls_refl⟩
  | load8 addr => exact cache.calls_load (·.load8 · addr) hdata
  | load16 addr => exact cache.calls_load (·.load16 · addr) hdata
  | load32 addr => exact cache.calls_load (·.load32 · addr) hdata
  | store8 addr value => exact cache.calls_store addr (·.store8 · addr value) hdata
  | store16 addr value => exact cache.calls_store addr (·.store16 · addr value) hdata
  | store32 addr value => exact cache.calls_store addr (·.store32 · addr value) hdata

omit [CacheMaintenance β] in
theorem calls_ensureMaintenanceRequest (request : MaintenanceRequest) :
    cache.Calls (cache.ensureMaintenanceRequest request).2 := by
  unfold ensureMaintenanceRequest
  split
  · split <;> exact cache.calls_of_eq rfl rfl
  · split
    · exact cache.calls_of_eq rfl rfl
    · split
      · exact cache.calls_of_eq rfl rfl
      · exact ⟨cache.instruction.calls_invalidateRange request.start request.len,
          cache.data.calls_invalidateRange request.start request.len⟩

theorem calls_maintainInner (request : MaintenanceRequest) :
    cache.Calls (cache.maintainInner request).2 := by
  unfold maintainInner
  rcases request.call cache.inner with ⟨error | _, inner⟩
  · cases error <;> exact cache.calls_of_eq rfl rfl
  · exact cache.calls_of_eq rfl rfl

theorem calls_continueMaintenance : cache.Calls cache.continueMaintenance.2 := by
  unfold continueMaintenance
  split
  · exact cache.calls_of_eq rfl rfl
  · exact cache.calls_maintainInner _
  · rename_i request pending _
    have hrange := cache.data.calls_continueWriteBackRange cache.inner pending
    generalize cache.data.continueWriteBackRange cache.inner pending = out at hrange
    obtain ⟨error | _, data, pending', inner⟩ := out
    · exact ⟨cache.instruction.calls_refl, hrange⟩
    · have hinner := calls_maintainInner { cache with data, inner } request
      exact ⟨hinner.instruction, hrange.trans hinner.data⟩

theorem calls_next (call : SplitCall) : cache.Calls (cache.next call) := by
  unfold next
  cases call with
  | access request => exact cache.calls_access request
  | tick => exact cache.calls_of_eq rfl rfl
  | maintain request =>
    have hensure := cache.calls_ensureMaintenanceRequest request
    simp only [step, maintain, onOk]
    split
    · rename_i cache' hout
      rw [hout] at hensure
      have hcontinue := cache'.calls_continueMaintenance
      exact ⟨hensure.instruction.trans hcontinue.instruction, hensure.data.trans hcontinue.data⟩
    · rename_i error cache' hout
      rw [hout] at hensure
      exact hensure

/-- The banks of a split cache are those of runs of bank calls. -/
theorem exists_bankCalls (inner : β) (calls : List SplitCall) :
    (∃ bankCalls : List (BankCall instr β), (run UsedBank.next {} bankCalls).bank =
      (run SplitL1Cache.next (.new inner instr dat) calls).instruction) ∧
    ∃ bankCalls : List (BankCall dat β), (run UsedBank.next {} bankCalls).bank =
      (run SplitL1Cache.next (.new inner instr dat) calls).data := by
  have hcalls : (SplitL1Cache.new inner instr dat).Calls
      (run SplitL1Cache.next (.new inner instr dat) calls) := by
    refine Along.run_invariant (I := (SplitL1Cache.new inner instr dat).Calls) (calls_of_eq _ rfl rfl)
      (fun cache call h _ => ?_) (Along.trivial_of _ _)
    have hnext := cache.calls_next call
    exact ⟨h.instruction.trans hnext.instruction, h.data.trans hnext.data⟩
  obtain ⟨⟨instructionCalls, hinstruction⟩, dataCalls, hdata⟩ := hcalls
  exact ⟨⟨instructionCalls, hinstruction []⟩, dataCalls, hdata []⟩

end SplitL1Cache

end RvSim
