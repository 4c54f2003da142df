import RvSim.System.Cache.Orphans
import RvSim.System.Cache.Ranges

/-!
# Maintenance that fails

A maintenance request has two stages: the bank writes its dirty lines back, then the next level does its
part. An error of the next level ends the request. An error of a write-back leaves it in progress, and the
cache goes on answering that it is busy.

## Main definitions

* `CacheBank.DirtyLine`: a line of the bank that has yet to be written back
* `CacheBank.WriteBackFails`: the write-back of a line of a range fails
* `DirectMappedCache.Released`, `SplitL1Cache.Released`: nothing is refused because of maintenance

## Main results

* `CacheBank.writeBackFails_of_error`: the errors of the first stage
* `invalidatesAtOnce_run`: an invalidation leaves nothing of the bank to a later call
* `maintenance_released_iff`: which failed requests a cache gets rid of
-/

namespace RvSim

open Automata

/-! ## Write-backs that fail -/

namespace CacheBank

variable {config : CacheConfig}

/-- The line is in the bank, valid and dirty. -/
def DirtyLine (bank : CacheBank config) (lineBase : Address) : Prop :=
  ∃ way, bank.lookupWay (config.decode lineBase) = some way ∧
    (bank.line (config.decode lineBase).setIndex way).valid = true ∧
    (bank.line (config.decode lineBase).setIndex way).dirty = true

theorem dirtyLine_of_pendingWriteBack {bank : CacheBank config} {lineBase : Address}
    {writeBack : PendingWriteBack config} (h : bank.pendingWriteBackForLine lineBase = some writeBack) :
    writeBack.lineBase = lineBase ∧ bank.DirtyLine lineBase := by
  unfold pendingWriteBackForLine at h
  split at h
  · dsimp only at h
    cases hlookup : bank.lookupWay (config.decode lineBase) with
    | none =>
      rw [hlookup] at h
      cases h
    | some way =>
      rw [hlookup] at h
      dsimp only at h
      split at h
      · rename_i hdirty
        cases h
        exact ⟨rfl, way, hlookup, hdirty.1, hdirty.2⟩
      · cases h
  · cases h

variable {β : Type} [BurstBus β]

/-! ### The lines of a range -/

/-- The lines are written back in order up to one whose write-back ends with the error. -/
inductive LinesFail (error : CacheError) (lineBase : Address) :
    CacheBank config → β → List Address → Prop
  | here {bank : CacheBank config} {inner : β} {writeBack : PendingWriteBack config}
      (lineBases : List Address) :
      bank.pendingWriteBackForLine lineBase = some writeBack →
      (progressWriteBack inner writeBack).1 = .error error →
      LinesFail error lineBase bank inner (lineBase :: lineBases)
  | clean {bank : CacheBank config} {inner : β} {first : Address} {lineBases : List Address} :
      bank.pendingWriteBackForLine first = none →
      LinesFail error lineBase bank inner lineBases →
      LinesFail error lineBase bank inner (first :: lineBases)
  | written {bank : CacheBank config} {inner : β} {writeBack : PendingWriteBack config}
      {first : Address} {lineBases : List Address} :
      bank.pendingWriteBackForLine first = some writeBack →
      (progressWriteBack inner writeBack).1 = .ok (.ready ()) →
      LinesFail error lineBase (bank.completeWriteBackForLine first)
        (progressWriteBack inner writeBack).2.2 lineBases →
      LinesFail error lineBase bank inner (first :: lineBases)

/-- The write-back of a line of the range ends with the error: the one on its way, or one of those that
are left. -/
inductive WriteBackFails (error : CacheError) (lineBase : Address) (bank : CacheBank config) (inner : β)
    (pending : PendingBankWriteBack config) : Prop
  | active {writeBack : PendingWriteBack config} :
      pending.active = some writeBack → writeBack.lineBase = lineBase →
      (progressWriteBack inner writeBack).1 = .error error →
      WriteBackFails error lineBase bank inner pending
  | left {writeBack : PendingWriteBack config} :
      pending.active = some writeBack →
      (progressWriteBack inner writeBack).1 = .ok (.ready ()) →
      LinesFail error lineBase (bank.completeWriteBackForLine writeBack.lineBase)
        (progressWriteBack inner writeBack).2.2 pending.lineBases →
      WriteBackFails error lineBase bank inner pending
  | fresh :
      pending.active = none → LinesFail error lineBase bank inner pending.lineBases →
      WriteBackFails error lineBase bank inner pending

/-- The line on its way is dirty. -/
def ActiveDirty (bank : CacheBank config) (pending : PendingBankWriteBack config) : Prop :=
  ∀ writeBack, pending.active = some writeBack → bank.DirtyLine writeBack.lineBase

/-- An error that is not a busy bus is that of a write-back. -/
theorem linesFail_of_error {error : CacheError} (hbusy : ∀ n, error ≠ .bus (.busy n))
    {lineBases : List Address} {bank : CacheBank config} {inner : β}
    (h : (bank.writeBackLines inner lineBases).1 = .error error) :
    ∃ lineBase, LinesFail error lineBase bank inner lineBases := by
  induction lineBases generalizing bank inner with
  | nil => cases h
  | cons first lineBases ih =>
    unfold writeBackLines at h
    cases hpending : bank.pendingWriteBackForLine first with
    | none =>
      rw [hpending] at h
      obtain ⟨lineBase, hfail⟩ := ih h
      exact ⟨lineBase, .clean hpending hfail⟩
    | some writeBack =>
      rw [hpending] at h
      dsimp only at h
      rcases hprogress : progressWriteBack inner writeBack with ⟨error' | (n | _), after, inner'⟩
      · rw [hprogress] at h
        obtain rfl : error' = error := Except.error.inj h
        exact ⟨first, .here lineBases hpending (congrArg Prod.fst hprogress)⟩
      · rw [hprogress] at h
        exact absurd (Except.error.inj h).symm (hbusy n)
      · rw [hprogress] at h
        obtain ⟨lineBase, hfail⟩ := ih h
        refine ⟨lineBase, .written hpending (congrArg Prod.fst hprogress) ?_⟩
        rw [hprogress]
        exact hfail

/-- The line whose write-back failed is dirty, and on its way. -/
theorem LinesFail.error {error : CacheError} {lineBase : Address} {lineBases : List Address}
    {bank : CacheBank config} {inner : β} (h : LinesFail error lineBase bank inner lineBases) :
    (bank.writeBackLines inner lineBases).1 = .error error ∧
      (bank.writeBackLines inner lineBases).2.1.DirtyLine lineBase := by
  induction h with
  | here lineBases hpending hprogress =>
    rename_i bank inner writeBack
    unfold writeBackLines
    rw [hpending]
    dsimp only
    rcases hout : progressWriteBack inner writeBack with ⟨error' | (n | _), after, inner'⟩
    · rw [hout] at hprogress
      obtain rfl : error' = error := Except.error.inj hprogress
      exact ⟨rfl, (dirtyLine_of_pendingWriteBack hpending).2⟩
    · rw [hout] at hprogress
      cases hprogress
    · rw [hout] at hprogress
      cases hprogress
  | clean hpending hfail ih =>
    unfold writeBackLines
    rw [hpending]
    exact ih
  | written hpending hprogress hfail ih =>
    rename_i bank inner writeBack first lineBases
    unfold writeBackLines
    rw [hpending]
    dsimp only
    generalize progressWriteBack inner writeBack = out at hprogress ih ⊢
    obtain ⟨_, after, inner'⟩ := out
    subst hprogress
    exact ih

/-- What the write-back of lines leaves alone, and what is on its way behind it. -/
theorem writeBackLines_cases (lineBases : List Address) (bank : CacheBank config) (inner : β) :
    (bank.writeBackLines inner lineBases).2.1.pending = bank.pending ∧
      ActiveDirty (bank.writeBackLines inner lineBases).2.1
        (bank.writeBackLines inner lineBases).2.2.1 := by
  induction lineBases generalizing bank inner with
  | nil => exact ⟨rfl, fun _ h => by cases h⟩
  | cons first lineBases ih =>
    unfold writeBackLines
    cases hpending : bank.pendingWriteBackForLine first with
    | none => exact ih bank inner
    | some writeBack =>
      obtain ⟨hbase, hdirty⟩ := dirtyLine_of_pendingWriteBack hpending
      have hactive : bank.ActiveDirty
          ⟨lineBases, some (progressWriteBack inner writeBack).2.1⟩ := by
        rintro _ ⟨⟩
        show bank.DirtyLine writeBack.lineBase
        rwa [hbase]
      dsimp only
      rcases hprogress : progressWriteBack inner writeBack with ⟨error' | (n | _), after, inner'⟩
      · rw [hprogress] at hactive
        exact ⟨rfl, hactive⟩
      · rw [hprogress] at hactive
        exact ⟨rfl, hactive⟩
      · obtain ⟨hbank, hafter⟩ := ih (bank.completeWriteBackForLine first) inner'
        exact ⟨hbank.trans (pending_completeWriteBackForLine bank first), hafter⟩

theorem writeBackFails_of_error {error : CacheError} (hbusy : ∀ n, error ≠ .bus (.busy n))
    {bank : CacheBank config} {inner : β} {pending : PendingBankWriteBack config}
    (h : (bank.continueWriteBackRange inner pending).1 = .error error) :
    ∃ lineBase, WriteBackFails error lineBase bank inner pending := by
  unfold continueWriteBackRange at h
  cases hactive : pending.active with
  | none =>
    rw [hactive] at h
    obtain ⟨lineBase, hfail⟩ := linesFail_of_error hbusy h
    exact ⟨lineBase, .fresh hactive hfail⟩
  | some writeBack =>
    rw [hactive] at h
    dsimp only at h
    rcases hprogress : progressWriteBack inner writeBack with ⟨error' | (n | _), after, inner'⟩
    · rw [hprogress] at h
      obtain rfl : error' = error := Except.error.inj h
      exact ⟨_, .active hactive rfl (congrArg Prod.fst hprogress)⟩
    · rw [hprogress] at h
      exact absurd (Except.error.inj h).symm (hbusy n)
    · rw [hprogress] at h
      obtain ⟨lineBase, hfail⟩ := linesFail_of_error hbusy h
      refine ⟨lineBase, .left hactive (congrArg Prod.fst hprogress) ?_⟩
      rw [hprogress]
      exact hfail

theorem WriteBackFails.error {error : CacheError} {lineBase : Address} {bank : CacheBank config}
    {inner : β} {pending : PendingBankWriteBack config} (hdirty : bank.ActiveDirty pending)
    (h : WriteBackFails error lineBase bank inner pending) :
    (bank.continueWriteBackRange inner pending).1 = .error error ∧
      (bank.continueWriteBackRange inner pending).2.1.DirtyLine lineBase := by
  unfold continueWriteBackRange
  cases h with
  | active hactive hbase hprogress =>
    rename_i writeBack
    have hline := hdirty writeBack hactive
    rw [hbase] at hline
    rw [hactive]
    dsimp only
    generalize progressWriteBack inner writeBack = out at hprogress ⊢
    obtain ⟨_, after, inner'⟩ := out
    subst hprogress
    exact ⟨rfl, hline⟩
  | left hactive hprogress hfail =>
    rename_i writeBack
    rw [hactive]
    dsimp only
    generalize progressWriteBack inner writeBack = out at hprogress hfail ⊢
    obtain ⟨_, after, inner'⟩ := out
    subst hprogress
    exact hfail.error
  | fresh hactive hfail =>
    rw [hactive]
    exact hfail.error

/-- What the write-back of a range leaves alone, and what is on its way behind it. -/
theorem continueWriteBackRange_cases {bank : CacheBank config}
    {pending : PendingBankWriteBack config} (hdirty : bank.ActiveDirty pending) (inner : β) :
    (bank.continueWriteBackRange inner pending).2.1.pending = bank.pending ∧
      ActiveDirty (bank.continueWriteBackRange inner pending).2.1
        (bank.continueWriteBackRange inner pending).2.2.1 := by
  unfold continueWriteBackRange
  cases hactive : pending.active with
  | none => exact writeBackLines_cases _ _ _
  | some writeBack =>
    have hafter : bank.ActiveDirty
        { pending with active := some (progressWriteBack inner writeBack).2.1 } := by
      rintro _ ⟨⟩
      exact hdirty writeBack hactive
    dsimp only
    rcases hprogress : progressWriteBack inner writeBack with ⟨error' | (n | _), after, inner'⟩
    · rw [hprogress] at hafter
      exact ⟨rfl, hafter⟩
    · rw [hprogress] at hafter
      exact ⟨rfl, hafter⟩
    · obtain ⟨hbank, hlines⟩ :=
        writeBackLines_cases pending.lineBases (bank.completeWriteBackForLine writeBack.lineBase) inner'
      exact ⟨hbank.trans (pending_completeWriteBackForLine bank _), hlines⟩

end CacheBank

/-! ## Requests -/

section Requests

variable {config : CacheConfig} {β : Type}

/-- The stage of a request: that of the request in progress, or the one a new request starts with. -/
def stageOf (maintenance : Option (PendingMaintenance config)) (request : MaintenanceRequest) :
    MaintenanceStage config :=
  match maintenance with
  | some pending => pending.stage
  | none =>
    match request.kind with
    | .writeBack =>
      .writeBack { lineBases := CacheBank.lineBasesForRange config request.start request.len }
    | .invalidate => .inner

/-- While maintenance is in progress, the bank has no other operation pending, the line on its way is dirty,
and an invalidation is done with the bank. -/
structure Held (maintenance : Option (PendingMaintenance config)) (bank : CacheBank config) : Prop where
  idle : maintenance.isSome = true → bank.pending = none
  dirty : ∀ request pending, maintenance = some ⟨request, .writeBack pending⟩ → bank.ActiveDirty pending
  once : InvalidatesAtOnce maintenance

theorem held_none (bank : CacheBank config) : Held none bank :=
  ⟨fun h => (by cases h), fun _ _ h => (by cases h), nofun⟩

theorem held_inner {bank : CacheBank config} (h : bank.pending = none) (request : MaintenanceRequest) :
    Held (some ⟨request, .inner⟩) bank := ⟨fun _ => h, fun _ _ h => (by cases h), nofun⟩

theorem held_writeBack {bank : CacheBank config} (h : bank.pending = none) {request : MaintenanceRequest}
    (hkind : request.kind ≠ .invalidate) {pending : PendingBankWriteBack config}
    (hdirty : bank.ActiveDirty pending) : Held (some ⟨request, .writeBack pending⟩) bank :=
  ⟨fun _ => h, fun _ _ h => by cases h; exact hdirty, fun _ _ h => by cases h; exact hkind⟩

variable [BurstBus β] [CacheMaintenance β]

/-- The write-back of the line, in the first stage, ends with the error. -/
def FailsAt (stage : MaintenanceStage config) (bank : CacheBank config) (inner : β) (error : CacheError)
    (lineBase : Address) : Prop :=
  ∃ pending, stage = .writeBack pending ∧ CacheBank.WriteBackFails error lineBase bank inner pending

omit [CacheMaintenance β] in
theorem not_failsAt_inner (bank : CacheBank config) (inner : β) (error : CacheError) (lineBase : Address) :
    ¬ FailsAt .inner bank inner error lineBase := fun ⟨_, hstage, _⟩ => nomatch hstage

omit [CacheMaintenance β] in
/-- A bank that differs does so in the second stage only. -/
theorem failsAt_congr {stage : MaintenanceStage config} {bank bank' : CacheBank config} {inner inner' : β}
    (hbank : bank = bank' ∨ stage = .inner) (hinner : inner = inner') {error : CacheError}
    {lineBase : Address} :
    FailsAt stage bank inner error lineBase ↔ FailsAt stage bank' inner' error lineBase := by
  rw [hinner]
  rcases hbank with hbank | hstage
  · rw [hbank]
  · rw [hstage]
    exact iff_of_false (not_failsAt_inner _ _ _ _) (not_failsAt_inner _ _ _ _)

/-- The part both caches have of a step of maintenance: what becomes of the bank, the next level and the
request in progress. -/
def progressInner (config : CacheConfig) (request : MaintenanceRequest) (inner : β) :
    Except CacheError Unit × β × Option (PendingMaintenance config) :=
  match request.call inner with
  | (.ok (), inner) => (.ok (), inner, none)
  | (.error (.busy remainingCycles), inner) =>
    (.error (.bus (.busy remainingCycles)), inner, some ⟨request, .inner⟩)
  | (.error error, inner) => (.error (.bus error), inner, none)

/-- A step of the maintenance of a bank, from either stage. -/
def progressMaintenance (request : MaintenanceRequest) (stage : MaintenanceStage config)
    (bank : CacheBank config) (inner : β) :
    Except CacheError Unit × CacheBank config × β × Option (PendingMaintenance config) :=
  match stage with
  | .inner =>
    let out := progressInner config request inner
    (out.1, bank, out.2)
  | .writeBack pending =>
    match bank.continueWriteBackRange inner pending with
    | (.ok (), bank, _, inner) =>
      let out := progressInner config request inner
      (out.1, bank, out.2)
    | (.error error, bank, pending, inner) =>
      (.error error, bank, inner, some ⟨request, .writeBack pending⟩)

omit [BurstBus β] in
/-- The next level ends a request, unless it is busy. -/
theorem progressInner_cases (config : CacheConfig) (request : MaintenanceRequest) (inner : β) :
    (∃ n, (progressInner config request inner).1 = .error (.bus (.busy n)) ∧
        (progressInner config request inner).2.2 = some ⟨request, .inner⟩) ∨
      (progressInner config request inner).2.2 = none := by
  unfold progressInner
  rcases request.call inner with ⟨error | _, inner⟩
  · cases error with
    | busy n => exact .inl ⟨n, rfl, rfl⟩
    | _ => exact .inr rfl
  · exact .inr rfl

omit [BurstBus β] in
/-- The second stage of a request keeps nothing in progress when it fails. -/
theorem progressInner_ends {bank : CacheBank config} (hpending : bank.pending = none)
    (request : MaintenanceRequest) (inner : β) :
    Held (progressInner config request inner).2.2 bank ∧
      ∀ error, (∀ n, error ≠ .bus (.busy n)) →
        (progressInner config request inner).1 = .error error →
          (progressInner config request inner).2.2 = none := by
  rcases progressInner_cases config request inner with ⟨n, hbusy, hkept⟩ | hnone
  · rw [hkept]
    exact ⟨held_inner hpending request, fun error herror hend =>
      absurd (Except.error.inj (hend.symm.trans hbusy)) (herror n)⟩
  · rw [hnone]
    exact ⟨held_none bank, fun _ _ _ => rfl⟩

/-- **What a step of maintenance leaves in progress when it fails**: nothing, unless the write-back of a line
failed; this line is still dirty. -/
theorem progressMaintenance_cases {bank : CacheBank config} (hpending : bank.pending = none)
    {stage : MaintenanceStage config} {request : MaintenanceRequest}
    (hstage : ∀ pending, stage = .writeBack pending →
      bank.ActiveDirty pending ∧ request.kind ≠ .invalidate) (inner : β) :
    (progressMaintenance request stage bank inner).2.1.pending = none ∧
      Held (progressMaintenance request stage bank inner).2.2.2
        (progressMaintenance request stage bank inner).2.1 ∧
      ∀ error, (∀ n, error ≠ .bus (.busy n)) →
        (progressMaintenance request stage bank inner).1 = .error error →
          ((progressMaintenance request stage bank inner).2.2.2 = none ↔
              ∀ lineBase, ¬ FailsAt stage bank inner error lineBase) ∧
            ∀ lineBase, FailsAt stage bank inner error lineBase →
              (progressMaintenance request stage bank inner).2.1.DirtyLine lineBase := by
  cases stage with
  | inner =>
    obtain ⟨hheld, hnone⟩ := progressInner_ends hpending request inner
    have hfree := not_failsAt_inner bank inner
    exact ⟨hpending, hheld, fun error hbusy hend =>
      ⟨iff_of_true (hnone error hbusy hend) (hfree error), fun _ h => (hfree _ _ h).elim⟩⟩
  | writeBack pending =>
    obtain ⟨hdirty, hkind⟩ := hstage pending rfl
    obtain ⟨hbank, hactive⟩ := CacheBank.continueWriteBackRange_cases hdirty inner
    -- a write-back that fails stops at a line, which stays dirty
    have hfails (error : CacheError) (lineBase : Address)
        (h : FailsAt (.writeBack pending) bank inner error lineBase) :
        (bank.continueWriteBackRange inner pending).1 = .error error ∧
          (bank.continueWriteBackRange inner pending).2.1.DirtyLine lineBase := by
      obtain ⟨_, ⟨⟩, hfail⟩ := h
      exact hfail.error hdirty
    have herror (error : CacheError) (hbusy : ∀ n, error ≠ .bus (.busy n))
        (hend : (bank.continueWriteBackRange inner pending).1 = .error error) :=
      CacheBank.writeBackFails_of_error hbusy hend
    unfold progressMaintenance
    dsimp only
    generalize bank.continueWriteBackRange inner pending = out at hbank hactive hfails herror
    rw [hpending] at hbank
    obtain ⟨error | _, bank', pending', inner'⟩ := out
    · refine ⟨hbank, held_writeBack hbank hkind hactive, ?_⟩
      rintro _ hbusy ⟨⟩
      obtain ⟨lineBase, hfail⟩ := herror error hbusy rfl
      exact ⟨iff_of_false (fun h => nomatch h) fun h => h lineBase ⟨pending, rfl, hfail⟩,
        fun lineBase h => (hfails error lineBase h).2⟩
    · -- the first stage is done
      obtain ⟨hheld, hnone⟩ := progressInner_ends hbank request inner'
      refine ⟨hbank, hheld, fun error hbusy hend => ?_⟩
      have hfree (lineBase : Address) : ¬ FailsAt (.writeBack pending) bank inner error lineBase :=
        fun h => nomatch (hfails error lineBase h).1
      exact ⟨iff_of_true (hnone error hbusy hend) hfree, fun lineBase h => (hfree lineBase h).elim⟩

end Requests

section Caches

variable {β : Type} [BurstBus β] [CacheMaintenance β]

/-! ### The unified cache -/

namespace DirectMappedCache

variable {config : CacheConfig} {cache : DirectMappedCache config β}

/-- Nothing is refused because of maintenance: every access goes to the bank, and every maintenance request
is taken up. -/
structure Released (cache : DirectMappedCache config β) : Prop where
  maintenance : cache.maintenance = none
  access : ∀ request, cache.access request = cache.onBank (cache.bank.access cache.inner request)
  request : ∀ request, (cache.ensureMaintenanceRequest request).1 = .ok ()

/-- What holds of a cache at all times. -/
structure Sound (cache : DirectMappedCache config β) : Prop where
  held : Held cache.maintenance cache.bank
  idle : cache.maintenance.isSome = true → cache.activeBurst = none

omit [CacheMaintenance β] in
/-- A cache with nothing else in progress is released as soon as no request is. -/
theorem released_iff (hburst : cache.activeBurst = none) (hpending : cache.bank.pending = none) :
    cache.Released ↔ cache.maintenance = none := by
  refine ⟨Released.maintenance, fun hmaintenance => ⟨hmaintenance, fun request => ?_, fun request => ?_⟩⟩
  · unfold access through
    rw [hmaintenance]
    rfl
  · unfold ensureMaintenanceRequest CacheBank.hasPendingActivity
    rw [hmaintenance, hburst, hpending]
    cases request.kind <;> rfl

omit [CacheMaintenance β] in
/-- A request that is not kept waiting is in progress. -/
theorem ensure_cases (h : cache.Sound) (request : MaintenanceRequest) :
    (∃ n, cache.ensureMaintenanceRequest request = (.error (.bus (.busy n)), cache)) ∨
      ∃ after, cache.ensureMaintenanceRequest request = (.ok (), after) ∧ after.Sound ∧
        after.maintenance = some ⟨request, stageOf cache.maintenance request⟩ ∧
        after.inner = cache.inner ∧
        (after.bank = cache.bank ∨ stageOf cache.maintenance request = .inner) := by
  unfold ensureMaintenanceRequest
  cases hmaintenance : cache.maintenance with
  | some pending =>
    dsimp only
    split
    · rename_i hsame
      refine .inr ⟨cache, rfl, h, ?_, rfl, .inl rfl⟩
      rw [hmaintenance, ← hsame]
      rfl
    · exact .inl ⟨_, rfl⟩
  | none =>
    dsimp only
    split
    · exact .inl ⟨_, rfl⟩
    · rename_i hidle
      simp only [CacheBank.hasPendingActivity, Bool.or_eq_true, not_or, Bool.not_eq_true,
        Option.isSome_eq_false_iff, Option.isNone_iff_eq_none] at hidle
      obtain ⟨hburst, hpending⟩ := hidle
      unfold stageOf
      cases hkind : request.kind with
      | writeBack =>
        exact .inr ⟨_, rfl, ⟨held_writeBack hpending (by rw [hkind]; decide) (fun _ h => by cases h),
          fun _ => hburst⟩, rfl, rfl, .inl rfl⟩
      | invalidate =>
        have hafter := CacheBank.pending_invalidateRange hpending request.start request.len
        exact .inr ⟨_, rfl, ⟨held_inner hafter request, fun _ => hburst⟩, rfl, rfl, .inr rfl⟩

/-- The request in progress goes a step on. -/
theorem continueMaintenance_eq {request : MaintenanceRequest} {stage : MaintenanceStage config}
    (h : cache.maintenance = some ⟨request, stage⟩) :
    cache.continueMaintenance =
      ((progressMaintenance request stage cache.bank cache.inner).1,
        { cache with
          bank := (progressMaintenance request stage cache.bank cache.inner).2.1
          inner := (progressMaintenance request stage cache.bank cache.inner).2.2.1
          maintenance := (progressMaintenance request stage cache.bank cache.inner).2.2.2 }) := by
  have hinner (cache : DirectMappedCache config β) : cache.maintainInner request =
      ((progressInner config request cache.inner).1,
        { cache with
          inner := (progressInner config request cache.inner).2.1
          maintenance := (progressInner config request cache.inner).2.2 }) := by
    unfold maintainInner progressInner
    rcases request.call cache.inner with ⟨error | _, _⟩
    · cases error <;> rfl
    · rfl
  unfold continueMaintenance progressMaintenance
  rw [h]
  cases stage with
  | inner => exact hinner cache
  | writeBack pending =>
    dsimp only
    rcases cache.bank.continueWriteBackRange cache.inner pending with ⟨_ | _, bank, _, inner⟩
    · rfl
    · exact hinner { cache with bank, inner }

/-- How a request ends when it fails. -/
theorem maintain_cases (h : cache.Sound) (request : MaintenanceRequest) :
    (cache.maintain request).2.Sound ∧
      ∀ error, (∀ n, error ≠ .bus (.busy n)) → (cache.maintain request).1 = .error error →
        ((cache.maintain request).2.Released ↔ ∀ lineBase,
            ¬ FailsAt (stageOf cache.maintenance request) cache.bank cache.inner error lineBase) ∧
          ∀ lineBase, FailsAt (stageOf cache.maintenance request) cache.bank cache.inner error lineBase →
            (cache.maintain request).2.bank.DirtyLine lineBase := by
  unfold maintain
  rcases cache.ensure_cases h request with
    ⟨n, hwait⟩ | ⟨after, hok, hsound, hstage, hinner, hbank⟩
  · rw [hwait]
    exact ⟨h, fun error hbusy hend => absurd (Except.error.inj hend).symm (hbusy n)⟩
  · have hsome : after.maintenance.isSome = true := by rw [hstage]; rfl
    obtain ⟨hpending, hheld, hends⟩ := progressMaintenance_cases (hsound.held.idle hsome)
      (fun pending (heq : stageOf cache.maintenance request = .writeBack pending) =>
        ⟨hsound.held.dirty request pending (by rw [hstage, heq]),
          hsound.held.once request pending (by rw [hstage, heq])⟩) after.inner
    have hburst := hsound.idle hsome
    have hcontinue : (onOk (.ok (), after) fun (_ : Unit) cache => cache.continueMaintenance) = _ :=
      continueMaintenance_eq hstage
    rw [hok, hcontinue]
    refine ⟨⟨hheld, fun _ => hburst⟩, fun error hbusy hend => ?_⟩
    obtain ⟨hnone, hdirty⟩ := hends error hbusy hend
    simp only [failsAt_congr hbank hinner] at hnone hdirty
    refine ⟨?_, hdirty⟩
    rw [← hnone]
    exact released_iff hburst hpending

/-! #### The other calls -/

omit [CacheMaintenance β] in
theorem maintenance_through {α : Type} (cache : DirectMappedCache config β)
    (call : CacheBank config → β → Except CacheError α × CacheBank config × β) :
    (cache.through call).2.maintenance = cache.maintenance := by
  unfold through
  split <;> rfl

omit [CacheMaintenance β] in
theorem maintenance_executeBurstBeat (cache : DirectMappedCache config β) (request : BurstRequest)
    (beatIndex : Nat) : (cache.executeBurstBeat request beatIndex).2.maintenance = cache.maintenance := by
  unfold executeBurstBeat
  split
  · exact cache.maintenance_through _
  · exact cache.maintenance_through _
  · rfl
  · exact cache.maintenance_through _

omit [CacheMaintenance β] in
theorem maintenance_advanceActiveBurst (cache : DirectMappedCache config β) :
    cache.advanceActiveBurst.2.maintenance = cache.maintenance := by
  unfold advanceActiveBurst
  cases cache.activeBurst with
  | none => rfl
  | some active =>
    have hbeat := cache.maintenance_executeBurstBeat active.request active.beatIndex
    dsimp only
    split
    · rfl
    · rfl
    · generalize cache.executeBurstBeat active.request active.beatIndex = out at hbeat
      obtain ⟨(error | _ | _) | _, after⟩ := out
      · cases error <;> exact hbeat
      · exact hbeat
      · exact hbeat
      · exact hbeat

omit [BurstBus β] [CacheMaintenance β] in
theorem sound_of_not_maintained (h : cache.maintenance = none) : cache.Sound :=
  ⟨by rw [h]; exact held_none _, fun hsome => by rw [h] at hsome; cases hsome⟩

omit [CacheMaintenance β] in
theorem sound_through {α : Type} (h : cache.Sound)
    (call : CacheBank config → β → Except CacheError α × CacheBank config × β) :
    (cache.through call).2.Sound := by
  cases hmaintenance : cache.maintenance with
  | none =>
    refine sound_of_not_maintained ?_
    rw [maintenance_through, hmaintenance]
  | some _ =>
    unfold through
    rw [hmaintenance]
    exact h

omit [CacheMaintenance β] in
theorem sound_advanceActiveBurst (h : cache.Sound) : cache.advanceActiveBurst.2.Sound := by
  cases hmaintenance : cache.maintenance with
  | none =>
    refine sound_of_not_maintained ?_
    rw [maintenance_advanceActiveBurst, hmaintenance]
  | some _ =>
    unfold advanceActiveBurst
    rw [h.idle (by rw [hmaintenance]; rfl)]
    exact h

theorem sound_step (h : cache.Sound) (call : DirectCall) : (cache.next call).Sound := by
  cases call with
  | access request =>
    exact sound_through h (·.access · request)
  | tick =>
    -- the tick of the lower bus leaves the cache, and an active burst is advanced
    have hticked : Sound { cache with inner := Bus.tick cache.inner } := ⟨h.held, h.idle⟩
    exact sound_advanceActiveBurst hticked
  | maintain request => exact (maintain_cases h request).1
  | submitBurst request =>
    show (cache.submitBurst request).2.Sound
    unfold submitBurst
    split
    · exact h
    · rename_i hbusy
      split
      · exact h
      · -- a burst is accepted only when no maintenance is in progress
        refine sound_of_not_maintained ?_
        simp only [isBusy, Bool.or_eq_true, not_or, Bool.not_eq_true, Option.isSome_eq_false_iff,
          Option.isNone_iff_eq_none] at hbusy
        exact hbusy.1.1.1
  | advanceBurst id =>
    have hadvance := sound_advanceActiveBurst h
    show (cache.advanceBurst id).2.Sound
    unfold advanceBurst
    split
    · exact h
    · generalize cache.advanceActiveBurst = out at hadvance
      obtain ⟨_ | _, after⟩ := out
      · exact hadvance
      · exact hadvance
  | takeBurstResponse id =>
    have htaken : Sound { cache with activeBurst := none } := ⟨h.held, fun _ => rfl⟩
    show (cache.takeBurstResponse id).2.Sound
    unfold takeBurstResponse
    split
    · exact h
    · split
      · exact htaken
      · exact htaken
      · exact h

theorem sound_run (inner : β) (config : CacheConfig) (calls : List DirectCall) :
    (run next (.new inner config) calls).Sound :=
  Along.run_invariant (sound_of_not_maintained rfl) (fun _ call h _ => sound_step h call) (Along.trivial_of _ _)

end DirectMappedCache

/-! ### The split cache -/

namespace SplitL1Cache

variable {instr dat : CacheConfig} {cache : SplitL1Cache instr dat β}

/-- Nothing is refused because of maintenance: every access goes to its bank, and every maintenance request
is taken up. -/
structure Released (cache : SplitL1Cache instr dat β) : Prop where
  maintenance : cache.maintenance = none
  access : ∀ {α : Type} (out : Except CacheError α × SplitL1Cache instr dat β),
    cache.unlessMaintained out = out
  request : ∀ request, (cache.ensureMaintenanceRequest request).1 = .ok ()

/-- What holds of a cache at all times. -/
structure Sound (cache : SplitL1Cache instr dat β) : Prop where
  held : Held cache.maintenance cache.data
  idle : cache.maintenance.isSome = true → cache.instruction.pending = none

omit [CacheMaintenance β] in
/-- A cache with nothing else in progress is released as soon as no request is. -/
theorem released_iff (hinstruction : cache.instruction.pending = none)
    (hdata : cache.data.pending = none) : cache.Released ↔ cache.maintenance = none := by
  refine ⟨Released.maintenance, fun hmaintenance => ⟨hmaintenance, fun out => ?_, fun request => ?_⟩⟩
  · unfold unlessMaintained
    rw [hmaintenance]
    rfl
  · unfold ensureMaintenanceRequest CacheBank.hasPendingActivity
    rw [hmaintenance, hinstruction, hdata]
    cases request.kind <;> rfl

omit [CacheMaintenance β] in
/-- A request that is not kept waiting is in progress. -/
theorem ensure_cases (h : cache.Sound) (request : MaintenanceRequest) :
    (∃ n, cache.ensureMaintenanceRequest request = (.error (.bus (.busy n)), cache)) ∨
      ∃ after, cache.ensureMaintenanceRequest request = (.ok (), after) ∧ after.Sound ∧
        after.maintenance = some ⟨request, stageOf cache.maintenance request⟩ ∧
        after.inner = cache.inner ∧
        (after.data = cache.data ∨ stageOf cache.maintenance request = .inner) := by
  unfold ensureMaintenanceRequest
  cases hmaintenance : cache.maintenance with
  | some pending =>
    dsimp only
    split
    · rename_i hsame
      refine .inr ⟨cache, rfl, h, ?_, rfl, .inl rfl⟩
      rw [hmaintenance, ← hsame]
      rfl
    · exact .inl ⟨_, rfl⟩
  | none =>
    dsimp only
    split
    · exact .inl ⟨_, rfl⟩
    · rename_i hidle
      simp only [CacheBank.hasPendingActivity, Bool.or_eq_true, not_or, Bool.not_eq_true,
        Option.isSome_eq_false_iff, Option.isNone_iff_eq_none] at hidle
      obtain ⟨hinstruction, hdata⟩ := hidle
      unfold stageOf
      cases hkind : request.kind with
      | writeBack =>
        exact .inr ⟨_, rfl, ⟨held_writeBack hdata (by rw [hkind]; decide) (fun _ h => by cases h),
          fun _ => hinstruction⟩, rfl, rfl, .inl rfl⟩
      | invalidate =>
        have hafter := CacheBank.pending_invalidateRange hdata request.start request.len
        have hafter' := CacheBank.pending_invalidateRange hinstruction request.start request.len
        exact .inr ⟨_, rfl, ⟨held_inner hafter request, fun _ => hafter'⟩, rfl, rfl, .inr rfl⟩

/-- The request in progress goes a step on. -/
theorem continueMaintenance_eq {request : MaintenanceRequest} {stage : MaintenanceStage dat}
    (h : cache.maintenance = some ⟨request, stage⟩) :
    cache.continueMaintenance =
      ((progressMaintenance request stage cache.data cache.inner).1,
        { cache with
          data := (progressMaintenance request stage cache.data cache.inner).2.1
          inner := (progressMaintenance request stage cache.data cache.inner).2.2.1
          maintenance := (progressMaintenance request stage cache.data cache.inner).2.2.2 }) := by
  have hinner (cache : SplitL1Cache instr dat β) : cache.maintainInner request =
      ((progressInner dat request cache.inner).1,
        { cache with
          inner := (progressInner dat request cache.inner).2.1
          maintenance := (progressInner dat request cache.inner).2.2 }) := by
    unfold maintainInner progressInner
    rcases request.call cache.inner with ⟨error | _, _⟩
    · cases error <;> rfl
    · rfl
  unfold continueMaintenance progressMaintenance
  rw [h]
  cases stage with
  | inner => exact hinner cache
  | writeBack pending =>
    dsimp only
    rcases cache.data.continueWriteBackRange cache.inner pending with ⟨_ | _, data, _, inner⟩
    · rfl
    · exact hinner { cache with data, inner }

/-- How a request ends when it fails. -/
theorem maintain_cases (h : cache.Sound) (request : MaintenanceRequest) :
    (cache.maintain request).2.Sound ∧
      ∀ error, (∀ n, error ≠ .bus (.busy n)) → (cache.maintain request).1 = .error error →
        ((cache.maintain request).2.Released ↔ ∀ lineBase,
            ¬ FailsAt (stageOf cache.maintenance request) cache.data cache.inner error lineBase) ∧
          ∀ lineBase, FailsAt (stageOf cache.maintenance request) cache.data cache.inner error lineBase →
            (cache.maintain request).2.data.DirtyLine lineBase := by
  unfold maintain
  rcases cache.ensure_cases h request with
    ⟨n, hwait⟩ | ⟨after, hok, hsound, hstage, hinner, hdata⟩
  · rw [hwait]
    exact ⟨h, fun error hbusy hend => absurd (Except.error.inj hend).symm (hbusy n)⟩
  · have hsome : after.maintenance.isSome = true := by rw [hstage]; rfl
    obtain ⟨hpending, hheld, hends⟩ := progressMaintenance_cases (hsound.held.idle hsome)
      (fun pending (heq : stageOf cache.maintenance request = .writeBack pending) =>
        ⟨hsound.held.dirty request pending (by rw [hstage, heq]),
          hsound.held.once request pending (by rw [hstage, heq])⟩) after.inner
    have hinstruction := hsound.idle hsome
    have hcontinue : (onOk (.ok (), after) fun (_ : Unit) cache => cache.continueMaintenance) = _ :=
      continueMaintenance_eq hstage
    rw [hok, hcontinue]
    refine ⟨⟨hheld, fun _ => hinstruction⟩, fun error hbusy hend => ?_⟩
    obtain ⟨hnone, hdirty⟩ := hends error hbusy hend
    simp only [failsAt_congr hdata hinner] at hnone hdirty
    refine ⟨?_, hdirty⟩
    rw [← hnone]
    exact released_iff hinstruction hpending

/-! #### The other calls -/

omit [CacheMaintenance β] in
theorem maintenance_access (cache : SplitL1Cache instr dat β) (request : BusRequest) :
    (cache.access request).2.maintenance = cache.maintenance ∧
      (cache.maintenance.isSome = true → (cache.access request).2 = cache) := by
  have hgate {α : Type} {out : Except CacheError α × SplitL1Cache instr dat β}
      (hout : out.2.maintenance = cache.maintenance) :
      (cache.unlessMaintained out).2.maintenance = cache.maintenance ∧
        (cache.maintenance.isSome = true → (cache.unlessMaintained out).2 = cache) := by
    unfold unlessMaintained
    split
    · exact ⟨rfl, fun _ => rfl⟩
    · rename_i hidle
      exact ⟨hout, fun h => absurd h hidle⟩
  have hstore {α : Type} (addr : Address)
      (call : CacheBank dat → β → Except CacheError α × CacheBank dat × β) :
      (onOk (cache.onData (call cache.data cache.inner)) fun value cache =>
        ((.ok value : Except CacheError α),
          { cache with instruction := cache.instruction.invalidateLine addr })).2.maintenance =
        cache.maintenance := by
    unfold onData
    rcases call cache.data cache.inner with ⟨_ | _, _⟩ <;> rfl
  cases request with
  | fetch32 addr => exact hgate rfl
  | load8 addr => exact hgate rfl
  | load16 addr => exact hgate rfl
  | load32 addr => exact hgate rfl
  | store8 addr value => exact hgate (hstore addr (·.store8 · addr value))
  | store16 addr value => exact hgate (hstore addr (·.store16 · addr value))
  | store32 addr value => exact hgate (hstore addr (·.store32 · addr value))

theorem sound_step (h : cache.Sound) (call : SplitCall) : (cache.next call).Sound := by
  cases call with
  | access request =>
    obtain ⟨hkept, hsame⟩ := cache.maintenance_access request
    show (cache.access request).2.Sound
    cases hmaintenance : cache.maintenance with
    | none =>
      rw [hmaintenance] at hkept
      exact ⟨by rw [hkept]; exact held_none _, fun hsome => by rw [hkept] at hsome; cases hsome⟩
    | some _ =>
      rw [hsame (by rw [hmaintenance]; rfl)]
      exact h
  | tick => exact ⟨h.held, h.idle⟩
  | maintain request => exact (maintain_cases h request).1

theorem sound_run (inner : β) (instr dat : CacheConfig) (calls : List SplitCall) :
    (run next (.new inner instr dat) calls).Sound := by
  have hnew : (SplitL1Cache.new inner instr dat).Sound := ⟨held_none _, fun hsome => by cases hsome⟩
  exact Along.run_invariant hnew (fun _ call h _ => sound_step h call) (Along.trivial_of _ _)

end SplitL1Cache

/-- In no run of a cache does an invalidation leave anything of the bank to a later call. -/
theorem invalidatesAtOnce_run (inner : β) :
    (∀ config calls,
      InvalidatesAtOnce (run DirectMappedCache.next (.new inner config) calls).maintenance) ∧
    ∀ instr dat calls,
      InvalidatesAtOnce (run SplitL1Cache.next (.new inner instr dat) calls).maintenance :=
  ⟨fun config calls => (DirectMappedCache.sound_run inner config calls).held.once,
    fun instr dat calls => (SplitL1Cache.sound_run inner instr dat calls).held.once⟩

/-- **Which failed maintenance requests a cache gets rid of.** In every state of a run, a request that ends
with an error other than a busy bus leaves nothing that keeps a later call waiting if and only if the error
is not that of the write-back of a line by the cache itself. Such a line is still dirty. -/
theorem maintenance_released_iff (inner : β) (request : MaintenanceRequest) (error : BusError)
    (hbusy : error.isBusy = false) :
    (∀ config calls (cache : DirectMappedCache config β),
      run DirectMappedCache.next (.new inner config) calls = cache →
      (cache.maintain request).1 = .error (.bus error) →
        ((cache.maintain request).2.Released ↔ ∀ lineBase,
            ¬ FailsAt (stageOf cache.maintenance request) cache.bank cache.inner (.bus error) lineBase) ∧
          ∀ lineBase,
            FailsAt (stageOf cache.maintenance request) cache.bank cache.inner (.bus error) lineBase →
              (cache.maintain request).2.bank.DirtyLine lineBase) ∧
    ∀ instr dat calls (cache : SplitL1Cache instr dat β),
      run SplitL1Cache.next (.new inner instr dat) calls = cache →
      (cache.maintain request).1 = .error (.bus error) →
        ((cache.maintain request).2.Released ↔ ∀ lineBase,
            ¬ FailsAt (stageOf cache.maintenance request) cache.data cache.inner (.bus error) lineBase) ∧
          ∀ lineBase,
            FailsAt (stageOf cache.maintenance request) cache.data cache.inner (.bus error) lineBase →
              (cache.maintain request).2.data.DirtyLine lineBase := by
  have hother (n : U32) : CacheError.bus error ≠ .bus (.busy n) := by
    rintro ⟨⟩
    cases hbusy
  constructor
  · rintro config calls cache rfl hend
    have hsound := DirectMappedCache.sound_run inner config calls
    exact (DirectMappedCache.maintain_cases hsound request).2 _ hother hend
  · rintro instr dat calls cache rfl hend
    have hsound := SplitL1Cache.sound_run inner instr dat calls
    exact (SplitL1Cache.maintain_cases hsound request).2 _ hother hend

end Caches

/-- A write-back cache of one word, in front of a read-only word. -/
def readOnlyWord : DirectMappedCache oneWordWriteBack (MemoryMap Rom 1) :=
  .new { devices := #v[⟨⟨0, 4⟩, .fromWords 0 [5]⟩] } _

/-- The range starts with a dirty line, which the memory refuses: a write-back has failed, and its line is
still dirty. -/
theorem maintenance_released_iff_read_only :
    let cache := run DirectMappedCache.next readOnlyWord [.access (.store32 0 7)]
    ∃ lineBase, FailsAt (stageOf cache.maintenance ⟨0, 4, .writeBack⟩) cache.bank cache.inner
        (.bus (.readOnlyAddress 0)) lineBase ∧
      (cache.maintain ⟨0, 4, .writeBack⟩).2.bank.DirtyLine lineBase := by
  intro cache
  obtain ⟨hreleased, hdirty⟩ := (maintenance_released_iff readOnlyWord.inner ⟨0, 4, .writeBack⟩
    (.readOnlyAddress 0) rfl).1 _ [.access (.store32 0 7)] cache rfl (by decide +kernel)
  -- the request is kept, so that by the theorem a line has failed
  have hkept : ¬ (cache.maintain ⟨0, 4, .writeBack⟩).2.Released := fun h =>
    absurd h.maintenance (by decide +kernel)
  obtain ⟨lineBase, hfails⟩ := not_forall_not.1 (mt hreleased.2 hkept)
  exact ⟨lineBase, hfails, hdirty lineBase hfails⟩

/-- **A refused write-back blocks the cache**: the load behind it, and any other maintenance request, are
answered that the cache is busy. -/
theorem failed_write_back_blocks :
    ((readOnlyWord.access (.store32 0 7)).2.maintain ⟨0, 4, .writeBack⟩).1 =
        .error (.bus (.readOnlyAddress 0)) ∧
      ¬ ((readOnlyWord.access (.store32 0 7)).2.maintain ⟨0, 4, .writeBack⟩).2.Released ∧
      (((readOnlyWord.access (.store32 0 7)).2.maintain ⟨0, 4, .writeBack⟩).2.access (.load32 0)).1 =
        .error (.bus (.busy 1)) ∧
      (((readOnlyWord.access (.store32 0 7)).2.maintain ⟨0, 4, .writeBack⟩).2.maintain
        ⟨0, 4, .invalidate⟩).1 = .error (.bus (.busy 1)) := by
  refine ⟨by decide +kernel, fun h => ?_, by decide +kernel, by decide +kernel⟩
  have hbusy : ((readOnlyWord.access (.store32 0 7)).2.maintain
      ⟨0, 4, .writeBack⟩).2.maintenance.isSome = true := by decide +kernel
  rw [h.maintenance] at hbusy
  cases hbusy

end RvSim
