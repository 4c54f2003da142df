import Mathlib.Data.List.Perm.Basic
import RvSim.System.Cache.SplitL1

/-!
# The bursts a bank has in its backing bus

`Tracked` counts, beside a bus, the bursts it has accepted and whose response has not been taken. A bank
that is asked for accesses and written back keeps hold of each of them.

## Main definitions

* `Tracked`: a bus with its outstanding bursts
* `CacheBank.held`: the bursts of the pending operation
* `Owes`: the outstanding bursts are those of a bank and some others

## Main results

* `owes_access`, `owes_continueWriteBackRange`: a bank keeps hold of its bursts
-/

namespace RvSim

/-- A bus with the ids of the bursts it has accepted and whose response has not been taken. -/
structure Tracked (β : Type) where
  bus : β
  outstanding : List U64 := []

namespace Tracked

variable {β : Type}

/-- A bus that has accepted nothing yet. -/
def track (bus : β) : Tracked β := { bus }

def lift {α : Type} (tracked : Tracked β) (out : α × β) : α × Tracked β :=
  (out.1, { tracked with bus := out.2 })

def submitBurst [BurstBus β] (tracked : Tracked β) (request : BurstRequest) :
    Except BusError U64 × Tracked β :=
  match BurstBus.submitBurst tracked.bus request with
  | (.ok id, bus) => (.ok id, ⟨bus, id :: tracked.outstanding⟩)
  | (.error error, bus) => (.error error, { tracked with bus })

def takeBurstResponse [BurstBus β] (tracked : Tracked β) (id : U64) :
    Option (Except BusError BurstResponse) × Tracked β :=
  match BurstBus.takeBurstResponse tracked.bus id with
  | (some response, bus) => (some response, ⟨bus, tracked.outstanding.erase id⟩)
  | (none, bus) => (none, { tracked with bus })

instance [Bus β] : Bus (Tracked β) where
  fetch32 tracked addr := tracked.lift (Bus.fetch32 tracked.bus addr)
  load8 tracked addr := tracked.lift (Bus.load8 tracked.bus addr)
  load16 tracked addr := tracked.lift (Bus.load16 tracked.bus addr)
  load32 tracked addr := tracked.lift (Bus.load32 tracked.bus addr)
  store8 tracked addr value := tracked.lift (Bus.store8 tracked.bus addr value)
  store16 tracked addr value := tracked.lift (Bus.store16 tracked.bus addr value)
  store32 tracked addr value := tracked.lift (Bus.store32 tracked.bus addr value)
  tick tracked := { tracked with bus := Bus.tick tracked.bus }
  machineTime tracked := Bus.machineTime tracked.bus
  isBusy tracked := Bus.isBusy tracked.bus
  pendingInterrupts tracked := Bus.pendingInterrupts tracked.bus

instance [BurstBus β] : BurstBus (Tracked β) where
  submitBurst := submitBurst
  burstPhase tracked id := BurstBus.burstPhase tracked.bus id
  advanceBurst tracked id := tracked.lift (BurstBus.advanceBurst tracked.bus id)
  takeBurstResponse := takeBurstResponse
  burstRounds tracked id := BurstBus.burstRounds tracked.bus id

instance [CacheMaintenance β] : CacheMaintenance (Tracked β) where
  writeBackRange tracked start len := tracked.lift (CacheMaintenance.writeBackRange tracked.bus start len)
  invalidateRange tracked start len :=
    tracked.lift (CacheMaintenance.invalidateRange tracked.bus start len)

end Tracked

/-! ## Bursts -/

section Drive

variable {β : Type} [BurstBus β] {rest : List U64}

/-- The burst of a slot and `rest` are outstanding. -/
def SlotOwes (slot : Option U64) (inner : Tracked β) (rest : List U64) : Prop :=
  inner.outstanding.Perm (slot.toList ++ rest)

/-- Behind a burst that is not blocked, its slot is free. -/
def DriveDone {α : Type} (rest : List U64) (drive : BurstDrive α) (slot : Option U64)
    (inner : Tracked β) : Prop :=
  SlotOwes slot inner rest ∧ ∀ value, drive = .ready value → slot = none

/-- Behind an error, the slot is free as well. -/
def DriveFailed (rest : List U64) (slot : Option U64) (inner : Tracked β) : Prop :=
  SlotOwes slot inner rest ∧ slot = none

theorem slotOwes_take {id : U64} {inner inner' : Tracked β}
    {response : Except BusError BurstResponse} (h : SlotOwes (some id) inner rest)
    (htake : BurstBus.takeBurstResponse inner id = (some response, inner')) :
    SlotOwes none inner' rest := by
  have hout : inner'.outstanding = inner.outstanding.erase id := by
    simp only [BurstBus.takeBurstResponse, Tracked.takeBurstResponse] at htake
    split at htake
    · cases htake
      rfl
    · cases htake
  show inner'.outstanding.Perm rest
  rw [hout]
  have herase := h.erase id
  rwa [Option.toList_some, List.singleton_append, List.erase_cons_head] at herase

theorem slotOwes_advance {slot : Option U64} {id : U64} {inner inner' : Tracked β}
    {phase : Option BurstPhase} (h : SlotOwes slot inner rest)
    (hadvance : BurstBus.advanceBurst inner id = (phase, inner')) : SlotOwes slot inner' rest := by
  cases hadvance
  exact h

theorem slotOwes_submit {inner inner' : Tracked β} {request : BurstRequest}
    {answer : Except BusError U64} (h : SlotOwes none inner rest)
    (hsubmit : BurstBus.submitBurst inner request = (answer, inner')) :
    SlotOwes answer.toOption inner' rest := by
  simp only [BurstBus.submitBurst, Tracked.submitBurst] at hsubmit
  split at hsubmit
  · cases hsubmit
    exact List.Perm.cons _ h
  · cases hsubmit
    exact h

theorem owes_driveBurst (id : U64) (rounds : Nat) (inner : Tracked β)
    (h : SlotOwes (some id) inner rest) :
    Ends True (driveBurst id rounds inner) (fun drive s => DriveDone rest drive s.1 s.2)
      fun _ s => DriveFailed rest s.1 s.2 := by
  induction rounds generalizing inner with
  | zero => trivial
  | succ rounds ih =>
    unfold driveBurst
    split
    · trivial
    · split
      · trivial
      · rename_i hadvance
        exact ⟨slotOwes_advance h hadvance, fun _ hready => by cases hready⟩
      · rename_i hadvance
        exact ih _ (slotOwes_advance h hadvance)
    · exact ⟨h, fun _ hready => by cases hready⟩
    · split
      · rename_i htake
        exact ⟨slotOwes_take h htake, fun _ _ => rfl⟩
      · rename_i htake
        exact ⟨slotOwes_take h htake, rfl⟩
      · trivial
    · split
      · trivial
      · rename_i htake
        exact ⟨slotOwes_take h htake, rfl⟩
      · trivial

theorem owes_driveBurstUntilBlocked (slot : Option U64) (inner : Tracked β) (request : BurstRequest)
    (h : SlotOwes slot inner rest) :
    Ends True (driveBurstUntilBlocked inner slot request) (fun drive s => DriveDone rest drive s.1 s.2)
      fun _ s => DriveFailed rest s.1 s.2 := by
  cases slot with
  | some id => exact owes_driveBurst id _ inner h
  | none =>
    simp only [driveBurstUntilBlocked]
    split
    · rename_i hsubmit
      exact owes_driveBurst _ _ _ (slotOwes_submit h hsubmit)
    · rename_i hsubmit
      exact ⟨slotOwes_submit h hsubmit, rfl⟩

variable {config : CacheConfig}

theorem owes_progressWriteBack (inner : Tracked β) (writeBack : PendingWriteBack config)
    (h : SlotOwes writeBack.burstId inner rest) :
    Ends True (progressWriteBack inner writeBack)
      (fun drive s => DriveDone rest drive s.1.burstId s.2)
      fun _ s => DriveFailed rest s.1.burstId s.2 := by
  have hdrive := owes_driveBurstUntilBlocked writeBack.burstId inner writeBack.request h
  unfold progressWriteBack
  generalize driveBurstUntilBlocked inner writeBack.burstId writeBack.request = out at hdrive
  obtain ⟨(_ | _ | _) | (_ | _ | _), slot, inner'⟩ := out
  · exact hdrive
  · trivial
  · trivial
  · exact ⟨hdrive.1, fun _ hready => by cases hready⟩
  · trivial
  · exact ⟨hdrive.1, fun _ _ => hdrive.2 _ rfl⟩

theorem owes_progressRefill (inner : Tracked β) (refill : PendingRefill config)
    (h : SlotOwes refill.burstId inner rest) :
    Ends True (progressRefill inner refill)
      (fun drive s => DriveDone rest drive s.1.burstId s.2)
      fun _ s => DriveFailed rest s.1.burstId s.2 := by
  have hdrive := owes_driveBurstUntilBlocked refill.burstId inner refill.request h
  unfold progressRefill
  generalize driveBurstUntilBlocked inner refill.burstId refill.request = out at hdrive
  obtain ⟨(_ | _ | _) | (_ | words | _), slot, inner'⟩ := out
  · exact hdrive
  · trivial
  · trivial
  · exact ⟨hdrive.1, fun _ hready => by cases hready⟩
  · simp only [refillAnswer]
    split
    · exact ⟨hdrive.1, fun _ _ => hdrive.2 _ rfl⟩
    · trivial
  · trivial

end Drive

/-! ## The bank -/

namespace CacheBank

variable {config : CacheConfig}

/-- The bursts of the pending operation. -/
def held (bank : CacheBank config) : List U64 :=
  match bank.pending with
  | none => []
  | some pending => (pending.writeBack.bind (·.burstId)).toList ++ pending.refill.burstId.toList

/-- A refill waits for the write-back of its victim. -/
def OneBurst (bank : CacheBank config) : Prop :=
  ∀ pending, bank.pending = some pending → pending.writeBack.isSome → pending.refill.burstId = none

@[simp] theorem pending_setLine (bank : CacheBank config) (setIndex : Fin config.setCount)
    (way : Fin config.associativity) (line : CacheLine config.lineWords) :
    (bank.setLine setIndex way line).pending = bank.pending := rfl

@[simp] theorem pending_touchLine (bank : CacheBank config) (setIndex : Fin config.setCount)
    (way : Fin config.associativity) : (bank.touchLine setIndex way).pending = bank.pending := rfl

@[simp] theorem pending_install (bank : CacheBank config) (refill : PendingRefill config)
    (words : Vector U32 config.lineWords) : (bank.install refill words).pending = bank.pending := rfl

@[simp] theorem pending_updateCachedStore (bank : CacheBank config)
    (decoded : DecodedAddress config) (way : Fin config.associativity) (op : StoreOp) (dirty : Bool) :
    (bank.updateCachedStore decoded way op dirty).pending = bank.pending := rfl

theorem held_eq_nil {bank : CacheBank config} (h : bank.pending = none) : bank.held = [] := by
  rw [held, h]

theorem oneBurst_of_pending_none {bank : CacheBank config} (h : bank.pending = none) :
    bank.OneBurst := by
  intro pending hsome
  rw [h] at hsome
  cases hsome

theorem held_congr {bank bank' : CacheBank config} (h : bank'.pending = bank.pending) :
    bank'.held = bank.held := by rw [held, held, h]

/-- A line operation starts with no burst. -/
theorem held_startPending (bank : CacheBank config) (decoded : DecodedAddress config)
    (kind : RefillKind) : (bank.startPending decoded kind).held = [] := by
  have hvictim (victim : CacheLine config.lineWords) :
      ((victimWriteBack decoded.setIndex victim).bind (·.burstId)).toList = [] := by
    unfold victimWriteBack
    split <;> rfl
  exact (List.append_nil _).trans (hvictim _)

end CacheBank

section Owes

variable {β : Type} [BurstBus β] {config : CacheConfig} {rest : List U64}

/-- The bursts of the bank and `rest` are outstanding. -/
structure Owes (rest : List U64) (bank : CacheBank config) (inner : Tracked β) : Prop where
  outstanding : inner.outstanding.Perm (bank.held ++ rest)
  oneBurst : bank.OneBurst

omit [BurstBus β] in
theorem Owes.congr {bank bank' : CacheBank config} {inner inner' : Tracked β}
    (h : Owes rest bank inner) (hpending : bank'.pending = bank.pending)
    (hout : inner'.outstanding = inner.outstanding) : Owes rest bank' inner' := by
  constructor
  · rw [hout, CacheBank.held_congr hpending]
    exact h.outstanding
  · unfold CacheBank.OneBurst
    rw [hpending]
    exact h.oneBurst

omit [BurstBus β] in
theorem owes_of_pending_none {bank : CacheBank config} {inner : Tracked β}
    (hpending : bank.pending = none) (h : inner.outstanding.Perm rest) : Owes rest bank inner := by
  refine ⟨?_, CacheBank.oneBurst_of_pending_none hpending⟩
  rw [CacheBank.held_eq_nil hpending]
  exact h

/-- A call of a bank that keeps hold of its bursts. -/
def KeepsBursts {α : Type} (rest : List U64)
    (out : Except CacheError α × CacheBank config × Tracked β) : Prop :=
  Ends True out (fun _ s => Owes rest s.1 s.2) fun _ s => Owes rest s.1 s.2

theorem owes_continueRefill {bank : CacheBank config} (hpending : bank.pending = none)
    (inner : Tracked β) (refill : PendingRefill config) (h : SlotOwes refill.burstId inner rest) :
    Ends True (bank.continueRefill inner refill)
      (fun _ s => Owes rest s.1 s.2 ∧ s.1.pending = none) fun _ s => Owes rest s.1 s.2 := by
  have hprogress := owes_progressRefill inner refill h
  unfold CacheBank.continueRefill
  generalize progressRefill inner refill = out at hprogress
  obtain ⟨(_ | _ | _) | (_ | words), refill', inner'⟩ := out
  · obtain ⟨howes, hnone⟩ := hprogress
    exact owes_of_pending_none hpending (by rwa [SlotOwes, hnone] at howes)
  · trivial
  · trivial
  · constructor
    · exact hprogress.1
    · rintro pending hsome hwrite
      cases hsome
      cases hwrite
  · obtain ⟨howes, hnone⟩ := hprogress
    rw [SlotOwes, hnone words rfl] at howes
    exact ⟨owes_of_pending_none hpending howes, hpending⟩

theorem owes_continuePending {bank : CacheBank config} {inner : Tracked β} (h : Owes rest bank inner) :
    Ends True (bank.continuePending inner)
      (fun _ s => Owes rest s.1 s.2 ∧ s.1.pending = none) fun _ s => Owes rest s.1 s.2 := by
  have hout := h.outstanding
  unfold CacheBank.held at hout
  unfold CacheBank.continuePending
  split
  · rename_i hpending
    exact ⟨h, hpending⟩
  · rename_i hpending
    rw [hpending] at hout
    exact owes_continueRefill rfl inner _ hout
  · rename_i writeBack refill hpending
    have hrefill : refill.burstId = none := h.oneBurst _ hpending rfl
    rw [hpending] at hout
    simp only [hrefill, Option.toList_none, List.append_nil] at hout
    have hprogress := owes_progressWriteBack inner writeBack hout
    generalize progressWriteBack inner writeBack = out at hprogress
    obtain ⟨(_ | _ | _) | (_ | _), writeBack', inner'⟩ := out
    · obtain ⟨howes, hnone⟩ := hprogress
      rw [SlotOwes, hnone] at howes
      exact owes_of_pending_none rfl howes
    · trivial
    · trivial
    · constructor
      · unfold CacheBank.held
        simp only [hrefill, Option.toList_none, List.append_nil]
        exact hprogress.1
      · rintro pending hsome -
        cases hsome
        exact hrefill
    · obtain ⟨howes, hnone⟩ := hprogress
      rw [SlotOwes, hnone () rfl] at howes
      refine owes_continueRefill rfl inner' refill ?_
      rw [SlotOwes, hrefill]
      exact howes

theorem owes_resumePending {bank : CacheBank config} {inner : Tracked β} (h : Owes rest bank inner)
    (decoded : DecodedAddress config) :
    Ends True (bank.resumePending inner decoded)
      (fun _ s => Owes rest s.1 s.2 ∧ s.1.pending = none) fun _ s => Owes rest s.1 s.2 := by
  unfold CacheBank.resumePending
  split
  · exact h
  · exact owes_continuePending h

theorem owes_fillLine {bank : CacheBank config} {inner : Tracked β} (h : Owes rest bank inner)
    (hpending : bank.pending = none) (decoded : DecodedAddress config) (kind : RefillKind) :
    KeepsBursts rest (bank.fillLine inner decoded kind) := by
  have hstart : Owes rest (bank.startPending decoded kind) inner := by
    constructor
    · rw [CacheBank.held_startPending, ← CacheBank.held_eq_nil hpending]
      exact h.outstanding
    · rintro pending hsome -
      cases hsome
      rfl
  unfold CacheBank.fillLine
  exact (owes_continuePending hstart).onOk fun _ _ hs =>
    ends_expectSome (fun _ _ => hs.1) fun _ => trivial

theorem owes_ensureLine {bank : CacheBank config} {inner : Tracked β} (h : Owes rest bank inner)
    (decoded : DecodedAddress config) (kind : RefillKind) :
    KeepsBursts rest (bank.ensureLine inner decoded kind) := by
  refine (owes_resumePending h decoded).onOk fun _ s hs => ?_
  dsimp only
  split
  · exact hs.1
  · exact owes_fillLine hs.1 hs.2 decoded kind

theorem owes_loadWord {bank : CacheBank config} {inner : Tracked β} (h : Owes rest bank inner)
    (addr : Address) (kind : RefillKind) : KeepsBursts rest (bank.loadWord inner addr kind) :=
  Ends.onOk (owes_ensureLine h (config.decode addr) kind) fun _ _ hs => hs.congr rfl rfl

theorem owes_commit {bank : CacheBank config} {inner : Tracked β} (h : Owes rest bank inner)
    (op : StoreOp) : KeepsBursts rest ((op.commit inner).1, bank, (op.commit inner).2) := by
  unfold StoreOp.commit
  split
  · exact ends_ofBus (fun _ _ => h.congr rfl rfl) fun _ _ => h.congr rfl rfl
  · exact ends_ofBus (fun _ _ => h.congr rfl rfl) fun _ _ => h.congr rfl rfl
  · exact ends_ofBus (fun _ _ => h.congr rfl rfl) fun _ _ => h.congr rfl rfl
  · trivial

theorem owes_storeLine {bank : CacheBank config} {inner : Tracked β} (h : Owes rest bank inner)
    (decoded : DecodedAddress config) (way : Fin config.associativity) (op : StoreOp) :
    KeepsBursts rest (bank.storeLine inner decoded way op) := by
  have hcommit := owes_commit h op
  unfold CacheBank.storeLine
  split
  · generalize op.commit inner = out at hcommit
    obtain ⟨(_ | _ | _) | _, inner'⟩ := out
    · exact hcommit
    · trivial
    · trivial
    · exact Owes.congr hcommit rfl rfl
  · exact h.congr rfl rfl

theorem owes_store {bank : CacheBank config} {inner : Tracked β} (h : Owes rest bank inner)
    (op : StoreOp) : KeepsBursts rest (bank.store inner op) := by
  unfold CacheBank.store
  split
  · exact owes_commit h op
  · refine (owes_resumePending h _).onOk fun _ s hs => ?_
    dsimp only
    split
    · exact owes_storeLine hs.1 _ _ op
    · split
      · exact owes_commit hs.1 op
      · exact (owes_fillLine hs.1 hs.2 _ _).onOk fun way s hs => owes_storeLine hs _ way op

theorem owes_read {α : Type} {bank : CacheBank config} {inner : Tracked β} (h : Owes rest bank inner)
    (cached : Bool) {bypass : Except BusError α × Tracked β}
    (hbypass : bypass.2.outstanding = inner.outstanding) (wordAddr : Address) (kind : RefillKind)
    (value : U32 → α) : KeepsBursts rest (bank.read inner cached bypass wordAddr kind value) := by
  unfold CacheBank.read
  split
  · exact Ends.mapAnswer (owes_loadWord h wordAddr kind) fun _ _ hs => hs
  · exact ends_ofBus (fun _ _ => h.congr rfl hbypass) fun _ _ => h.congr rfl hbypass

omit [BurstBus β] in
theorem owes_aligned {α : Type} {bank : CacheBank config} {inner : Tracked β}
    (h : Owes rest bank inner) (addr : Address) (width : Nat)
    {out : Except CacheError α × CacheBank config × Tracked β} (hout : KeepsBursts rest out) :
    KeepsBursts rest (bank.aligned inner addr width out) := by
  unfold CacheBank.aligned
  split
  · exact h
  · exact hout

/-- **A request keeps hold of the bursts of the bank.** -/
theorem owes_access {bank : CacheBank config} {inner : Tracked β} (h : Owes rest bank inner)
    (request : BusRequest) : KeepsBursts rest (bank.access inner request) := by
  cases request with
  | fetch32 addr => exact owes_aligned h addr 4 (owes_read h _ rfl addr .fetch id)
  | load8 addr => exact Ends.mapAnswer (owes_read h _ rfl _ .load _) fun _ _ hs => hs
  | load16 addr =>
    exact Ends.mapAnswer (owes_aligned h addr 2 (owes_read h _ rfl _ .load _)) fun _ _ hs => hs
  | load32 addr => exact owes_aligned h addr 4 (owes_read h _ rfl addr .load id)
  | store8 addr value => exact Ends.mapAnswer (owes_store h _) fun _ _ hs => hs
  | store16 addr value =>
    exact Ends.mapAnswer (owes_aligned h addr 2 (owes_store h _)) fun _ _ hs => hs
  | store32 addr value =>
    exact Ends.mapAnswer (owes_aligned h addr 4 (owes_store h _)) fun _ _ hs => hs

/-! ## Maintenance -/

omit [BurstBus β] in
@[simp] theorem CacheBank.pending_completeWriteBackForLine (bank : CacheBank config)
    (lineBase : Address) : (bank.completeWriteBackForLine lineBase).pending = bank.pending := by
  unfold CacheBank.completeWriteBackForLine
  split
  · dsimp only
    split <;> rfl
  · rfl

/-- The burst of the write-back that is on its way. -/
def PendingBankWriteBack.held (pending : PendingBankWriteBack config) : List U64 :=
  (pending.active.bind (·.burstId)).toList

/-- The write-back of a range keeps hold of its burst, and does not touch the pending operation. -/
def KeepsWriteBack (rest : List U64) (pending : Option (PendingLineOp config))
    (out : Except CacheError Unit × CacheBank config × PendingBankWriteBack config × Tracked β) :
    Prop :=
  Ends True out
    (fun _ s => s.1.pending = pending ∧ s.2.2.outstanding.Perm rest)
    fun _ s => s.1.pending = pending ∧ s.2.2.outstanding.Perm (s.2.1.held ++ rest)

theorem owes_writeBackLines (bank : CacheBank config) (inner : Tracked β) (lineBases : List Address)
    (h : inner.outstanding.Perm rest) :
    KeepsWriteBack rest bank.pending (bank.writeBackLines inner lineBases) := by
  induction lineBases generalizing bank inner with
  | nil => exact ⟨rfl, h⟩
  | cons lineBase lineBases ih =>
    unfold CacheBank.writeBackLines
    split
    · exact ih bank inner h
    · rename_i writeBack hwrite
      have hnone : writeBack.burstId = none := by
        unfold CacheBank.pendingWriteBackForLine at hwrite
        dsimp only at hwrite
        split at hwrite
        · split at hwrite
          · split at hwrite
            · cases hwrite
              rfl
            · cases hwrite
          · cases hwrite
        · cases hwrite
      have hprogress := owes_progressWriteBack inner writeBack
        (by rw [SlotOwes, hnone]; exact h)
      generalize progressWriteBack inner writeBack = out at hprogress
      obtain ⟨(_ | _ | _) | (_ | _), writeBack', inner'⟩ := out
      · exact ⟨rfl, hprogress.1⟩
      · trivial
      · trivial
      · exact ⟨rfl, hprogress.1⟩
      · obtain ⟨howes, hslot⟩ := hprogress
        rw [SlotOwes, hslot () rfl] at howes
        have hrest := ih (bank.completeWriteBackForLine lineBase) inner' howes
        rwa [CacheBank.pending_completeWriteBackForLine] at hrest

theorem owes_continueWriteBackRange (bank : CacheBank config) (inner : Tracked β)
    (pending : PendingBankWriteBack config) (h : inner.outstanding.Perm (pending.held ++ rest)) :
    KeepsWriteBack rest bank.pending (bank.continueWriteBackRange inner pending) := by
  unfold PendingBankWriteBack.held at h
  unfold CacheBank.continueWriteBackRange
  split
  · rename_i hactive
    rw [hactive] at h
    exact owes_writeBackLines bank inner _ h
  · rename_i writeBack hactive
    rw [hactive] at h
    have hprogress := owes_progressWriteBack inner writeBack h
    generalize progressWriteBack inner writeBack = out at hprogress
    obtain ⟨(_ | _ | _) | (_ | _), writeBack', inner'⟩ := out
    · exact ⟨rfl, hprogress.1⟩
    · trivial
    · trivial
    · exact ⟨rfl, hprogress.1⟩
    · obtain ⟨howes, hslot⟩ := hprogress
      rw [SlotOwes, hslot () rfl] at howes
      have hrest := owes_writeBackLines
        (bank.completeWriteBackForLine writeBack.lineBase) inner' pending.lineBases howes
      rwa [CacheBank.pending_completeWriteBackForLine] at hrest

end Owes

/-- The bursts of a maintenance request in progress. -/
def PendingMaintenance.held {config : CacheConfig} (pending : PendingMaintenance config) : List U64 :=
  match pending.stage with
  | .writeBack writeBack => writeBack.held
  | .inner => []

end RvSim
