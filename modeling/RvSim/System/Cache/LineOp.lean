import RvSim.System.Cache.Contents
import RvSim.System.MemoryContract

/-!
# A line operation over a memory

The write-back of a victim and the refill behind it, over a bus that is a memory: whatever the bus is
waiting for, the bank shows the same memory, and where the operation is done, the line is in the bank.

## Main definitions

* `CacheBank.Rests`: nothing is in progress, and the bank shows a memory
* `CacheBank.Filling`: the line operation of an address is in progress

## Main results

* `CacheBank.fills_tick`: a tick of the bus
* `CacheBank.continuePending_fills`, `CacheBank.fillLine_fills`: how a line operation goes on
-/

namespace RvSim

open MemoryContract

/-- What is cached is mapped. -/
def CacheConfig.Within (config : CacheConfig) (mapped : Address → Bool) : Prop :=
  ∀ addr, config.caches addr = true → mapped addr = true

section Bursts

variable {config : CacheConfig} {mapped : Address → Bool}

/-- The words of a cached line can be read and written. -/
theorem CacheConfig.Within.burst (h : config.Within mapped) {addr : Address}
    (hcaches : config.caches addr = true) {request : BurstRequest}
    (hbase : request.baseAddr = config.lineBase addr) (hbeats : request.beats = config.lineWords)
    (hkind : ∀ baseAddr beats, request ≠ .readWords baseAddr beats .store) : request.Within mapped := by
  have hwords := config.lineWords_mul
  have hpos := config.lineWords_pos
  have hsize := config.lineSize_lt
  refine ⟨?_, ?_, ?_, ?_, hkind⟩
  · rwa [hbeats]
  · rw [hbase]
    exact config.lineBase_mod_four addr
  · have hend := config.lineBase_add_le addr
    rw [hbase, hbeats]
    omega
  · intro offset hoffset
    rw [hbeats] at hoffset
    rw [hbase]
    refine h _ ?_
    have hline : config.lineBase (config.lineBase addr + BitVec.ofNat 64 offset) = config.lineBase addr := by
      rw [CacheConfig.lineBase_eq_iff_sub_lt, BitVec.add_comm, BitVec.add_sub_cancel, BitVec.toNat_ofNat,
        Nat.mod_eq_of_lt (by omega)]
      omega
    rw [CacheConfig.caches_eq, CacheConfig.cachesLineContaining] at hcaches ⊢
    rwa [hline]

variable {β : Type} [BurstBus β] [MemoryContract β] {memory : FlatMemory}

theorem drives_progressWriteBack {writeBack : PendingWriteBack config} {inner : β}
    (hwithin : writeBack.request.Within memory.mapped)
    (h : SlotBursting writeBack.burstId writeBack.request memory inner) :
    Ends False (progressWriteBack inner writeBack)
      (fun drive s =>
        match drive with
        | .busy _ => ∃ id, s.1 = { writeBack with burstId := some id } ∧
            Bursting id writeBack.request memory s.2
        | .ready () => Quiet
            ⟨memory.mapped, memory.contents.writeWords writeBack.lineBase writeBack.words.toList⟩ s.2)
      fun _ _ => False := by
  have hdrive := drives hwithin writeBack.burstId inner h
  unfold progressWriteBack
  generalize driveBurstUntilBlocked inner writeBack.burstId writeBack.request = out at hdrive
  obtain ⟨(_ | _ | _) | (_ | _ | _), slot, inner'⟩ := out
  · exact hdrive
  · exact hdrive
  · exact hdrive
  · obtain ⟨id, rfl, htransfer⟩ := hdrive
    exact ⟨id, rfl, htransfer⟩
  · exact hdrive.1.elim
  · exact hdrive.2

theorem drives_progressRefill {refill : PendingRefill config} {inner : β}
    (hwithin : refill.request.Within memory.mapped)
    (h : SlotBursting refill.burstId refill.request memory inner) :
    Ends False (progressRefill inner refill)
      (fun drive s =>
        match drive with
        | .busy _ => ∃ id, s.1 = { refill with burstId := some id } ∧
            Bursting id refill.request memory s.2
        | .ready words => (∃ slot, s.1 = { refill with burstId := slot }) ∧
            words.toList = memory.contents.words refill.lineBase config.lineWords ∧ Quiet memory s.2)
      fun _ _ => False := by
  have hdrive := drives hwithin refill.burstId inner h
  unfold progressRefill
  generalize driveBurstUntilBlocked inner refill.burstId refill.request = out at hdrive
  obtain ⟨(_ | _ | _) | (_ | words | _), slot, inner'⟩ := out
  · exact hdrive
  · exact hdrive
  · exact hdrive
  · obtain ⟨id, rfl, htransfer⟩ := hdrive
    exact ⟨id, rfl, htransfer⟩
  · obtain ⟨hwords, hquiet⟩ := hdrive
    have hwords : words = memory.contents.words refill.lineBase config.lineWords := hwords
    have hlength : words.length = config.lineWords := by
      rw [hwords, ByteMemory.length_words]
    simp only [refillAnswer]
    rw [dif_pos hlength]
    exact ⟨⟨slot, rfl⟩, hwords, hquiet⟩
  · exact hdrive.1.elim

end Bursts

namespace CacheBank

variable {config : CacheConfig} {β : Type} [BurstBus β] [MemoryContract β]

/-- Nothing is in progress, and the bank shows the memory. -/
structure Rests (role : Role) (memory : FlatMemory) (bank : CacheBank config) (inner : β) : Prop where
  pending : bank.pending = none
  lower : ∃ lower, bank.Holds role lower memory.contents none ∧ Quiet ⟨memory.mapped, lower⟩ inner

/-- The refill is for the line of an address, which is not in the bank. -/
structure Fetches (role : Role) (addr : Address) (bank : CacheBank config)
    (refill : PendingRefill config) : Prop where
  placed : Placed bank refill
  line : refill.lineBase = config.lineBase addr
  caches : config.caches addr = true
  absent : bank.lookupWay (config.decode addr) = none
  region : role.copies → ∀ a, config.lineBase a = config.lineBase addr → role.region a

/-- How far a line operation has come. -/
def InProgress (role : Role) (memory : FlatMemory) (bank : CacheBank config)
    (pending : PendingLineOp config) (inner : β) : Prop :=
  match pending.writeBack with
  | some writeBack => pending.refill.burstId = none ∧ ∃ lower,
      bank.Holds role lower memory.contents (some writeBack) ∧
        SlotBursting writeBack.burstId writeBack.request ⟨memory.mapped, lower⟩ inner
  | none => ∃ lower, bank.Holds role lower memory.contents none ∧
      SlotBursting pending.refill.burstId pending.refill.request ⟨memory.mapped, lower⟩ inner

/-- The line operation of an address is in progress. -/
def Filling (role : Role) (addr : Address) (memory : FlatMemory) (bank : CacheBank config) (inner : β) :
    Prop :=
  ∃ pending, bank.pending = some pending ∧ Fetches role addr bank pending.refill ∧
    InProgress role memory bank pending inner

variable {role : Role} {addr : Address} {memory : FlatMemory} {bank : CacheBank config}
  {inner : β} {lower : ByteMemory}

theorem rests_tick (h : bank.Rests role memory inner) : bank.Rests role memory (Bus.tick inner) := by
  obtain ⟨hpending, lower, hholds, hquiet⟩ := h
  exact ⟨hpending, lower, hholds, quiet_tick hquiet⟩

theorem slotBursting_tick {slot : Option U64} {request : BurstRequest} {b : β}
    (h : SlotBursting slot request memory b) :
    SlotBursting slot request memory (Bus.tick b) := by
  cases slot with
  | none => exact quiet_tick h
  | some id => exact bursting_tick h

theorem fills_tick (h : bank.Filling role addr memory inner) :
    bank.Filling role addr memory (Bus.tick inner) := by
  obtain ⟨pending, hpending, hfetches, hprogress⟩ := h
  refine ⟨pending, hpending, hfetches, ?_⟩
  unfold InProgress at hprogress ⊢
  split at hprogress
  · obtain ⟨hrefill, lower, hholds, hslot⟩ := hprogress
    exact ⟨hrefill, lower, hholds, slotBursting_tick hslot⟩
  · obtain ⟨lower, hholds, hslot⟩ := hprogress
    exact ⟨lower, hholds, slotBursting_tick hslot⟩

omit [BurstBus β] [MemoryContract β] in
/-- The pending operation is no part of what a bank shows. -/
theorem Holds.withPending {flight : Option (PendingWriteBack config)}
    (h : bank.Holds role lower memory.contents flight) (pending : Option (PendingLineOp config)) :
    { bank with pending }.Holds role lower memory.contents flight :=
  h.congr fun _ _ => .refl _

omit [BurstBus β] [MemoryContract β] in
/-- Nor is the burst of a write-back. -/
theorem Holds.withBurst {writeBack : PendingWriteBack config}
    (h : bank.Holds role lower memory.contents (some writeBack)) (slot : Option U64) :
    bank.Holds role lower memory.contents (some { writeBack with burstId := slot }) := by
  refine { h with rest := ?_, flight := ?_ }
  · intro hcopies a hregion hclean hflight
    refine h.rest hcopies a hregion hclean ?_
    rintro _ ⟨⟩
    exact hflight { writeBack with burstId := slot } rfl
  · rintro _ ⟨⟩
    obtain ⟨hline, hwords, hstores⟩ := h.flight writeBack rfl
    exact ⟨hline, hwords, hstores⟩

omit [BurstBus β] [MemoryContract β] in
theorem Fetches.withPending {refill : PendingRefill config} (h : bank.Fetches role addr refill)
    (pending : Option (PendingLineOp config)) (slot : Option U64) :
    { bank with pending }.Fetches role addr { refill with burstId := slot } :=
  ⟨⟨h.placed.placed, h.placed.vacant⟩, h.line, h.caches, h.absent, h.region⟩

/-- The line is in the bank. -/
def Filled (role : Role) (addr : Address) (memory : FlatMemory) (s : CacheBank config × β) : Prop :=
  s.1.Rests role memory s.2 ∧ ∃ way, s.1.lookupWay (config.decode addr) = some way

/-- A line operation waits only where the bus is busy. -/
def Delayed (role : Role) (addr : Address) (memory : FlatMemory) (error : BusError)
    (s : CacheBank config × β) : Prop :=
  error.isBusy = true ∧ s.1.Filling role addr memory s.2

theorem continueRefill_fills {refill : PendingRefill config} (hmapped : config.Within memory.mapped)
    (hpending : bank.pending = none) (hfetches : bank.Fetches role addr refill)
    (hholds : bank.Holds role lower memory.contents none)
    (hslot : SlotBursting refill.burstId refill.request ⟨memory.mapped, lower⟩ inner) :
    Ends False (bank.continueRefill inner refill) (fun _ => Filled role addr memory)
      (Delayed role addr memory) := by
  have hwithin : refill.request.Within (FlatMemory.mk memory.mapped lower).mapped := by
    refine hmapped.burst hfetches.caches hfetches.line rfl fun baseAddr beats h => ?_
    unfold PendingRefill.request at h
    cases hkind : refill.kind <;> rw [hkind] at h <;> cases h
  have hprogress := drives_progressRefill hwithin hslot
  unfold continueRefill
  generalize progressRefill inner refill = out at hprogress
  obtain ⟨(_ | _ | _) | (_ | words), refill', inner'⟩ := out
  · exact hprogress.elim
  · exact hprogress
  · exact hprogress
  · obtain ⟨id, rfl, htransfer⟩ := hprogress
    exact ⟨rfl, _, rfl, hfetches.withPending _ _, lower, hholds.withPending _, htransfer⟩
  · obtain ⟨⟨slot, rfl⟩, hwords, hquiet⟩ := hprogress
    obtain ⟨hset, htag⟩ := hfetches.placed.sameLine hfetches.line
    have hwords (hcopies : role.copies) :
        words.toList = memory.contents.words (config.lineBase addr) config.lineWords := by
      rw [hwords, hfetches.line]
      exact hholds.words_lower hcopies hfetches.absent (hfetches.region hcopies)
    refine ⟨⟨hpending, lower, ?_, hquiet⟩, bank.exists_lookupWay_install refill words hset htag⟩
    exact hholds.install hfetches.caches hset htag hfetches.placed.vacant hfetches.absent hwords

/-- **How a line operation goes on.** -/
theorem continuePending_fills (hmapped : config.Within memory.mapped)
    (h : bank.Filling role addr memory inner) :
    Ends False (bank.continuePending inner) (fun _ => Filled role addr memory)
      (Delayed role addr memory) := by
  obtain ⟨⟨_ | writeBack, refill⟩, hpending, hfetches, hprogress⟩ := h
  · obtain ⟨lower, hholds, hslot⟩ := hprogress
    unfold continuePending
    rw [hpending]
    exact continueRefill_fills hmapped rfl (hfetches.withPending none refill.burstId)
      (hholds.withPending none) hslot
  · obtain ⟨hrefill, lower, hholds, hslot⟩ := hprogress
    change refill.burstId = none at hrefill
    obtain ⟨victim, hcaches, hbase, -⟩ := (hholds.flight writeBack rfl).line
    have hwithin : writeBack.request.Within (FlatMemory.mk memory.mapped lower).mapped :=
      hmapped.burst hcaches hbase (by simp [BurstRequest.beats, PendingWriteBack.request]) nofun
    have hdrive := drives_progressWriteBack hwithin hslot
    unfold continuePending
    rw [hpending]
    dsimp only
    generalize progressWriteBack inner writeBack = out at hdrive
    obtain ⟨(_ | _ | _) | (_ | _), writeBack', inner'⟩ := out
    · exact hdrive.elim
    · exact hdrive
    · exact hdrive
    · obtain ⟨id, rfl, htransfer⟩ := hdrive
      exact ⟨rfl, _, rfl, hfetches.withPending _ refill.burstId, hrefill, lower,
        (hholds.withPending _).withBurst _, htransfer⟩
    · refine continueRefill_fills hmapped rfl (hfetches.withPending none refill.burstId)
        (hholds.writtenBack.withPending none) ?_
      rw [hrefill]
      exact hdrive

omit [BurstBus β] [MemoryContract β] in
/-- A line that is absent stays so when another one leaves. -/
theorem lookupWay_startPending {a : Address} (h : bank.lookupWay (config.decode a) = none)
    (addr : Address) (kind : RefillKind) :
    (bank.startPending (config.decode addr) kind).lookupWay (config.decode a) = none := by
  rw [lookupWay_eq_none]
  intro way
  rw [Bool.eq_false_iff]
  intro hholds
  obtain ⟨-, hline⟩ := valid_startPending (holds_iff.1 hholds).1
  rw [hline] at hholds
  rw [lookupWay_eq_none] at h
  rw [h way] at hholds
  cases hholds

/-- **How a line operation starts.** -/
theorem fills_startPending (h : bank.Rests role memory inner) (hcaches : config.caches addr = true)
    (hnone : bank.lookupWay (config.decode addr) = none)
    (hregion : role.copies → ∀ a, config.lineBase a = config.lineBase addr → role.region a) (kind : RefillKind) :
    (bank.startPending (config.decode addr) kind).Filling role addr memory inner := by
  obtain ⟨-, lower, hholds, hquiet⟩ := h
  have hholds' := hholds.startPending addr kind
  refine ⟨_, rfl, ⟨placed_startPending bank addr kind rfl, rfl, hcaches,
    lookupWay_startPending hnone addr kind, hregion⟩, ?_⟩
  unfold InProgress
  dsimp only
  change Holds _ _ _ _ (victimWriteBack (config.decode addr).setIndex (bank.line _
    (bank.sets[(config.decode addr).setIndex].selectVictim.1))) at hholds'
  split
  · rename_i writeBack hwriteBack
    rw [hwriteBack] at hholds'
    have hslot : writeBack.burstId = none := by
      unfold victimWriteBack at hwriteBack
      split at hwriteBack
      · cases hwriteBack
        rfl
      · cases hwriteBack
    refine ⟨rfl, lower, hholds', ?_⟩
    rw [hslot]
    exact hquiet
  · rename_i hwriteBack
    rw [hwriteBack] at hholds'
    exact ⟨lower, hholds', hquiet⟩

theorem fillLine_fills (hmapped : config.Within memory.mapped) (h : bank.Rests role memory inner)
    (hcaches : config.caches addr = true) (hnone : bank.lookupWay (config.decode addr) = none)
    (hregion : role.copies → ∀ a, config.lineBase a = config.lineBase addr → role.region a) (kind : RefillKind) :
    Ends False (bank.fillLine inner (config.decode addr) kind)
      (fun way s => s.1.Rests role memory s.2 ∧ s.1.lookupWay (config.decode addr) = some way)
      (Delayed role addr memory) := by
  unfold fillLine
  refine (continuePending_fills hmapped
    (fills_startPending h hcaches hnone hregion kind)).onOk fun _ s hs => ?_
  refine ends_expectSome (fun way hway => ⟨hs.1, hway⟩) fun habsent => ?_
  obtain ⟨way, hway⟩ := hs.2
  rw [hway] at habsent
  cases habsent

end CacheBank

end RvSim
