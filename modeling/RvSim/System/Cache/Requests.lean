import RvSim.System.Cache.LineOp
import RvSim.System.Cache.Progress

/-!
# A bank in front of a memory

A request that a client repeats on a bank is answered as by the memory the bank shows. It waits for a line
operation, or for the bus below where it passes the bank.

## Main definitions

* `CacheBank.Passes`, `CacheBank.Asked`: what a request asks of the bus below
* `CacheBank.Awaits`: the request is in progress
* `CacheBank.Answers`, `CacheBank.Delays`: how a request ends

## Main results

* `CacheBank.access_rests`, `CacheBank.access_waits`: every call of the request ends so
-/

namespace RvSim

open MemoryContract

/-! ## Words -/

namespace ByteMemory

/-- A word depends on its bytes only. -/
theorem word_congr {memory other : ByteMemory} {addr : Address} (haddr : addr.toNat % 4 = 0)
    (h : ∀ a : Address, a.toNat / 4 = addr.toNat / 4 → memory a = other a) :
    memory.word addr = other.word addr := by
  rw [word_eq_ofFn, word_eq_ofFn]
  refine congrArg (fun f => fromLeBytes (Vector.ofFn f)) (funext fun i => h _ ?_)
  have hlt := addr.isLt
  have hi := i.isLt
  rw [BitVec.toNat_add, BitVec.toNat_ofNat]
  omega

end ByteMemory

namespace BusRequest

/-- The word of a request is aligned, and is the one of its address. -/
theorem toNat_wordAddr {request : BusRequest} (haligned : ¬ request.Misaligned)
    (hread : request.storeOp = none) :
    request.wordAddr.toNat % 4 = 0 ∧ request.wordAddr.toNat / 4 = request.addr.toNat / 4 := by
  have hmod := mod_add_width haligned
  cases request with
  | load8 addr | load16 addr =>
    have hmask := toNat_and_not_three addr
    have hword : (addr &&& ~~~3).toNat % 4 = 0 ∧ (addr &&& ~~~3).toNat / 4 = addr.toNat / 4 := by omega
    exact hword
  | fetch32 addr | load32 addr =>
    have hmod : addr.toNat % 4 + 4 ≤ 4 := hmod
    exact ⟨show addr.toNat % 4 = 0 by omega, rfl⟩
  | store8 addr value | store16 addr value | store32 addr value => cases hread

/-- The answer depends on the word of the request only. -/
theorem answer_congr {request : BusRequest} (haligned : ¬ request.Misaligned) {memory other : ByteMemory}
    (h : ∀ a : Address, a.toNat / 4 = request.addr.toNat / 4 → memory a = other a) :
    request.answer memory = request.answer other := by
  unfold answer
  cases hread : request.storeOp with
  | some op => rfl
  | none =>
    obtain ⟨haddr, hsame⟩ := toNat_wordAddr haligned hread
    rw [ByteMemory.word_congr haddr fun a ha => h a (ha.trans hsame)]

theorem answer_read {request : BusRequest} (hread : request.storeOp = none) (memory : ByteMemory) :
    request.answer memory = request.ofWord (memory.word request.wordAddr) := by
  unfold answer
  rw [hread]

theorem effect_read {request : BusRequest} (hread : request.storeOp = none) (memory : ByteMemory) :
    request.effect memory = memory := by
  unfold effect
  rw [hread]

theorem answer_store {request : BusRequest} {op : StoreOp} (hstore : request.storeOp = some op)
    (memory : ByteMemory) : request.answer memory = 0 := by
  unfold answer
  rw [hstore]

theorem effect_store {request : BusRequest} {op : StoreOp} (hstore : request.storeOp = some op)
    (memory : ByteMemory) : request.effect memory = memory.store op := by
  unfold effect
  rw [hstore]

theorem wordAddr_store {request : BusRequest} {op : StoreOp} (hstore : request.storeOp = some op) :
    request.wordAddr = op.addr := by
  cases request <;> cases hstore <;> rfl

end BusRequest

/-- An aligned request is about a line if its address is. -/
theorem CacheConfig.covers_eq (config : CacheConfig) {request : BusRequest}
    (haligned : ¬ request.Misaligned) : config.covers request = config.caches request.addr := by
  cases request with
  | load16 addr =>
    show (config.caches addr && config.cachesAddress (addr + 1)) = config.caches addr
    cases hcaches : config.caches addr with
    | false => rfl
    | true =>
      have hmod : addr.toNat % 4 + 2 ≤ 4 := BusRequest.mod_add_width haligned
      have hlt := addr.isLt
      have hnext : (addr + 1).toNat = addr.toNat + 1 := by
        rw [BitVec.toNat_add, show (1 : Address).toNat = 1 from rfl]
        exact Nat.mod_eq_of_lt (by omega)
      have hline : config.lineBase (addr + 1) = config.lineBase addr := by
        rw [config.lineBase_eq_iff, hnext, ← config.lineWords_mul, Nat.mul_comm config.lineWords 4,
          ← Nat.div_div_eq_div_mul, ← Nat.div_div_eq_div_mul,
          show (addr.toNat + 1) / 4 = addr.toNat / 4 by omega]
      rw [config.caches_eq, CacheConfig.cachesLineContaining, ← hline] at hcaches
      exact config.cachesAddress_of_cachesLineContaining hcaches
  | _ => rfl

namespace CacheBank

variable {config : CacheConfig} {β : Type} [BurstBus β] {role : Role} {request : BusRequest}
  {memory : FlatMemory} {bank : CacheBank config} {inner : β} {lower : ByteMemory}

/-- The request itself is made on the bus below. -/
def Passes (bank : CacheBank config) (request : BusRequest) : Prop :=
  config.covers request = true → request.storeOp.isSome ∧
    match bank.lookupWay (config.decode request.wordAddr) with
    | some _ => config.writePolicy = .writeThrough
    | none => allocates config request = false

/-- The bytes that the bus below is asked for: a line that is not there, or the word of a request that is
not about a line. -/
def Asked (bank : CacheBank config) (request : BusRequest) (a : Address) : Prop :=
  if config.covers request then
    bank.lookupWay (config.decode request.wordAddr) = none ∧
      config.lineBase a = config.lineBase request.wordAddr
  else a.toNat / 4 = request.addr.toNat / 4

/-- The bank is in charge of the request. -/
structure Charges (role : Role) (bank : CacheBank config) (request : BusRequest) : Prop where
  stores : request.storeOp.isSome → role.stores
  region : role.copies → ∀ a, bank.Asked request a → role.region a

variable [MemoryContract β]

/-- The request is in progress. -/
def Awaits (role : Role) (request : BusRequest) (memory : FlatMemory) (bank : CacheBank config)
    (inner : β) : Prop :=
  (config.covers request = true ∧ bank.Filling role request.wordAddr memory inner) ∨
    (bank.pending = none ∧ bank.Passes request ∧ Charges role bank request ∧
      ∃ lower, bank.Holds role lower memory.contents none ∧
        Awaiting request ⟨memory.mapped, lower⟩ inner)

/-- The request is answered. -/
def Answers (role : Role) (request : BusRequest) (memory : FlatMemory) (value : U32)
    (s : CacheBank config × β) : Prop :=
  (role.copies → value = request.answer memory.contents) ∧
    s.1.Rests role ⟨memory.mapped, request.effect memory.contents⟩ s.2

/-- The request waits only where the bus is busy. -/
def Delays (role : Role) (request : BusRequest) (memory : FlatMemory) (error : BusError)
    (s : CacheBank config × β) : Prop :=
  error.isBusy = true ∧ s.1.Awaits role request memory s.2

/-! ## A request on the bus below -/

/-- The bus below is called for the request. -/
def Called (request : BusRequest) (memory : FlatMemory) (lower : ByteMemory) (inner : β) : Prop :=
  AnsweredAs (Awaiting request) Quiet request ⟨memory.mapped, lower⟩ (request.call inner)

theorem called_of_quiet (haligned : ¬ request.Misaligned) (hmaps : memory.Maps request.addr request.width)
    (h : Quiet ⟨memory.mapped, lower⟩ inner) : Called request memory lower inner :=
  call_quiet haligned hmaps h

theorem called_of_awaiting (haligned : ¬ request.Misaligned)
    (hmaps : memory.Maps request.addr request.width)
    (h : Awaiting request ⟨memory.mapped, lower⟩ inner) : Called request memory lower inner :=
  call_awaiting haligned hmaps h

/-- How a request ends that the bus below is called for. -/
theorem Called.ends (h : Called request memory lower inner) (done : U32 → β → Prop)
    (failed : BusError → β → Prop)
    (hdone : ∀ inner', Quiet ⟨memory.mapped, request.effect lower⟩ inner' →
      done (request.answer lower) inner')
    (hfailed : ∀ error inner', error.isBusy = true → Awaiting request ⟨memory.mapped, lower⟩ inner' →
      failed error inner') :
    Ends False (ofBus (request.call inner).1, (request.call inner).2) done failed := by
  unfold Called AnsweredAs at h
  generalize request.call inner = out at h
  obtain ⟨error | value, inner'⟩ := out
  · exact hfailed error inner' h.1 h.2
  · obtain ⟨rfl, hquiet⟩ := h
    exact hdone inner' hquiet

omit [BurstBus β] [MemoryContract β] in
/-- Without its line, a word is the one of the memory below. -/
theorem Holds.answer (h : bank.Holds role lower memory.contents none) (haligned : ¬ request.Misaligned)
    (hcovers : config.covers request = false) (hcharges : Charges role bank request)
    (hcopies : role.copies) : request.answer lower = request.answer memory.contents := by
  refine BusRequest.answer_congr haligned fun a ha => (h.rest hcopies a ?_ ?_ nofun).symm
  · refine hcharges.region hcopies a ?_
    unfold Asked
    rw [hcovers]
    exact ha
  · -- the word lies in a line that is not cached
    rw [config.covers_eq haligned] at hcovers
    refine not_dirtyAt_of_lookupWay (h.lookupWay_of_not_caches ?_)
    have hline : config.lineBase a = config.lineBase request.addr := by
      rw [config.lineBase_eq_iff, ← config.lineWords_mul, Nat.mul_comm config.lineWords 4,
        ← Nat.div_div_eq_div_mul, ← Nat.div_div_eq_div_mul, ha]
    rw [config.caches_eq, CacheConfig.cachesLineContaining] at hcovers ⊢
    rwa [hline]

/-- A store past the bank, which has no line for it. -/
theorem ends_past {op : StoreOp} (hstore : request.storeOp = some op) (haligned : ¬ request.Misaligned)
    (hpending : bank.pending = none) (hpasses : bank.Passes request)
    (hcharges : Charges role bank request)
    (hnone : bank.lookupWay (config.decode request.wordAddr) = none)
    (hholds : bank.Holds role lower memory.contents none) (hcalled : Called request memory lower inner) :
    Ends False (ofBus (request.call inner).1, bank, (request.call inner).2)
      (Answers role request memory) (Delays role request memory) := by
  have hword := BusRequest.mod_add_width haligned
  rw [← (BusRequest.storeOp_addr hstore).1, ← (BusRequest.storeOp_addr hstore).2] at hword
  have hstores : role.stores := hcharges.stores (by rw [hstore]; rfl)
  rw [BusRequest.wordAddr_store hstore] at hnone
  refine (hcalled.ends (fun value inner' => Answers role request memory value (bank, inner'))
    (fun error inner' => Delays role request memory error (bank, inner')) ?_ ?_).under
      (f := fun inner' => (bank, inner')) (fun _ _ h => h) fun _ _ h => h
  · intro inner' hquiet
    rw [BusRequest.effect_store hstore] at hquiet
    refine ⟨fun _ => ?_, hpending, lower.store op, ?_, hquiet⟩
    · rw [BusRequest.answer_store hstore, BusRequest.answer_store hstore]
    · rw [BusRequest.effect_store hstore]
      exact hholds.commit hword hnone hstores
  · intro error inner' hbusy hawaiting
    exact ⟨hbusy, .inr ⟨hpending, hpasses, hcharges, lower, hholds, hawaiting⟩⟩

/-- A request that is not about a line. -/
theorem ends_bypass (haligned : ¬ request.Misaligned) (hcovers : config.covers request = false)
    (hpending : bank.pending = none) (hcharges : Charges role bank request)
    (hholds : bank.Holds role lower memory.contents none) (hcalled : Called request memory lower inner) :
    Ends False (bank.access inner request) (Answers role request memory) (Delays role request memory) := by
  have hpasses : bank.Passes request := fun h => by rw [hcovers] at h; cases h
  rw [access_bypass haligned hcovers]
  cases hstore : request.storeOp with
  | some op =>
    refine ends_past hstore haligned hpending hpasses hcharges ?_ hholds hcalled
    refine hholds.lookupWay_of_not_caches ?_
    rw [BusRequest.wordAddr_store hstore, (BusRequest.storeOp_addr hstore).1, ← config.covers_eq haligned,
      hcovers]
  | none =>
    refine (hcalled.ends (fun value inner' => Answers role request memory value (bank, inner'))
      (fun error inner' => Delays role request memory error (bank, inner')) ?_ ?_).under
        (f := fun inner' => (bank, inner')) (fun _ _ h => h) fun _ _ h => h
    · intro inner' hquiet
      rw [BusRequest.effect_read hstore] at hquiet
      refine ⟨hholds.answer haligned hcovers hcharges, hpending, lower, ?_, hquiet⟩
      rw [BusRequest.effect_read hstore]
      exact hholds
    · intro error inner' hbusy hawaiting
      exact ⟨hbusy, .inr ⟨hpending, hpasses, hcharges, lower, hholds, hawaiting⟩⟩

/-! ## A request with its line -/

/-- A store to a line and to the memory below. -/
theorem ends_through {op : StoreOp} (hstore : request.storeOp = some op)
    (haligned : ¬ request.Misaligned) (hcharges : Charges role bank request)
    (hpending : bank.pending = none) (hpolicy : config.writePolicy = .writeThrough)
    {way : Fin config.associativity}
    (hway : bank.lookupWay (config.decode request.wordAddr) = some way)
    (hholds : bank.Holds role lower memory.contents none) (hcalled : Called request memory lower inner) :
    Ends False (bank.finish inner request way) (Answers role request memory)
      (Delays role request memory) := by
  have hword := BusRequest.mod_add_width haligned
  rw [← (BusRequest.storeOp_addr hstore).1, ← (BusRequest.storeOp_addr hstore).2] at hword
  have hstores : role.stores := hcharges.stores (by rw [hstore]; rfl)
  have hpasses : bank.Passes request := by
    refine fun _ => ⟨by rw [hstore]; rfl, ?_⟩
    rw [hway]
    exact hpolicy
  have hends := hcalled.ends
    (fun value inner' => value = 0 ∧ Quiet ⟨memory.mapped, lower.store op⟩ inner')
    (fun error inner' => error.isBusy = true ∧ Awaiting request ⟨memory.mapped, lower⟩ inner')
    (fun inner' hquiet => ⟨BusRequest.answer_store hstore lower, BusRequest.effect_store hstore lower ▸ hquiet⟩)
    fun _ _ hbusy hawaiting => ⟨hbusy, hawaiting⟩
  rw [← commit_eq hstore inner] at hends
  unfold finish storeLine
  rw [hstore, hpolicy]
  dsimp only
  generalize op.commit inner = out at hends
  obtain ⟨(error | _ | _) | ⟨⟩, inner'⟩ := out
  · exact ⟨hends.1, .inr ⟨hpending, hpasses, hcharges, lower, hholds, hends.2⟩⟩
  · exact hends
  · exact hends
  · rw [BusRequest.wordAddr_store hstore] at hway ⊢
    refine ⟨fun _ => (BusRequest.answer_store hstore _).symm, ?_, lower.store op, ?_, hends.2⟩
    · exact hpending
    · rw [BusRequest.effect_store hstore]
      exact hholds.updateThrough hword hway (by rw [hpolicy]; decide) hstores

/-- **What a request does with its line.** -/
theorem finish_rests (haligned : ¬ request.Misaligned) (hmaps : memory.Maps request.addr request.width)
    (hcharges : Charges role bank request) {way : Fin config.associativity}
    (hway : bank.lookupWay (config.decode request.wordAddr) = some way)
    (h : bank.Rests role memory inner) :
    Ends False (bank.finish inner request way) (Answers role request memory)
      (Delays role request memory) := by
  obtain ⟨hpending, lower, hholds, hquiet⟩ := h
  cases hstore : request.storeOp with
  | none =>
    unfold finish
    rw [hstore]
    refine ⟨fun hcopies => ?_, hpending, lower, ?_, hquiet⟩
    · rw [BusRequest.answer_read hstore]
      exact congrArg _ (hholds.readWord hcopies hway (BusRequest.toNat_wordAddr haligned hstore).1)
    · rw [BusRequest.effect_read hstore]
      exact hholds.congr (bank.sameLines_touchLine _ way)
  | some op =>
    cases hpolicy : config.writePolicy with
    | writeThrough =>
      exact ends_through hstore haligned hcharges hpending hpolicy hway hholds
        (called_of_quiet haligned hmaps hquiet)
    | writeBack =>
      have hword := BusRequest.mod_add_width haligned
      rw [← (BusRequest.storeOp_addr hstore).1, ← (BusRequest.storeOp_addr hstore).2] at hword
      unfold finish storeLine
      rw [hstore, hpolicy]
      rw [BusRequest.wordAddr_store hstore] at hway ⊢
      refine ⟨fun _ => (BusRequest.answer_store hstore _).symm, hpending, lower, ?_, hquiet⟩
      rw [BusRequest.effect_store hstore]
      exact hholds.updateDirty hword hway hpolicy (hcharges.stores (by rw [hstore]; rfl))

/-- The line is in the bank, and the request goes on with it. -/
theorem finish_filled (haligned : ¬ request.Misaligned) (hmaps : memory.Maps request.addr request.width)
    (hstores : request.storeOp.isSome → role.stores) {s : CacheBank config × β}
    (hcovers : config.covers request = true) (h : Filled role request.wordAddr memory s) :
    ∃ way, s.1.lookupWay (config.decode request.wordAddr) = some way ∧
      Ends False (s.1.finish s.2 request way) (Answers role request memory)
        (Delays role request memory) := by
  obtain ⟨hrests, way, hway⟩ := h
  refine ⟨way, hway, finish_rests haligned hmaps ⟨hstores, fun _ a hasked => ?_⟩ hway hrests⟩
  -- nothing is asked of the bus below where the line is there
  unfold Asked at hasked
  rw [if_pos hcovers, hway] at hasked
  cases hasked.1

/-- A request whose line operation is in progress. -/
theorem access_fills (hconfig : config.Within memory.mapped) (haligned : ¬ request.Misaligned)
    (hmaps : memory.Maps request.addr request.width) (hstores : request.storeOp.isSome → role.stores)
    (hcovers : config.covers request = true) (h : bank.Filling role request.wordAddr memory inner) :
    Ends False (bank.access inner request) (Answers role request memory) (Delays role request memory) := by
  obtain ⟨pending, hpending, hfetches, -⟩ := id h
  rw [access_of_pending haligned hcovers hpending hfetches.line]
  refine ((continuePending_fills hconfig h).imp (fun _ _ hs => hs)
    fun error s hs => ⟨hs.1, .inl ⟨hcovers, hs.2⟩⟩).onOk fun _ s hs => ?_
  obtain ⟨way, hway, hends⟩ := finish_filled haligned hmaps hstores hcovers hs
  dsimp only
  rw [hway]
  exact hends

/-- A request with nothing in progress. -/
theorem access_rests (hconfig : config.Within memory.mapped) (haligned : ¬ request.Misaligned)
    (hmaps : memory.Maps request.addr request.width) (hcharges : Charges role bank request)
    (h : bank.Rests role memory inner) :
    Ends False (bank.access inner request) (Answers role request memory) (Delays role request memory) := by
  obtain ⟨hpending, lower, hholds, hquiet⟩ := id h
  cases hcovers : config.covers request with
  | false =>
    exact ends_bypass haligned hcovers hpending hcharges hholds
      (called_of_quiet haligned hmaps hquiet)
  | true =>
    rw [access_of_pending_none haligned hcovers hpending]
    cases hlookup : bank.lookupWay (config.decode request.wordAddr) with
    | some way => exact finish_rests haligned hmaps hcharges hlookup h
    | none =>
      unfold miss
      dsimp only
      split
      · -- the line is fetched
        have hcaches : config.caches request.wordAddr = true := by
          rw [config.covers_eq haligned] at hcovers
          rw [config.caches_eq, CacheConfig.cachesLineContaining] at hcovers ⊢
          rwa [config.lineBase_wordAddr]
        have hregion (hcopies : role.copies) (a : Address)
            (ha : config.lineBase a = config.lineBase request.wordAddr) : role.region a := by
          refine hcharges.region hcopies a ?_
          unfold Asked
          rw [if_pos hcovers]
          exact ⟨hlookup, ha⟩
        refine ((fillLine_fills hconfig h hcaches hlookup hregion request.refillKind).imp
          (fun _ _ hs => hs) fun error s hs => ⟨hs.1, .inl ⟨hcovers, hs.2⟩⟩).onOk fun way s hs => ?_
        obtain ⟨way', hway', hends⟩ :=
          finish_filled haligned hmaps hcharges.stores hcovers ⟨hs.1, way, hs.2⟩
        rw [hs.2] at hway'
        cases hway'
        exact hends
      · -- a store without its line
        rename_i hallocates
        rw [Bool.not_eq_true] at hallocates
        cases hstore : request.storeOp with
        | none =>
          unfold allocates at hallocates
          rw [hstore] at hallocates
          cases hallocates
        | some op =>
          refine ends_past hstore haligned hpending ?_ hcharges hlookup hholds
            (called_of_quiet haligned hmaps hquiet)
          refine fun _ => ⟨by rw [hstore]; rfl, ?_⟩
          rw [hlookup]
          exact hallocates

/-- **A request in progress.** -/
theorem access_waits (hconfig : config.Within memory.mapped) (haligned : ¬ request.Misaligned)
    (hmaps : memory.Maps request.addr request.width) (hstores : request.storeOp.isSome → role.stores)
    (h : bank.Awaits role request memory inner) :
    Ends False (bank.access inner request) (Answers role request memory) (Delays role request memory) := by
  obtain ⟨hcovers, hfills⟩ | ⟨hpending, hpasses, hcharges, lower, hholds, hawaiting⟩ := h
  · exact access_fills hconfig haligned hmaps hstores hcovers hfills
  have hcalled : Called request memory lower inner := called_of_awaiting haligned hmaps hawaiting
  cases hcovers : config.covers request with
  | false => exact ends_bypass haligned hcovers hpending hcharges hholds hcalled
  | true =>
    -- the store passes the bank once more
    obtain ⟨hisSome, hpolicy⟩ := hpasses hcovers
    obtain ⟨op, hstore⟩ := Option.isSome_iff_exists.1 hisSome
    rw [access_of_pending_none haligned hcovers hpending]
    cases hlookup : bank.lookupWay (config.decode request.wordAddr) with
    | some way =>
      rw [hlookup] at hpolicy
      exact ends_through hstore haligned hcharges hpending hpolicy hlookup hholds hcalled
    | none =>
      rw [hlookup] at hpolicy
      unfold miss
      dsimp only
      rw [show allocates config request = false from hpolicy, if_neg Bool.false_ne_true]
      exact ends_past hstore haligned hpending hpasses hcharges hlookup hholds hcalled

/-- A tick of the bus below. -/
theorem waits_tick (h : bank.Awaits role request memory inner) :
    bank.Awaits role request memory (Bus.tick inner) := by
  obtain ⟨hcovers, hfills⟩ | ⟨hpending, hpasses, hcharges, lower, hholds, hawaiting⟩ := h
  · exact .inl ⟨hcovers, fills_tick hfills⟩
  · exact .inr ⟨hpending, hpasses, hcharges, lower, hholds, awaiting_tick hawaiting⟩

end CacheBank

end RvSim
