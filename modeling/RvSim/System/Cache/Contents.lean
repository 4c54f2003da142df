import RvSim.System.Cache.LineWords
import RvSim.System.Cache.Served

/-!
# What a bank makes of the memory below it

A bank shows a memory to its client: the words of its lines, and the memory below where it has none. The two
memories differ in the dirty lines, and in the line whose write-back is on its way.

## Main definitions

* `CacheBank.Shows`: the lines of a bank are lines of a memory
* `CacheBank.DirtyAt`: a dirty line of the bank holds the address
* `CacheBank.Holds`: the memory that a bank shows over the one below

## Main results

* `CacheBank.Holds.startPending`, `CacheBank.Holds.writtenBack`, `CacheBank.Holds.install`: the steps of a
  line operation show the same memory
* `CacheBank.Holds.update`, `CacheBank.Holds.commit`: a store is one in the memory that is shown
-/

namespace RvSim

namespace CacheBank

variable {config : CacheConfig}

/-- What a bank is for, beside the others in front of the same bus. -/
structure Role where
  /-- where the memory below is the one that is shown -/
  region : Address → Prop
  /-- the lines are those of the memory that is shown -/
  copies : Prop
  /-- stores go to this bank -/
  stores : Prop
  /-- what the others rely on of the memory below -/
  below : ByteMemory → Prop
  free : stores → ∀ lower, below lower

/-- The bank that every access of the memory goes through. -/
def Role.whole : Role where
  region _ := True
  copies := True
  stores := True
  below _ := True
  free _ _ := trivial

/-- The line is one of the memory. -/
def ShowsLine (role : Role) (memory : ByteMemory) (setIndex : Fin config.setCount)
    (line : CacheLine config.lineWords) : Prop :=
  ∃ addr, config.caches addr = true ∧ (config.decode addr).setIndex = setIndex ∧
    (config.decode addr).tag = line.tag ∧
    (role.copies → line.words.toList = memory.words (config.lineBase addr) config.lineWords)

/-- The lines of the bank are lines of the memory, each of them there once. -/
structure Shows (bank : CacheBank config) (role : Role) (memory : ByteMemory) : Prop where
  lines : ∀ setIndex way, (bank.line setIndex way).valid = true →
    ShowsLine role memory setIndex (bank.line setIndex way)
  unique : ∀ setIndex way way', (bank.line setIndex way).valid = true →
    (bank.line setIndex way').valid = true →
    (bank.line setIndex way).tag = (bank.line setIndex way').tag → way = way'

/-- A dirty line of the bank holds the address. -/
def DirtyAt (bank : CacheBank config) (addr : Address) : Prop :=
  ∃ way, (bank.line (config.decode addr).setIndex way).holds (config.decode addr).tag = true ∧
    (bank.line (config.decode addr).setIndex way).dirty = true

/-- What a write-back on its way carries. -/
structure Carries (bank : CacheBank config) (role : Role) (memory : ByteMemory)
    (writeBack : PendingWriteBack config) : Prop where
  line : ∃ addr, config.caches addr = true ∧ writeBack.lineBase = config.lineBase addr ∧
    bank.lookupWay (config.decode addr) = none
  words : role.copies → writeBack.words.toList = memory.words writeBack.lineBase config.lineWords
  stores : role.stores

/-- **The memory that a bank shows** over the one below. `flight` is the write-back that is on its way. -/
structure Holds (bank : CacheBank config) (role : Role) (lower memory : ByteMemory)
    (flight : Option (PendingWriteBack config)) : Prop extends bank.Shows role memory where
  policy : ∀ setIndex way, (bank.line setIndex way).valid = true →
    (bank.line setIndex way).dirty = true → config.writePolicy = .writeBack ∧ role.stores
  rest : role.copies → ∀ addr, role.region addr → ¬ bank.DirtyAt addr →
    (∀ writeBack, flight = some writeBack → config.lineBase addr ≠ writeBack.lineBase) →
    memory addr = lower addr
  flight : ∀ writeBack, flight = some writeBack → bank.Carries role memory writeBack
  below : role.below lower

variable {bank bank' : CacheBank config} {lower memory : ByteMemory} {role : Role}
  {flight : Option (PendingWriteBack config)}

/-! ### Lines that stay -/

theorem ShowsLine.congr {setIndex : Fin config.setCount} {line line' : CacheLine config.lineWords}
    (h : ShowsLine role memory setIndex line) (htag : line'.tag = line.tag)
    (hwords : line'.words = line.words) : ShowsLine role memory setIndex line' := by
  unfold ShowsLine
  rw [htag, hwords]
  exact h

theorem SameLines.dirtyAt_iff (h : bank.SameLines bank') (addr : Address) :
    bank.DirtyAt addr ↔ bank'.DirtyAt addr := by
  unfold DirtyAt
  simp only [(h _ _).holds, (h _ _).dirty]

theorem Shows.congr (hshows : bank.Shows role memory) (h : bank'.SameLines bank) :
    bank'.Shows role memory := by
  refine ⟨fun setIndex way hvalid => ?_, fun setIndex way way' hvalid hvalid' htag => ?_⟩
  · have hline := h setIndex way
    exact (hshows.lines setIndex way (hline.valid ▸ hvalid)).congr hline.tag hline.words
  · refine hshows.unique setIndex way way' ((h _ _).valid ▸ hvalid) ((h _ _).valid ▸ hvalid') ?_
    rw [← (h _ _).tag, ← (h _ _).tag, htag]

theorem Holds.congr (hholds : bank.Holds role lower memory flight) (h : bank'.SameLines bank) :
    bank'.Holds role lower memory flight := by
  refine ⟨hholds.toShows.congr h, fun setIndex way hvalid hdirty => ?_, fun hcopies addr hin hclean hflight => ?_,
    fun writeBack hwriteBack => ?_, hholds.below⟩
  · exact hholds.policy setIndex way ((h _ _).valid ▸ hvalid) ((h _ _).dirty ▸ hdirty)
  · rw [h.dirtyAt_iff] at hclean
    exact hholds.rest hcopies addr hin hclean hflight
  · obtain ⟨⟨addr, hcaches, hbase, hnone⟩, hwords, hstores⟩ := hholds.flight writeBack hwriteBack
    refine ⟨⟨addr, hcaches, hbase, ?_⟩, hwords, hstores⟩
    rw [h.lookupWay]
    exact hnone

/-- A line that is looked up. -/
theorem valid_of_lookupWay {addr : Address} {way : Fin config.associativity}
    (h : bank.lookupWay (config.decode addr) = some way) :
    (bank.line (config.decode addr).setIndex way).valid = true ∧
      (bank.line (config.decode addr).setIndex way).tag = (config.decode addr).tag :=
  holds_iff.1 (bank.holds_of_lookupWay h)

/-- The words of a line that is looked up. -/
theorem Shows.words (hshows : bank.Shows role memory) {addr : Address} {way : Fin config.associativity}
    (h : bank.lookupWay (config.decode addr) = some way) :
    (role.copies → (bank.line (config.decode addr).setIndex way).words.toList =
        memory.words (config.lineBase addr) config.lineWords) ∧ config.caches addr = true := by
  obtain ⟨hvalid, htag⟩ := valid_of_lookupWay h
  obtain ⟨addr', hcaches, hset, htag', hwords⟩ := hshows.lines _ way hvalid
  have hline := config.decode_inj hset (htag'.trans htag)
  rw [CacheConfig.caches_eq, CacheConfig.cachesLineContaining, hline] at hcaches
  rw [hline] at hwords
  rw [CacheConfig.caches_eq]
  exact ⟨hwords, hcaches⟩

/-- **The word that is read from a line.** -/
theorem Shows.readWord (hshows : bank.Shows role memory) (hcopies : role.copies) {addr : Address}
    {way : Fin config.associativity} (h : bank.lookupWay (config.decode addr) = some way)
    (haddr : addr.toNat % 4 = 0) : bank.readWord (config.decode addr) way = memory.word addr := by
  have hword := CacheConfig.getElem_of_words ((hshows.words h).1 hcopies) (config.decode addr).wordIndex.isLt
  rw [config.wordAddr_wordIndex haddr] at hword
  exact hword

/-- No line is there that is not cached. -/
theorem Shows.lookupWay_of_not_caches (hshows : bank.Shows role memory) {addr : Address}
    (h : config.caches addr = false) : bank.lookupWay (config.decode addr) = none := by
  cases hlookup : bank.lookupWay (config.decode addr) with
  | none => rfl
  | some way =>
    have hcaches := (hshows.words hlookup).2
    rw [h] at hcaches
    cases hcaches

/-- An address whose line is not there is not dirty. -/
theorem not_dirtyAt_of_lookupWay {addr : Address} (h : bank.lookupWay (config.decode addr) = none) :
    ¬ bank.DirtyAt addr := by
  rintro ⟨way, hholds, -⟩
  rw [lookupWay_eq_none] at h
  rw [h way] at hholds
  cases hholds

theorem not_valid_of_lookupWay {addr : Address} (h : bank.lookupWay (config.decode addr) = none)
    {way : Fin config.associativity}
    (hvalid : (bank.line (config.decode addr).setIndex way).valid = true) :
    (bank.line (config.decode addr).setIndex way).tag ≠ (config.decode addr).tag := by
  intro htag
  have hholds := holds_iff.2 ⟨hvalid, htag⟩
  rw [lookupWay_eq_none] at h
  rw [h way] at hholds
  cases hholds

/-- The line of a refill is one of the memory below, where nothing of it is dirty or on its way. -/
theorem Holds.words_lower (h : bank.Holds role lower memory none) (hcopies : role.copies) {addr : Address}
    (hnone : bank.lookupWay (config.decode addr) = none)
    (hregion : ∀ a, config.lineBase a = config.lineBase addr → role.region a) :
    lower.words (config.lineBase addr) config.lineWords =
      memory.words (config.lineBase addr) config.lineWords := by
  refine ByteMemory.words_congr fun offset hoffset => ?_
  have hwords := config.lineWords_mul
  have hsize := config.lineSize_lt
  have hline : config.lineBase (config.lineBase addr + BitVec.ofNat 64 offset) = config.lineBase addr := by
    rw [CacheConfig.lineBase_eq_iff_sub_lt, BitVec.add_comm, BitVec.add_sub_cancel, BitVec.toNat_ofNat,
      Nat.mod_eq_of_lt (by omega)]
    omega
  have hdecode := config.decode_congr hline
  refine (h.rest hcopies _ (hregion _ hline) (not_dirtyAt_of_lookupWay ?_) nofun).symm
  rw [lookupWay_eq_none] at hnone ⊢
  rw [hdecode.1, hdecode.2]
  exact hnone

/-! ### A line operation -/

/-- A victim that is dirty. -/
theorem dirtyAt_startPending (addr : Address) (kind : RefillKind) {a : Address}
    (h : bank.DirtyAt a) :
    (bank.startPending (config.decode addr) kind).DirtyAt a ∨
      ((config.decode a).setIndex = (config.decode addr).setIndex ∧
        (bank.line (config.decode addr).setIndex
          (bank.victimWay (config.decode addr).setIndex)).holds (config.decode a).tag = true ∧
        (bank.line (config.decode addr).setIndex
          (bank.victimWay (config.decode addr).setIndex)).dirty = true) := by
  obtain ⟨way, hholds, hdirty⟩ := h
  by_cases hvictim : (config.decode a).setIndex = (config.decode addr).setIndex ∧
      way = bank.victimWay (config.decode addr).setIndex
  · obtain ⟨hset, rfl⟩ := hvictim
    rw [hset] at hholds hdirty
    exact .inr ⟨hset, hholds, hdirty⟩
  · refine .inl ⟨way, ?_⟩
    rw [line_startPending, if_neg hvictim]
    exact ⟨hholds, hdirty⟩

/-- The lines that are left when a victim is gone. -/
theorem valid_startPending {addr : Address} {kind : RefillKind} {setIndex : Fin config.setCount}
    {way : Fin config.associativity}
    (h : ((bank.startPending (config.decode addr) kind).line setIndex way).valid = true) :
    ¬ (setIndex = (config.decode addr).setIndex ∧ way = bank.victimWay (config.decode addr).setIndex) ∧
      (bank.startPending (config.decode addr) kind).line setIndex way = bank.line setIndex way := by
  rw [line_startPending] at h ⊢
  split at h
  · cases h
  · rename_i hother
    exact ⟨hother, if_neg hother⟩

theorem Shows.startPending (h : bank.Shows role memory) (addr : Address) (kind : RefillKind) :
    (bank.startPending (config.decode addr) kind).Shows role memory := by
  constructor
  · intro setIndex way hvalid
    obtain ⟨-, hline⟩ := valid_startPending hvalid
    rw [hline] at hvalid ⊢
    exact h.lines setIndex way hvalid
  · intro setIndex way way' hvalid hvalid' htag
    obtain ⟨-, hline⟩ := valid_startPending hvalid
    obtain ⟨-, hline'⟩ := valid_startPending hvalid'
    rw [hline] at hvalid htag
    rw [hline'] at hvalid' htag
    exact h.unique setIndex way way' hvalid hvalid' htag

/-- **The victim of a line operation** leaves the bank; a dirty one is on its way. -/
theorem Holds.startPending (h : bank.Holds role lower memory none) (addr : Address) (kind : RefillKind) :
    (bank.startPending (config.decode addr) kind).Holds role lower memory
      (victimWriteBack (config.decode addr).setIndex (bank.line (config.decode addr).setIndex
        (bank.victimWay (config.decode addr).setIndex))) := by
  refine { h.toShows.startPending addr kind with
    policy := ?_, rest := ?_, flight := ?_, below := h.below }
  · intro setIndex way hvalid hdirty
    obtain ⟨-, hline⟩ := valid_startPending hvalid
    rw [hline] at hvalid hdirty
    exact h.policy setIndex way hvalid hdirty
  · intro hcopies a hregion hclean hflight
    refine h.rest hcopies a hregion (fun hdirty => ?_) nofun
    obtain hdirty | ⟨hset, hholds, hdirty⟩ := dirtyAt_startPending addr kind hdirty
    · exact hclean hdirty
    · obtain ⟨hvalid, htag⟩ := holds_iff.1 hholds
      have hpolicy := (h.policy _ _ hvalid hdirty).1
      refine hflight _ (if_pos ⟨hpolicy, hvalid, hdirty⟩) ?_
      show _ = config.lineBaseForTag _ _
      rw [htag, ← hset, config.lineBaseForTag_decode]
  · intro writeBack hwriteBack
    unfold victimWriteBack at hwriteBack
    split at hwriteBack
    · rename_i hvictim
      cases hwriteBack
      obtain ⟨a, hcaches, hset, htag, hwords⟩ := h.lines _ _ hvictim.2.1
      have hbase : config.lineBaseForTag (config.decode addr).setIndex (bank.line
          (config.decode addr).setIndex (bank.victimWay (config.decode addr).setIndex)).tag =
            config.lineBase a := by
        rw [← htag, ← hset, config.lineBaseForTag_decode]
      have hstores := (h.policy _ _ hvictim.2.1 hvictim.2.2).2
      refine ⟨⟨a, hcaches, hbase, ?_⟩, fun hcopies => ?_, hstores⟩
      · rw [lookupWay_eq_none]
        intro way
        rw [Bool.eq_false_iff]
        intro hholds
        obtain ⟨hvalid, htag'⟩ := holds_iff.1 hholds
        obtain ⟨hother, hline⟩ := valid_startPending hvalid
        rw [hline] at hvalid htag'
        rw [hset] at hvalid htag' hother
        exact hother ⟨rfl, h.unique _ _ _ hvalid hvictim.2.1 (htag'.trans htag)⟩
      · show _ = memory.words (config.lineBaseForTag _ _) _
        rw [hbase]
        exact hwords hcopies
    · cases hwriteBack

/-- **The write-back is done.** -/
theorem Holds.writtenBack {writeBack : PendingWriteBack config}
    (h : bank.Holds role lower memory (some writeBack)) :
    bank.Holds role (lower.writeWords writeBack.lineBase writeBack.words.toList) memory none := by
  obtain ⟨⟨addr, -, hbase, -⟩, hwords, hstores⟩ := h.flight writeBack rfl
  refine { h with rest := ?_, flight := nofun, below := role.free hstores _ }
  intro hcopies a hregion hclean _
  rw [hwords hcopies, hbase, config.writeWords_line]
  split
  · rfl
  · rename_i hother
    refine h.rest hcopies a hregion hclean ?_
    rintro _ ⟨⟩
    rw [hbase]
    exact hother

section Install

variable {refill : PendingRefill config} {words : Vector U32 config.lineWords} {addr : Address}

theorem Shows.install (h : bank.Shows role memory) (hcaches : config.caches addr = true)
    (hset : refill.setIndex = (config.decode addr).setIndex) (htag : refill.tag = (config.decode addr).tag)
    (hnone : bank.lookupWay (config.decode addr) = none)
    (hwords : role.copies → words.toList = memory.words (config.lineBase addr) config.lineWords) :
    (bank.install refill words).Shows role memory := by
  have hnew {way : Fin config.associativity} (hvalid : (bank.line refill.setIndex way).valid = true) :
      (bank.line refill.setIndex way).tag ≠ refill.tag := by
    rw [hset] at hvalid ⊢
    rw [htag]
    exact not_valid_of_lookupWay hnone hvalid
  constructor
  · intro setIndex way hvalid
    have hline := line_install bank refill words setIndex way
    rw [hline.valid] at hvalid
    have hshows : ShowsLine role memory setIndex (if setIndex = refill.setIndex ∧ way = refill.wayIndex then
        ⟨true, false, refill.tag, words, 0⟩ else bank.line setIndex way) := by
      split at hvalid
      · rename_i hthis
        rw [if_pos hthis, hthis.1]
        exact ⟨addr, hcaches, hset.symm, htag.symm, hwords⟩
      · rename_i hother
        rw [if_neg hother]
        exact h.lines setIndex way hvalid
    exact hshows.congr hline.tag hline.words
  · intro setIndex way way' hvalid hvalid' heq
    have hline := line_install bank refill words setIndex way
    have hline' := line_install bank refill words setIndex way'
    rw [hline.tag, hline'.tag] at heq
    rw [hline.valid] at hvalid
    rw [hline'.valid] at hvalid'
    by_cases hthis : setIndex = refill.setIndex ∧ way = refill.wayIndex
    · by_cases hthis' : setIndex = refill.setIndex ∧ way' = refill.wayIndex
      · rw [hthis.2, hthis'.2]
      · rw [if_neg hthis'] at hvalid' heq
        rw [if_pos hthis] at heq
        obtain ⟨rfl, -⟩ := hthis
        exact absurd heq.symm (hnew hvalid')
    · rw [if_neg hthis] at hvalid heq
      by_cases hthis' : setIndex = refill.setIndex ∧ way' = refill.wayIndex
      · rw [if_pos hthis'] at heq
        obtain ⟨rfl, -⟩ := hthis'
        exact absurd heq (hnew hvalid)
      · rw [if_neg hthis'] at hvalid' heq
        exact h.unique setIndex way way' hvalid hvalid' heq

/-- A dirty line stays where another one is installed. -/
theorem dirtyAt_install (hvacant : (bank.line refill.setIndex refill.wayIndex).valid = false)
    {a : Address} (h : bank.DirtyAt a) : (bank.install refill words).DirtyAt a := by
  obtain ⟨way, hholds, hdirty⟩ := h
  have hline := line_install bank refill words (config.decode a).setIndex way
  have hother : ¬ ((config.decode a).setIndex = refill.setIndex ∧ way = refill.wayIndex) := by
    rintro ⟨hset, rfl⟩
    have hvalid := (holds_iff.1 hholds).1
    rw [hset, hvacant] at hvalid
    cases hvalid
  rw [if_neg hother] at hline
  exact ⟨way, (hline.holds _).trans hholds, hline.dirty.trans hdirty⟩

/-- **A refilled line** is one of the memory. -/
theorem Holds.install (h : bank.Holds role lower memory none) (hcaches : config.caches addr = true)
    (hset : refill.setIndex = (config.decode addr).setIndex) (htag : refill.tag = (config.decode addr).tag)
    (hvacant : (bank.line refill.setIndex refill.wayIndex).valid = false)
    (hnone : bank.lookupWay (config.decode addr) = none)
    (hwords : role.copies → words.toList = memory.words (config.lineBase addr) config.lineWords) :
    (bank.install refill words).Holds role lower memory none := by
  refine { h.toShows.install hcaches hset htag hnone hwords with
    policy := ?_, rest := ?_, flight := nofun, below := h.below }
  · intro setIndex way hvalid hdirty
    have hline := line_install bank refill words setIndex way
    rw [hline.valid] at hvalid
    rw [hline.dirty] at hdirty
    split at hvalid
    · rename_i hthis
      rw [if_pos hthis] at hdirty
      cases hdirty
    · rename_i hother
      rw [if_neg hother] at hdirty
      exact h.policy setIndex way hvalid hdirty
  · intro hcopies a hregion hclean _
    exact h.rest hcopies a hregion (fun hdirty => hclean (dirtyAt_install hvacant hdirty)) nofun

end Install

/-! ### A store -/

section Store

variable {op : StoreOp} {way : Fin config.associativity}

theorem store_of_lineBase_ne (memory : ByteMemory) (hword : op.addr.toNat % 4 + op.width ≤ 4)
    {a : Address} (h : config.lineBase a ≠ config.lineBase op.addr) : memory.store op a = memory a :=
  if_neg fun hlt => h (CacheConfig.lineBase_of_stored hword hlt)

theorem store_eq_of_eq {a : Address} (h : memory a = lower a) : memory.store op a = lower.store op a := by
  unfold ByteMemory.store
  rw [h]

/-- The lines behind a store to one of them. -/
theorem Shows.update (h : bank.Shows role memory) (hword : op.addr.toNat % 4 + op.width ≤ 4)
    (hway : bank.lookupWay (config.decode op.addr) = some way) (dirty : Bool) :
    (bank.updateCachedStore (config.decode op.addr) way op dirty).Shows role (memory.store op) := by
  obtain ⟨hvalid, htag⟩ := valid_of_lookupWay hway
  have hsame (setIndex : Fin config.setCount) (way' : Fin config.associativity) :
      ((bank.updateCachedStore (config.decode op.addr) way op dirty).line setIndex way').valid =
          (bank.line setIndex way').valid ∧
        ((bank.updateCachedStore (config.decode op.addr) way op dirty).line setIndex way').tag =
          (bank.line setIndex way').tag := by
    have hline := line_updateCachedStore bank (config.decode op.addr) way op dirty setIndex way'
    rw [hline.valid, hline.tag]
    split
    · rename_i hthis
      rw [hthis.1, hthis.2]
      exact ⟨hvalid.symm, htag.symm⟩
    · exact ⟨rfl, rfl⟩
  constructor
  · intro setIndex way' hvalid'
    have hline := line_updateCachedStore bank (config.decode op.addr) way op dirty setIndex way'
    rw [(hsame setIndex way').1] at hvalid'
    by_cases hthis : setIndex = (config.decode op.addr).setIndex ∧ way' = way
    · obtain ⟨rfl, rfl⟩ := hthis
      rw [if_pos ⟨rfl, rfl⟩] at hline
      obtain ⟨hwords, hcaches⟩ := h.words hway
      refine ⟨op.addr, hcaches, rfl, hline.tag.symm, fun hcopies => ?_⟩
      rw [hline.words]
      exact CacheConfig.words_store_same hword (hwords hcopies)
    · rw [if_neg hthis] at hline
      obtain ⟨addr, hcaches, hset, htag', hwords⟩ := h.lines setIndex way' hvalid'
      refine ⟨addr, hcaches, hset, htag'.trans hline.tag.symm, fun hcopies => ?_⟩
      rw [hline.words, hwords hcopies, CacheConfig.words_store_other hword]
      intro hbase
      have hdecode := config.decode_congr hbase
      have hset' := hdecode.1.trans hset
      subst hset'
      exact hthis ⟨rfl, h.unique _ _ _ hvalid' hvalid (by rw [← htag', ← hdecode.2, htag])⟩
  · intro setIndex way' way'' hvalid' hvalid'' heq
    rw [(hsame setIndex way').1] at hvalid'
    rw [(hsame setIndex way'').1] at hvalid''
    rw [(hsame setIndex way').2, (hsame setIndex way'').2] at heq
    exact h.unique setIndex way' way'' hvalid' hvalid'' heq

/-- **A store that makes a line dirty.** -/
theorem Holds.updateDirty (h : bank.Holds role lower memory none)
    (hword : op.addr.toNat % 4 + op.width ≤ 4)
    (hway : bank.lookupWay (config.decode op.addr) = some way) (hpolicy : config.writePolicy = .writeBack)
    (hstores : role.stores) :
    (bank.updateCachedStore (config.decode op.addr) way op true).Holds role lower (memory.store op) none := by
  refine { h.toShows.update hword hway true with
    policy := ?_, rest := ?_, flight := nofun, below := h.below }
  · exact fun _ _ _ _ => ⟨hpolicy, hstores⟩
  · intro hcopies a hregion hclean _
    have hline (way' : Fin config.associativity) :=
      line_updateCachedStore bank (config.decode op.addr) way op true (config.decode a).setIndex way'
    have hother : config.lineBase a ≠ config.lineBase op.addr := by
      intro hbase
      have hdecode := config.decode_congr hbase
      refine hclean ⟨way, ?_, ?_⟩
      · rw [(hline way).holds, if_pos ⟨hdecode.1, rfl⟩, hdecode.2]
        exact holds_iff.2 ⟨rfl, rfl⟩
      · rw [(hline way).dirty, if_pos ⟨hdecode.1, rfl⟩]
    rw [store_of_lineBase_ne memory hword hother]
    refine h.rest hcopies a hregion (fun hdirty => hclean ?_) nofun
    obtain ⟨way', hholds, hdirty⟩ := hdirty
    have hthis : ¬ ((config.decode a).setIndex = (config.decode op.addr).setIndex ∧ way' = way) := by
      rintro ⟨hset, rfl⟩
      rw [hset] at hholds
      exact hother (config.decode_inj hset
        ((holds_iff.1 hholds).2.symm.trans (valid_of_lookupWay hway).2))
    have hline' := hline way'
    rw [if_neg hthis] at hline'
    exact ⟨way', (hline'.holds _).trans hholds, hline'.dirty.trans hdirty⟩

/-- Without the write-back policy no line is dirty. -/
theorem Holds.not_dirtyAt (h : bank.Holds role lower memory flight) (hpolicy : config.writePolicy ≠ .writeBack)
    (a : Address) : ¬ bank.DirtyAt a := by
  rintro ⟨way, hholds, hdirty⟩
  exact hpolicy (h.policy _ _ (holds_iff.1 hholds).1 hdirty).1

/-- **A store into a line and into the memory below.** -/
theorem Holds.updateThrough (h : bank.Holds role lower memory none)
    (hword : op.addr.toNat % 4 + op.width ≤ 4)
    (hway : bank.lookupWay (config.decode op.addr) = some way)
    (hpolicy : config.writePolicy ≠ .writeBack) (hstores : role.stores) :
    (bank.updateCachedStore (config.decode op.addr) way op false).Holds role (lower.store op)
      (memory.store op) none := by
  refine { h.toShows.update hword hway false with
    policy := ?_, rest := ?_, flight := nofun, below := role.free hstores _ }
  · intro setIndex way' hvalid hdirty
    have hline := line_updateCachedStore bank (config.decode op.addr) way op false setIndex way'
    rw [hline.valid] at hvalid
    rw [hline.dirty] at hdirty
    split at hvalid
    · rename_i hthis
      rw [if_pos hthis] at hdirty
      cases hdirty
    · rename_i hother
      rw [if_neg hother] at hdirty
      exact h.policy setIndex way' hvalid hdirty
  · intro hcopies a hregion _ _
    exact store_eq_of_eq (h.rest hcopies a hregion (h.not_dirtyAt hpolicy a) nofun)

/-- The lines of other addresses are not changed by a store. -/
theorem Shows.commit (h : bank.Shows role memory) (hword : op.addr.toNat % 4 + op.width ≤ 4)
    (hnone : bank.lookupWay (config.decode op.addr) = none) : bank.Shows role (memory.store op) := by
  refine ⟨fun setIndex way hvalid => ?_, h.unique⟩
  obtain ⟨addr, hcaches, hset, htag, hwords⟩ := h.lines setIndex way hvalid
  refine ⟨addr, hcaches, hset, htag, fun hcopies => ?_⟩
  rw [hwords hcopies, CacheConfig.words_store_other hword]
  intro hbase
  have hdecode := config.decode_congr hbase
  have hset' := hdecode.1.trans hset
  subst hset'
  exact not_valid_of_lookupWay hnone hvalid (htag.symm.trans hdecode.2.symm)

/-- **A store past the bank.** -/
theorem Holds.commit (h : bank.Holds role lower memory none) (hword : op.addr.toNat % 4 + op.width ≤ 4)
    (hnone : bank.lookupWay (config.decode op.addr) = none) (hstores : role.stores) :
    bank.Holds role (lower.store op) (memory.store op) none :=
  { h.toShows.commit hword hnone with
    policy := h.policy
    rest := fun hcopies a hregion hclean _ => store_eq_of_eq (h.rest hcopies a hregion hclean nofun)
    flight := nofun
    below := role.free hstores _ }

end Store

end CacheBank

end RvSim
