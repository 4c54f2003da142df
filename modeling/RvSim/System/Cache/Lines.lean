import RvSim.System.Cache.Bank

/-!
# The lines of a bank

What the operations of a bank do to its lines. Nothing but the use counts is left open.

## Main definitions

* `CacheBank.SameLines`: two banks whose lines differ in their use counts only

## Main results

* `CacheBank.line_setLine`, `CacheBank.sameLines_touchLine`
* `CacheBank.lookupWay_eq_none`: what a lookup finds
* `CacheBank.line_startPending`, `CacheBank.line_install`, `CacheBank.line_updateCachedStore`
-/

namespace RvSim

/-- A line, up to its use count. -/
structure CacheLine.Same {words : Nat} (line line' : CacheLine words) : Prop where
  valid : line.valid = line'.valid
  dirty : line.dirty = line'.dirty
  tag : line.tag = line'.tag
  words : line.words = line'.words

theorem CacheLine.Same.refl {words : Nat} (line : CacheLine words) : line.Same line :=
  ⟨rfl, rfl, rfl, rfl⟩

theorem CacheLine.Same.trans {words : Nat} {a b c : CacheLine words} (h : a.Same b) (h' : b.Same c) :
    a.Same c :=
  ⟨h.valid.trans h'.valid, h.dirty.trans h'.dirty, h.tag.trans h'.tag, h.words.trans h'.words⟩

theorem CacheLine.Same.holds {words : Nat} {line line' : CacheLine words} (h : line.Same line')
    (tag : U64) : line.holds tag = line'.holds tag := by
  rw [CacheLine.holds, CacheLine.holds, h.valid, h.tag]

namespace CacheBank

theorem holds_iff {words : Nat} {line : CacheLine words} {tag : U64} :
    line.holds tag = true ↔ line.valid = true ∧ line.tag = tag := by
  unfold CacheLine.holds
  rw [Bool.and_eq_true, beq_iff_eq]

variable {config : CacheConfig} (bank : CacheBank config)

theorem line_setLine (setIndex setIndex' : Fin config.setCount) (way way' : Fin config.associativity)
    (line : CacheLine config.lineWords) :
    (bank.setLine setIndex way line).line setIndex' way' =
      if setIndex' = setIndex ∧ way' = way then line else bank.line setIndex' way' := by
  unfold CacheBank.line setLine CacheSet.setLine
  by_cases hset : setIndex' = setIndex
  · subst hset
    by_cases hway : way' = way
    · subst hway
      simp
    · have hval : ¬ way.val = way'.val := fun h => hway (Fin.ext h.symm)
      simp [hway, Vector.getElem_set_ne, hval]
  · have hval : ¬ setIndex.val = setIndex'.val := fun h => hset (Fin.ext h.symm)
    simp [hset, Vector.getElem_set_ne, hval]

/-- The banks have the same lines, up to use counts. -/
def SameLines (bank bank' : CacheBank config) : Prop :=
  ∀ setIndex way, (bank.line setIndex way).Same (bank'.line setIndex way)

theorem sameLines_touchLine (setIndex : Fin config.setCount) (way : Fin config.associativity) :
    (bank.touchLine setIndex way).SameLines bank := by
  intro setIndex' way'
  unfold touchLine
  dsimp only
  rw [line_setLine]
  split
  · rename_i h
    rw [h.1, h.2]
    exact ⟨rfl, rfl, rfl, rfl⟩
  · exact .refl _

variable {bank} in
theorem SameLines.lookupWay {bank' : CacheBank config} (h : bank.SameLines bank')
    (decoded : DecodedAddress config) : bank.lookupWay decoded = bank'.lookupWay decoded := by
  unfold CacheBank.lookupWay
  congr 1
  funext way
  exact (h decoded.setIndex way).holds _

theorem lookupWay_eq_none {decoded : DecodedAddress config} :
    bank.lookupWay decoded = none ↔
      ∀ way, (bank.line decoded.setIndex way).holds decoded.tag = false := by
  unfold lookupWay
  rw [List.find?_eq_none]
  exact ⟨fun h way => Bool.not_eq_true _ ▸ h way (List.mem_finRange way),
    fun h way _ => by rw [h way]; decide⟩

theorem holds_of_lookupWay {decoded : DecodedAddress config} {way : Fin config.associativity}
    (h : bank.lookupWay decoded = some way) :
    (bank.line decoded.setIndex way).holds decoded.tag = true := by
  unfold lookupWay at h
  have hholds := List.find?_some h
  exact hholds

theorem exists_lookupWay {decoded : DecodedAddress config} {way : Fin config.associativity}
    (h : (bank.line decoded.setIndex way).holds decoded.tag = true) :
    ∃ way', bank.lookupWay decoded = some way' := by
  cases hlookup : bank.lookupWay decoded with
  | none =>
    rw [lookupWay_eq_none] at hlookup
    rw [hlookup way] at h
    cases h
  | some way' => exact ⟨way', rfl⟩

/-! ## The operations -/

theorem lines_selectVictim (set : CacheSet config) : set.selectVictim.2.lines = set.lines := by
  unfold CacheSet.selectVictim
  split
  · dsimp only
    split <;> rfl
  · split <;> rfl

/-- A set with a free way has a victim that is free. -/
theorem valid_victimWay {setIndex : Fin config.setCount} {way : Fin config.associativity}
    (h : (bank.line setIndex way).valid = false) :
    (bank.line setIndex (bank.victimWay setIndex)).valid = false := by
  unfold victimWay CacheSet.selectVictim
  split
  · rename_i index hindex
    have hvalid := List.find?_some hindex
    rwa [Bool.not_eq_true'] at hvalid
  · rename_i hnone
    rw [List.find?_eq_none] at hnone
    have hway := hnone way (List.mem_finRange way)
    rw [Bool.not_eq_true, Bool.not_eq_false'] at hway
    exact absurd (hway.symm.trans h) (by decide)

theorem line_startPending (decoded : DecodedAddress config) (kind : RefillKind)
    (setIndex : Fin config.setCount) (way : Fin config.associativity) :
    (bank.startPending decoded kind).line setIndex way =
      if setIndex = decoded.setIndex ∧ way = bank.victimWay decoded.setIndex then
        { bank.line setIndex way with valid := false, dirty := false }
      else bank.line setIndex way := by
  have hsets (setIndex : Fin config.setCount) (way : Fin config.associativity) :
      CacheBank.line { bank with
          sets := bank.sets.set decoded.setIndex (bank.sets[decoded.setIndex].selectVictim.2) }
        setIndex way = bank.line setIndex way := by
    unfold CacheBank.line
    by_cases h : setIndex = decoded.setIndex
    · subst h
      simp [lines_selectVictim]
    · have hval : ¬ decoded.setIndex.val = setIndex.val := fun hval => h (Fin.ext hval.symm)
      simp [Vector.getElem_set_ne, hval]
  unfold victimWay
  show (CacheBank.setLine _ _ _ _).line setIndex way = _
  rw [line_setLine, hsets]
  by_cases h : setIndex = decoded.setIndex ∧ way = bank.sets[decoded.setIndex].selectVictim.1
  · rw [if_pos h, if_pos h, h.1, h.2]
  · rw [if_neg h, if_neg h]

theorem line_install (refill : PendingRefill config) (words : Vector U32 config.lineWords)
    (setIndex : Fin config.setCount) (way : Fin config.associativity) :
    ((bank.install refill words).line setIndex way).Same
      (if setIndex = refill.setIndex ∧ way = refill.wayIndex then
        ⟨true, false, refill.tag, words, 0⟩
      else bank.line setIndex way) := by
  refine (sameLines_touchLine _ _ _ setIndex way).trans ?_
  rw [line_setLine]
  split
  · exact ⟨rfl, rfl, rfl, rfl⟩
  · exact .refl _

theorem line_updateCachedStore (decoded : DecodedAddress config) (way : Fin config.associativity)
    (op : StoreOp) (dirty : Bool) (setIndex : Fin config.setCount)
    (way' : Fin config.associativity) :
    ((bank.updateCachedStore decoded way op dirty).line setIndex way').Same
      (if setIndex = decoded.setIndex ∧ way' = way then
        ⟨true, dirty, decoded.tag, storedWords decoded op (bank.line setIndex way').words, 0⟩
      else bank.line setIndex way') := by
  refine (sameLines_touchLine _ _ _ setIndex way').trans ?_
  rw [line_setLine]
  split
  · rename_i h
    rw [h.1, h.2]
    exact ⟨rfl, rfl, rfl, rfl⟩
  · exact .refl _

/-- A refilled line is found. -/
theorem exists_lookupWay_install (refill : PendingRefill config)
    (words : Vector U32 config.lineWords) {decoded : DecodedAddress config}
    (hset : refill.setIndex = decoded.setIndex) (htag : refill.tag = decoded.tag) :
    ∃ way, (bank.install refill words).lookupWay decoded = some way := by
  have hholds : ((bank.install refill words).line decoded.setIndex refill.wayIndex).holds decoded.tag =
      true := by
    rw [(line_install bank refill words decoded.setIndex refill.wayIndex).holds, if_pos ⟨hset.symm, rfl⟩,
      htag]
    show (true && decoded.tag == decoded.tag) = true
    simp
  exact exists_lookupWay _ hholds

/-! ## Invalidation -/

theorem pending_dropLine (decoded : DecodedAddress config) :
    (bank.dropLine decoded).pending = bank.pending := by
  unfold dropLine
  split <;> rfl

theorem pending_invalidateLineBase (lineBase : Address) :
    (bank.invalidateLineBase lineBase).pending =
      if config.cachesLine lineBase ∧ bank.pending.any (·.matchesLine (config.decode lineBase)) then none
      else bank.pending := by
  unfold invalidateLineBase
  split
  · rename_i hcached
    dsimp only
    rw [pending_dropLine]
    by_cases hmatch : bank.pending.any (·.matchesLine (config.decode lineBase))
    · rw [if_pos hmatch, if_pos ⟨hcached, hmatch⟩]
    · rw [if_neg hmatch, if_neg fun h => hmatch h.2]
  · rename_i hcached
    rw [if_neg fun h => hcached h.1]

variable {bank} in
theorem pending_invalidateRange (h : bank.pending = none) (start : Address)
    (len : U64) : (bank.invalidateRange start len).pending = none := by
  unfold invalidateRange
  generalize lineBasesForRange config start len = lineBases
  induction lineBases generalizing bank with
  | nil => exact h
  | cons lineBase lineBases ih =>
    refine ih ?_
    rw [pending_invalidateLineBase, h, ite_self]

theorem pending_invalidateLine (addr : Address) :
    (bank.invalidateLine addr).pending =
      if config.cachesLineContaining addr ∧ bank.pending.any (·.matchesLine (config.decode addr)) then
        none
      else bank.pending := by
  unfold PendingLineOp.matchesLine
  rw [invalidateLine, pending_invalidateLineBase]
  unfold PendingLineOp.matchesLine
  rw [config.decode_lineBase, config.decode_lineBase, config.lineBase_lineBase]
  rfl

theorem valid_dropLine (decoded : DecodedAddress config) {setIndex : Fin config.setCount}
    {way : Fin config.associativity} (h : (bank.line setIndex way).valid = false) :
    ((bank.dropLine decoded).line setIndex way).valid = false := by
  unfold dropLine
  split
  · rw [line_setLine]
    split
    · rfl
    · exact h
  · exact h

/-- Invalidation makes no line valid. -/
theorem valid_invalidateLineBase (lineBase : Address) {setIndex : Fin config.setCount}
    {way : Fin config.associativity} (h : (bank.line setIndex way).valid = false) :
    ((bank.invalidateLineBase lineBase).line setIndex way).valid = false := by
  unfold invalidateLineBase
  split
  · dsimp only
    split
    · exact valid_dropLine _ _ h
    · exact valid_dropLine _ _ h
  · exact h

end CacheBank

end RvSim
