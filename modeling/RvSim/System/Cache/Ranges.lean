import RvSim.Devices.Ram
import RvSim.System.Cache.Lines
import RvSim.System.Cache.SplitL1

/-!
# The lines of a range

Maintenance goes over the lines of a range from the first one on. It stops at a line that starts at the
last byte or behind it, so the line behind the range is one of them, unless the last byte starts a line.

## Main definitions

* `InRange`, `CacheConfig.Intersects`: the bytes of a range, and the lines that have one
* `CacheConfig.Behind`: the line that is visited without having one
* `CacheBank.OthersKept`: the lines without a byte of the range are as they were
* `InvalidatesAtOnce`: an invalidation in progress is done with the bank

## Main results

* `CacheConfig.mem_lineBasesForRange`: the lines that are visited
* `invalidation_keeps_others_iff`: when an invalidation leaves the other lines alone
-/

namespace RvSim

/-- A byte of `[start, start + len)`. -/
def InRange (start : Address) (len : U64) (addr : Address) : Prop :=
  start.toNat ≤ addr.toNat ∧ addr.toNat < start.toNat + len.toNat

namespace CacheConfig

variable (config : CacheConfig) {start : Address} {len : U64}

/-- A byte of the range lies in the line. -/
def Intersects (start : Address) (len : U64) (lineBase : Address) : Prop :=
  ∃ addr, InRange start len addr ∧ config.lineBase addr = lineBase

/-- The line behind that of the last byte, where this byte is not the first of its line. -/
def Behind (start : Address) (len : U64) (lineBase : Address) : Prop :=
  ∃ last, InRange start len last ∧ (∀ addr, InRange start len addr → addr.toNat ≤ last.toNat) ∧
    config.lineBase last ≠ last ∧
    lineBase.toNat = (config.lineBase last).toNat + config.lineSize

/-! ## The lines that are visited -/

/-- The lines from one on: each one but the first is behind a line that starts before the last byte. -/
theorem mem_lineBasesFrom (last lineBase b : Address) (count : Nat) :
    b ∈ CacheBank.lineBasesFrom config.lineSize last count lineBase ↔
      ∃ k ≤ count, b.toNat = lineBase.toNat + k * config.lineSize ∧
        (k = 0 ∨ lineBase.toNat + (k - 1) * config.lineSize < last.toNat) := by
  induction count generalizing lineBase with
  | zero =>
    unfold CacheBank.lineBasesFrom
    rw [List.mem_singleton]
    constructor
    · rintro rfl
      exact ⟨0, le_rfl, by omega, .inl rfl⟩
    · rintro ⟨k, hk, hb, -⟩
      obtain rfl : k = 0 := by omega
      exact BitVec.eq_of_toNat_eq (by omega)
  | succ count ih =>
    unfold CacheBank.lineBasesFrom
    rw [List.mem_cons]
    have hlt := b.isLt
    have hfirst : b = lineBase ↔ b.toNat = lineBase.toNat := BitVec.toNat_inj.symm
    split
    -- the loop stops here, at the last byte or at the end of the address space
    · rename_i hstop
      constructor
      · rintro (rfl | hnil)
        · exact ⟨0, Nat.zero_le _, by omega, .inl rfl⟩
        · cases hnil
      · rintro ⟨k, -, hb, hk⟩
        refine .inl (hfirst.2 ?_)
        rcases Nat.eq_zero_or_pos k with rfl | hpos
        · omega
        · rcases hstop with hlast | hover
          · have hbefore := hk.resolve_left (by omega)
            have := BitVec.le_def.1 hlast
            omega
          · have := Nat.le_mul_of_pos_left config.lineSize hpos
            omega
    -- the loop goes on with the next line, which is one step less far away
    · rename_i hgo
      obtain ⟨hbefore, hfit⟩ := not_or.1 hgo
      rw [BitVec.not_le, BitVec.lt_def] at hbefore
      have hnext : (lineBase + BitVec.ofNat 64 config.lineSize).toNat =
          lineBase.toNat + config.lineSize := by
        rw [BitVec.toNat_add, config.toNat_lineSize, Nat.mod_eq_of_lt (by omega)]
      rw [ih, hnext]
      constructor
      · rintro (rfl | ⟨k, hk, hb, hstep⟩)
        · exact ⟨0, Nat.zero_le _, by omega, .inl rfl⟩
        · refine ⟨k + 1, by omega, by rw [hb, Nat.succ_mul]; omega, .inr ?_⟩
          rcases hstep with rfl | hstep
          · simpa using hbefore
          · rcases Nat.eq_zero_or_pos k with rfl | hpos
            · simpa using hbefore
            · have hk : k + 1 - 1 = k - 1 + 1 := by omega
              rw [hk, Nat.succ_mul]
              omega
      · rintro ⟨k, hk, hb, hstep⟩
        rcases Nat.eq_zero_or_pos k with rfl | hpos
        · exact .inl (hfirst.2 (by omega))
        · refine .inr ⟨k - 1, by omega, ?_, ?_⟩
          · have hsucc : k = k - 1 + 1 := by omega
            rw [hsucc, Nat.succ_mul] at hb
            omega
          · rcases Nat.eq_zero_or_pos (k - 1) with hzero | hpos'
            · exact .inl hzero
            · refine .inr ?_
              have hstep := hstep.resolve_left (by omega)
              have hsucc : k - 1 = k - 1 - 1 + 1 := by omega
              rw [hsucc, Nat.succ_mul] at hstep
              omega

/-- The last byte of a range; a range that would go around ends with the address space. -/
theorem exists_last (start : Address) {len : U64} (hlen : len ≠ 0) :
    InRange start len (if start.toNat + (len.toNat - 1) < 2 ^ 64 then start + (len - 1) else -1) ∧
      ∀ addr, InRange start len addr → addr.toNat ≤
        (if start.toNat + (len.toNat - 1) < 2 ^ 64 then start + (len - 1) else -1).toNat := by
  have hpos : 0 < len.toNat := Nat.pos_of_ne_zero fun h => hlen (BitVec.eq_of_toNat_eq h)
  have hlt := len.isLt
  have hone : (1 : U64).toNat = 1 := rfl
  split
  · rename_i hfit
    have hlast : (start + (len - 1)).toNat = start.toNat + (len.toNat - 1) := by
      rw [BitVec.toNat_add, BitVec.toNat_sub, hone]
      omega
    unfold InRange
    rw [hlast]
    exact ⟨by omega, fun addr h => by omega⟩
  · rename_i hover
    have hlast : (-1 : Address).toNat = 2 ^ 64 - 1 := rfl
    have hstart := start.isLt
    unfold InRange
    rw [hlast]
    exact ⟨by omega, fun addr _ => by have := addr.isLt; omega⟩

variable {config} in
/-- The address that starts a line is its base. -/
theorem lineBase_of_toNat_eq {b : Address} {n : Nat} (h : b.toNat = n * config.lineSize) :
    config.lineBase b = b := by
  refine BitVec.eq_of_toNat_eq ?_
  rw [toNat_lineBase, h, Nat.mul_div_cancel _ config.lineSize_pos]

/-- The line `count` steps behind that of `start`, with the one in front of it starting before `last`. -/
def Steps (start last : Address) (count : Nat) (lineBase : Address) : Prop :=
  lineBase.toNat = (config.lineBase start).toNat + count * config.lineSize ∧
    (count = 0 ∨ (config.lineBase start).toNat + (count - 1) * config.lineSize < last.toNat)

section Steps

variable {config} {last b : Address} {k : Nat} (hin : InRange start len last)
  (hmax : ∀ addr, InRange start len addr → addr.toNat ≤ last.toNat)

include hin hmax

theorem Steps.intersects_or_behind (h : config.Steps start last k b) :
    config.Intersects start len b ∨ config.Behind start len b := by
  obtain ⟨hb, hk⟩ := h
  have hpos := config.lineSize_pos
  have hstart := Nat.div_mul_le_self start.toNat config.lineSize
  have hstart' := Nat.lt_div_mul_add hpos (a := start.toNat)
  rw [toNat_lineBase] at hb hk
  have hline : b.toNat = (start.toNat / config.lineSize + k) * config.lineSize := by
    rw [hb, Nat.add_mul]
  by_cases hle : b.toNat ≤ last.toNat
  · refine .inl ?_
    rcases Nat.eq_zero_or_pos k with rfl | hkpos
    · refine ⟨start, ⟨le_rfl, hin.1.trans_lt hin.2⟩, BitVec.eq_of_toNat_eq ?_⟩
      rw [toNat_lineBase, hline, Nat.add_zero]
    · have hone := Nat.le_mul_of_pos_left config.lineSize hkpos
      exact ⟨b, ⟨by omega, hle.trans_lt hin.2⟩, lineBase_of_toNat_eq hline⟩
  · -- the last byte lies in the line in front of it, and does not start that line
    have hfrom := hin.1
    have hkpos : 0 < k := by
      rcases Nat.eq_zero_or_pos k with rfl | hkpos
      · omega
      · exact hkpos
    have hk := hk.resolve_left (by omega)
    have hsucc : k = k - 1 + 1 := by omega
    rw [hsucc, Nat.succ_mul] at hb
    have hdiv : last.toNat / config.lineSize * config.lineSize =
        start.toNat / config.lineSize * config.lineSize + (k - 1) * config.lineSize := by
      rw [← Nat.add_mul]
      congr 1
      refine Nat.div_eq_of_lt_le ?_ ?_
      · rw [Nat.add_mul]
        omega
      · rw [Nat.succ_mul, Nat.add_mul]
        omega
    refine .inr ⟨last, hin, hmax, ?_, ?_⟩
    · intro heq
      have heq := congrArg BitVec.toNat heq
      rw [toNat_lineBase] at heq
      omega
    · rw [toNat_lineBase]
      omega

omit hin in
theorem Intersects.steps (h : config.Intersects start len b) :
    ∃ k ≤ last.toNat / config.lineSize + 1, config.Steps start last k b := by
  obtain ⟨addr, hrange, rfl⟩ := h
  have hpos := config.lineSize_pos
  have hto := Nat.div_le_div_right (c := config.lineSize) (hmax addr hrange)
  have hle := hmax addr hrange
  have hfrom := Nat.div_le_div_right (c := config.lineSize) hrange.1
  have haddr := Nat.div_mul_le_self addr.toNat config.lineSize
  unfold Steps
  rw [toNat_lineBase, toNat_lineBase]
  generalize addr.toNat / config.lineSize = line at hfrom hto haddr ⊢
  generalize start.toNat / config.lineSize = first at hfrom ⊢
  refine ⟨line - first, by omega, ?_, ?_⟩
  · rw [← Nat.add_mul, show first + (line - first) = line by omega]
  · rcases Nat.eq_zero_or_pos (line - first) with hzero | hkpos
    · exact .inl hzero
    · refine .inr ?_
      rw [← Nat.add_mul]
      rw [show line = first + (line - first - 1) + 1 by omega, Nat.succ_mul] at haddr
      omega

theorem Behind.steps (h : config.Behind start len b) :
    ∃ k ≤ last.toNat / config.lineSize + 1, config.Steps start last k b := by
  obtain ⟨last', hin', hmax', hne, hb⟩ := h
  obtain rfl : last' = last := BitVec.eq_of_toNat_eq (le_antisymm (hmax _ hin') (hmax' _ hin))
  have hfrom := Nat.div_le_div_right (c := config.lineSize) hin.1
  have hbefore : last'.toNat / config.lineSize * config.lineSize < last'.toNat := by
    refine lt_of_le_of_ne (Nat.div_mul_le_self _ _) fun heq => hne (BitVec.eq_of_toNat_eq ?_)
    rw [toNat_lineBase]
    exact heq
  unfold Steps
  rw [toNat_lineBase] at hb ⊢
  generalize last'.toNat / config.lineSize = line at hfrom hbefore hb ⊢
  generalize start.toNat / config.lineSize = first at hfrom ⊢
  refine ⟨line - first + 1, by omega, ?_, ?_⟩
  · rw [hb, ← Nat.add_mul, ← Nat.succ_mul, show (line.succ : Nat) = first + (line - first + 1) by omega]
  · refine .inr ?_
    rw [Nat.add_sub_cancel, ← Nat.add_mul, show first + (line - first) = line by omega]
    exact hbefore

end Steps

/-- **The lines that are visited**: those with a byte of the range, and the line behind it. -/
theorem mem_lineBasesForRange (b : Address) :
    b ∈ CacheBank.lineBasesForRange config start len ↔
      config.Intersects start len b ∨ config.Behind start len b := by
  unfold CacheBank.lineBasesForRange
  split
  · rename_i hlen
    subst hlen
    have hempty : ∀ addr, ¬ InRange start 0 addr := fun addr h => by
      have hzero : (0 : U64).toNat = 0 := rfl
      unfold InRange at h
      omega
    constructor
    · intro hnil
      cases hnil
    · rintro (⟨addr, hin, -⟩ | ⟨last, hin, -⟩)
      · exact (hempty addr hin).elim
      · exact (hempty last hin).elim
  · rename_i hlen
    obtain ⟨hin, hmax⟩ := exists_last start hlen
    dsimp only
    generalize (if start.toNat + (len.toNat - 1) < 2 ^ 64 then start + (len - 1) else -1) = last at hin hmax
    rw [mem_lineBasesFrom]
    constructor
    · rintro ⟨k, -, hsteps⟩
      exact Steps.intersects_or_behind hin hmax hsteps
    · rintro (hintersects | hbehind)
      · exact hintersects.steps hmax
      · exact hbehind.steps hin hmax

variable {config} in
theorem Behind.lineBase_eq {lineBase : Address} (h : config.Behind start len lineBase) :
    config.lineBase lineBase = lineBase := by
  obtain ⟨last, -, -, -, hbase⟩ := h
  rw [toNat_lineBase, ← Nat.succ_mul] at hbase
  exact lineBase_of_toNat_eq hbase

variable {config} in
/-- The line behind the range has no byte of it. -/
theorem Behind.not_intersects {lineBase : Address} (h : config.Behind start len lineBase) :
    ¬ config.Intersects start len lineBase := by
  rintro ⟨addr, hin, rfl⟩
  obtain ⟨last, -, hmax, -, hbase⟩ := h
  have hle := config.lineBase_le addr
  have hlast := hmax addr hin
  have hdiv := Nat.lt_div_mul_add config.lineSize_pos (a := last.toNat)
  rw [config.toNat_lineBase last] at hbase
  omega

end CacheConfig

/-! ## Invalidation -/

namespace CacheBank

variable {config : CacheConfig} {bank bank' : CacheBank config} {start : Address} {len : U64}

theorem line_dropLine (bank : CacheBank config) (decoded : DecodedAddress config)
    (setIndex : Fin config.setCount) (way : Fin config.associativity) :
    (bank.dropLine decoded).line setIndex way =
      if setIndex = decoded.setIndex ∧ bank.lookupWay decoded = some way then
        { bank.line setIndex way with valid := false, dirty := false }
      else bank.line setIndex way := by
  unfold dropLine
  cases hlookup : bank.lookupWay decoded with
  | none => rw [if_neg fun h => by cases h.2]
  | some way' =>
    dsimp only
    rw [line_setLine]
    by_cases hthis : setIndex = decoded.setIndex ∧ way = way'
    · obtain ⟨rfl, rfl⟩ := hthis
      rw [if_pos ⟨rfl, rfl⟩, if_pos ⟨rfl, rfl⟩]
    · rw [if_neg hthis, if_neg]
      rintro ⟨hset, hsome⟩
      exact hthis ⟨hset, (Option.some.inj hsome).symm⟩

/-- What the invalidation of a line does to the lines of a bank. -/
theorem line_invalidateLineBase (lineBase : Address) (setIndex : Fin config.setCount)
    (way : Fin config.associativity) :
    (bank.invalidateLineBase lineBase).line setIndex way =
      if config.cachesLine lineBase = true ∧ setIndex = (config.decode lineBase).setIndex ∧
          bank.lookupWay (config.decode lineBase) = some way then
        { bank.line setIndex way with valid := false, dirty := false }
      else bank.line setIndex way := by
  have hdrop (pending : Option (PendingLineOp config)) :=
    line_dropLine { bank with pending } (config.decode lineBase) setIndex way
  unfold invalidateLineBase
  by_cases hcached : config.cachesLine lineBase = true
  · rw [if_pos hcached]
    have hiff : (config.cachesLine lineBase = true ∧ setIndex = (config.decode lineBase).setIndex ∧
        bank.lookupWay (config.decode lineBase) = some way) ↔
          (setIndex = (config.decode lineBase).setIndex ∧
            bank.lookupWay (config.decode lineBase) = some way) := and_iff_right hcached
    simp only [hiff]
    split
    · exact hdrop none
    · exact hdrop bank.pending
  · rw [if_neg hcached, if_neg fun h => hcached h.1]

/-- The lines without a byte of the range are as they were. -/
def OthersKept (start : Address) (len : U64) (bank bank' : CacheBank config) : Prop :=
  ∀ setIndex way,
    ¬ config.Intersects start len (config.lineBaseForTag setIndex (bank.line setIndex way).tag) →
      bank'.line setIndex way = bank.line setIndex way

/-- A line that is looked up is the one of its set and tag. -/
theorem lineBaseForTag_of_lookupWay {lineBase : Address} {way : Fin config.associativity}
    (h : bank.lookupWay (config.decode lineBase) = some way) :
    config.lineBaseForTag (config.decode lineBase).setIndex
        (bank.line (config.decode lineBase).setIndex way).tag = config.lineBase lineBase := by
  have hholds := bank.holds_of_lookupWay h
  unfold CacheLine.holds at hholds
  rw [Bool.and_eq_true, beq_iff_eq] at hholds
  rw [hholds.2, config.lineBaseForTag_decode]

/-- The tag of a line stays, and only the line that is invalidated changes. -/
theorem invalidateLineBase_cases (bank : CacheBank config) (lineBase : Address)
    (setIndex : Fin config.setCount) (way : Fin config.associativity) :
    ((bank.invalidateLineBase lineBase).line setIndex way).tag = (bank.line setIndex way).tag ∧
      ((bank.invalidateLineBase lineBase).line setIndex way = bank.line setIndex way ∨
        config.cachesLine lineBase = true ∧ (bank.lookupWay (config.decode lineBase)).isSome = true ∧
          config.lineBaseForTag setIndex (bank.line setIndex way).tag = config.lineBase lineBase) := by
  rw [line_invalidateLineBase]
  split
  · rename_i h
    obtain ⟨hcached, rfl, hlookup⟩ := h
    refine ⟨rfl, .inr ⟨hcached, ?_, lineBaseForTag_of_lookupWay hlookup⟩⟩
    rw [hlookup]
    rfl
  · exact ⟨rfl, .inl rfl⟩

/-- A line is found behind an invalidation only if it was there before. -/
theorem lookupWay_isSome_of_invalidateLineBase {lineBase other : Address}
    (h : ((bank.invalidateLineBase other).lookupWay (config.decode lineBase)).isSome = true) :
    (bank.lookupWay (config.decode lineBase)).isSome = true := by
  obtain ⟨way, hway⟩ := Option.isSome_iff_exists.1 h
  have hholds := holds_of_lookupWay _ hway
  rw [line_invalidateLineBase] at hholds
  split at hholds
  · cases hholds
  · obtain ⟨way', hway'⟩ := bank.exists_lookupWay hholds
    rw [hway']
    rfl

/-- Lines that are changed by invalidations are among those invalidated, and were there. -/
theorem foldl_invalidateLineBase_cases (bank : CacheBank config) (lineBases : List Address)
    (setIndex : Fin config.setCount) (way : Fin config.associativity) :
    (lineBases.foldl invalidateLineBase bank).line setIndex way = bank.line setIndex way ∨
      ∃ lineBase ∈ lineBases, config.cachesLine lineBase = true ∧
        (bank.lookupWay (config.decode lineBase)).isSome = true ∧
          config.lineBaseForTag setIndex (bank.line setIndex way).tag = config.lineBase lineBase := by
  induction lineBases generalizing bank with
  | nil => exact .inl rfl
  | cons lineBase lineBases ih =>
    obtain ⟨htag, hfirst⟩ := invalidateLineBase_cases bank lineBase setIndex way
    rw [List.foldl_cons]
    rcases ih (bank.invalidateLineBase lineBase) with hsame | ⟨other, hmem, hcached, hsome, hbase⟩
    · rcases hfirst with hfirst | hfirst
      · exact .inl (hsame.trans hfirst)
      · exact .inr ⟨lineBase, List.mem_cons_self, hfirst⟩
    · rw [htag] at hbase
      exact .inr ⟨other, List.mem_cons_of_mem _ hmem, hcached,
        lookupWay_isSome_of_invalidateLineBase hsome, hbase⟩

/-- An invalid line stays invalid. -/
theorem valid_foldl_invalidateLineBase (lineBases : List Address) {setIndex : Fin config.setCount}
    {way : Fin config.associativity} (h : (bank.line setIndex way).valid = false) :
    ((lineBases.foldl invalidateLineBase bank).line setIndex way).valid = false := by
  induction lineBases generalizing bank with
  | nil => exact h
  | cons lineBase lineBases ih => exact ih (valid_invalidateLineBase bank lineBase h)

/-- A line that is there is invalid behind an invalidation of its address. -/
theorem valid_of_mem_lineBases {lineBases : List Address} {lineBase : Address}
    (hmem : lineBase ∈ lineBases) (hcached : config.cachesLine lineBase = true)
    {way : Fin config.associativity} (hlookup : bank.lookupWay (config.decode lineBase) = some way) :
    ((lineBases.foldl invalidateLineBase bank).line (config.decode lineBase).setIndex way).valid =
      false := by
  induction lineBases generalizing bank with
  | nil => cases hmem
  | cons first rest ih =>
    rw [List.foldl_cons]
    rcases List.mem_cons.1 hmem with rfl | hrest
    · refine valid_foldl_invalidateLineBase rest ?_
      rw [line_invalidateLineBase, if_pos ⟨hcached, rfl, hlookup⟩]
    · by_cases hvalid : ((bank.invalidateLineBase first).line (config.decode lineBase).setIndex way).valid
      · -- the line is still the one that is found
        refine ih hrest ?_
        have hholds (way' : Fin config.associativity) :
            ((bank.invalidateLineBase first).line (config.decode lineBase).setIndex way').holds
              (config.decode lineBase).tag =
                (bank.line (config.decode lineBase).setIndex way').holds (config.decode lineBase).tag := by
          rw [line_invalidateLineBase]
          split
          · rename_i hthis
            obtain ⟨hcached', hset, hfirst⟩ := hthis
            have hfound := bank.holds_of_lookupWay hfirst
            rw [← hset] at hfound
            unfold CacheLine.holds at hfound ⊢
            rw [Bool.and_eq_true, beq_iff_eq] at hfound
            rw [hfound.1, hfound.2, Bool.false_and, Bool.true_and, eq_comm, beq_eq_false_iff_ne]
            -- a line of the same set and tag would have been dropped
            intro htag
            refine absurd hvalid ?_
            have hsame : bank.lookupWay (config.decode first) = some way := by
              unfold lookupWay at hlookup ⊢
              rw [← hset, htag]
              exact hlookup
            rw [line_invalidateLineBase, if_pos ⟨hcached', hset, hsame⟩]
            exact Bool.false_ne_true
          · rfl
        unfold lookupWay at hlookup ⊢
        rw [← hlookup]
        congr 1
        exact funext hholds
      · exact valid_foldl_invalidateLineBase rest (Bool.not_eq_true _ ▸ hvalid)

/-- No line of the bank is behind the range. -/
def FreeBehind (start : Address) (len : U64) (bank : CacheBank config) : Prop :=
  ∀ lineBase, config.Behind start len lineBase → config.cachesLine lineBase = true →
    bank.lookupWay (config.decode lineBase) = none

/-- **When an invalidation leaves the other lines alone**: exactly if no line of the bank is behind the
range. -/
theorem othersKept_invalidateRange :
    OthersKept start len bank (bank.invalidateRange start len) ↔ bank.FreeBehind start len := by
  unfold invalidateRange
  constructor
  · intro hkept lineBase hbehind hcached
    cases hlookup : bank.lookupWay (config.decode lineBase) with
    | none => rfl
    | some way =>
      have hmem := (config.mem_lineBasesForRange lineBase).2 (.inr hbehind)
      have hinvalid := valid_of_mem_lineBases hmem hcached hlookup
      have hbase := lineBaseForTag_of_lookupWay hlookup
      rw [hbehind.lineBase_eq] at hbase
      rw [hkept _ way (by rw [hbase]; exact hbehind.not_intersects)] at hinvalid
      have hholds := bank.holds_of_lookupWay hlookup
      unfold CacheLine.holds at hholds
      rw [hinvalid] at hholds
      cases hholds
  · intro hfree setIndex way hother
    rcases foldl_invalidateLineBase_cases bank (CacheBank.lineBasesForRange config start len)
      setIndex way with hsame | ⟨lineBase, hmem, hcached, hsome, hbase⟩
    · exact hsame
    · rcases (config.mem_lineBasesForRange lineBase).1 hmem with hin | hbehind
      · obtain ⟨addr, haddr, rfl⟩ := hin
        rw [config.lineBase_lineBase] at hbase
        exact absurd ⟨addr, haddr, hbase.symm⟩ hother
      · rw [hfree lineBase hbehind hcached] at hsome
        cases hsome

end CacheBank

/-! ## The caches -/

section Caches

variable {β : Type} [BurstBus β] [CacheMaintenance β]

/-- An invalidation in progress is done with the bank: only write-backs have a line on its way. -/
def InvalidatesAtOnce {config : CacheConfig} (maintenance : Option (PendingMaintenance config)) : Prop :=
  ∀ request pending, maintenance = some ⟨request, .writeBack pending⟩ → request.kind ≠ .invalidate

omit [BurstBus β] [CacheMaintenance β] in
theorem InvalidatesAtOnce.pending_eq {config : CacheConfig} {pending : PendingMaintenance config}
    {start : Address} {len : U64}
    {maintenance : Option (PendingMaintenance config)} (h : InvalidatesAtOnce maintenance)
    (hpending : maintenance = some pending) (hrequest : pending.request = ⟨start, len, .invalidate⟩) :
    pending = ⟨⟨start, len, .invalidate⟩, .inner⟩ := by
  obtain ⟨request, pending | _⟩ := pending
  · exact absurd (congrArg MaintenanceRequest.kind hrequest) (h request pending hpending)
  · exact congrArg (PendingMaintenance.mk · _) hrequest

namespace DirectMappedCache

variable {config : CacheConfig} {cache : DirectMappedCache config β}

/-- An invalidation request: the bank drops the lines, or nothing happens to it. -/
theorem bank_maintain_invalidate (h : InvalidatesAtOnce cache.maintenance) (start : Address) (len : U64) :
    (cache.maintain ⟨start, len, .invalidate⟩).2.bank =
      if cache.maintenance.isSome || cache.activeBurst.isSome || cache.bank.hasPendingActivity then cache.bank
      else cache.bank.invalidateRange start len := by
  unfold maintain ensureMaintenanceRequest
  rcases hmaintenance : cache.maintenance with _ | pending
  · simp only [Option.isSome_none, Bool.false_or]
    split
    · rfl
    · exact bank_maintainInner _ _
  · dsimp only
    split
    · next hrequest =>
      -- the request goes on in the next level
      obtain rfl := h.pending_eq hmaintenance hrequest
      show cache.continueMaintenance.2.bank = cache.bank
      unfold continueMaintenance
      rw [hmaintenance]
      exact bank_maintainInner _ _
    · rfl

end DirectMappedCache

namespace SplitL1Cache

variable {instr dat : CacheConfig} {cache : SplitL1Cache instr dat β}

omit [BurstBus β] in
theorem banks_maintainInner (cache : SplitL1Cache instr dat β) (request : MaintenanceRequest) :
    (cache.maintainInner request).2.data = cache.data ∧
      (cache.maintainInner request).2.instruction = cache.instruction := by
  unfold maintainInner
  split <;> exact ⟨rfl, rfl⟩

theorem banks_maintain_invalidate (h : InvalidatesAtOnce cache.maintenance) (start : Address) (len : U64) :
    ((cache.maintain ⟨start, len, .invalidate⟩).2.data =
        if cache.maintenance.isSome || cache.instruction.hasPendingActivity || cache.data.hasPendingActivity
        then cache.data else cache.data.invalidateRange start len) ∧
      (cache.maintain ⟨start, len, .invalidate⟩).2.instruction =
        if cache.maintenance.isSome || cache.instruction.hasPendingActivity || cache.data.hasPendingActivity
        then cache.instruction else cache.instruction.invalidateRange start len := by
  unfold maintain ensureMaintenanceRequest
  rcases hmaintenance : cache.maintenance with _ | pending
  · simp only [Option.isSome_none, Bool.false_or]
    split
    · exact ⟨rfl, rfl⟩
    · exact banks_maintainInner _ _
  · dsimp only
    split
    · next hrequest =>
      obtain rfl := h.pending_eq hmaintenance hrequest
      show cache.continueMaintenance.2.data = cache.data ∧
        cache.continueMaintenance.2.instruction = cache.instruction
      unfold continueMaintenance
      rw [hmaintenance]
      exact banks_maintainInner _ _
    · exact ⟨rfl, rfl⟩

end SplitL1Cache

/-- **Invalidating a range leaves the other lines alone exactly if no line behind it is there**, in a bank and
in both caches, unless they are busy. -/
theorem invalidation_keeps_others_iff (start : Address) (len : U64) :
    (∀ config (bank : CacheBank config),
      bank.OthersKept start len (bank.invalidateRange start len) ↔ bank.FreeBehind start len) ∧
    (∀ config (cache : DirectMappedCache config β), InvalidatesAtOnce cache.maintenance →
      (cache.bank.OthersKept start len (cache.maintain ⟨start, len, .invalidate⟩).2.bank ↔
        cache.maintenance.isSome = true ∨ cache.activeBurst.isSome = true ∨
          cache.bank.hasPendingActivity = true ∨ cache.bank.FreeBehind start len)) ∧
    ∀ instr dat (cache : SplitL1Cache instr dat β), InvalidatesAtOnce cache.maintenance →
      (cache.data.OthersKept start len (cache.maintain ⟨start, len, .invalidate⟩).2.data ∧
          cache.instruction.OthersKept start len
            (cache.maintain ⟨start, len, .invalidate⟩).2.instruction ↔
        cache.maintenance.isSome = true ∨ cache.instruction.hasPendingActivity = true ∨
          cache.data.hasPendingActivity = true ∨
          cache.data.FreeBehind start len ∧ cache.instruction.FreeBehind start len) := by
  have hself {config : CacheConfig} (bank : CacheBank config) : bank.OthersKept start len bank :=
    fun _ _ _ => rfl
  refine ⟨fun config bank => CacheBank.othersKept_invalidateRange, ?_, ?_⟩
  · intro config cache honce
    rw [cache.bank_maintain_invalidate honce, ← or_assoc, ← or_assoc, ← Bool.or_eq_true, ← Bool.or_eq_true]
    split
    · next hbusy => exact iff_of_true (hself _) (.inl hbusy)
    · next hidle => rw [CacheBank.othersKept_invalidateRange, or_iff_right hidle]
  · intro instr dat cache honce
    obtain ⟨hdata, hinstruction⟩ := cache.banks_maintain_invalidate honce start len
    rw [hdata, hinstruction, ← or_assoc, ← or_assoc, ← Bool.or_eq_true, ← Bool.or_eq_true]
    split
    · next hbusy => exact iff_of_true ⟨hself _, hself _⟩ (.inl hbusy)
    · next hidle =>
      rw [CacheBank.othersKept_invalidateRange, CacheBank.othersKept_invalidateRange, or_iff_right hidle]

end Caches

/-- The cache in front of a memory that answers at once, with its second line dirty. -/
def secondLineDirty : DirectMappedCache twoLines (MemoryMap Ram 1) :=
  ((DirectMappedCache.new { devices := #v[⟨⟨0, 64⟩, .new 0 64⟩] } twoLines).access (.store32 16 7)).2

theorem secondLineDirty_idle : InvalidatesAtOnce secondLineDirty.maintenance := by
  have hnone : secondLineDirty.maintenance = none := by decide +kernel
  rw [hnone]
  nofun

/-- A range whose last byte starts a line. -/
theorem invalidation_keeps_others_iff_one_byte :
    secondLineDirty.bank.OthersKept 0 1 (secondLineDirty.maintain ⟨0, 1, .invalidate⟩).2.bank := by
  refine ((invalidation_keeps_others_iff 0 1).2.1 twoLines secondLineDirty
    secondLineDirty_idle).2 (.inr (.inr (.inr ?_)))
  rintro lineBase ⟨last, ⟨-, hlast⟩, -, hne, -⟩
  refine absurd ?_ hne
  have hone : (1 : U64).toNat = 1 := rfl
  have hzero : (0 : Address).toNat = 0 := rfl
  have hlast : last = 0 := BitVec.eq_of_toNat_eq (by omega)
  rw [hlast]
  decide

/-- **Invalidating the first line drops the second**: its store is lost. -/
theorem invalidation_drops_line_behind :
    ¬ secondLineDirty.bank.OthersKept 0 16 (secondLineDirty.maintain ⟨0, 16, .invalidate⟩).2.bank ∧
      (secondLineDirty.access (.load32 16)).1 = .ok 7 ∧
      ((secondLineDirty.maintain ⟨0, 16, .invalidate⟩).2.access (.load32 16)).1 = .ok 0 := by
  have hbehind : twoLines.Behind 0 16 16 := by
    refine ⟨15, ⟨by decide, by decide⟩, fun addr h => ?_, by decide, by decide⟩
    exact Nat.le_of_lt_succ h.2
  refine ⟨fun hkept => ?_, by decide +kernel, by decide +kernel⟩
  have hfound : (secondLineDirty.bank.lookupWay (twoLines.decode 16)).isSome = true := by decide +kernel
  rw [DirectMappedCache.bank_maintain_invalidate secondLineDirty_idle, if_neg (by decide +kernel),
    CacheBank.othersKept_invalidateRange] at hkept
  rw [hkept 16 hbehind (by decide)] at hfound
  cases hfound

end RvSim
