import RvSim.System.Cache.FetchMemory
import RvSim.System.Cache.Flush

/-!
# Lines that are dropped

A bank that drops the lines of a range shows the memory below there, and what it has shown everywhere else,
if none of the lines it drops is dirty.

## Main definitions

* `rewritten`: a memory with other bytes in a range

## Main results

* `CacheBank.Shows.inLine_invalidateRange`: the lines that are left
* `CacheBank.Holds.invalidateRange`: what the bank shows behind the invalidation
-/

namespace RvSim

namespace CacheBank

variable {config : CacheConfig} {bank : CacheBank config} {role : Role} {lower memory : ByteMemory}
  {start : Address} {len : U64}

/-- A line that is valid behind an invalidation is as it was. -/
theorem line_of_valid_foldl {lineBases : List Address} {setIndex : Fin config.setCount}
    {way : Fin config.associativity}
    (h : ((lineBases.foldl invalidateLineBase bank).line setIndex way).valid = true) :
    (lineBases.foldl invalidateLineBase bank).line setIndex way = bank.line setIndex way := by
  induction lineBases generalizing bank with
  | nil => rfl
  | cons lineBase lineBases ih =>
    rw [List.foldl_cons] at h ⊢
    have hrest := ih h
    rw [hrest] at h ⊢
    rw [line_invalidateLineBase] at h ⊢
    split at h
    · cases h
    · next hother => rw [if_neg hother]

theorem line_of_valid_invalidateRange {setIndex : Fin config.setCount} {way : Fin config.associativity}
    (h : ((bank.invalidateRange start len).line setIndex way).valid = true) :
    (bank.invalidateRange start len).line setIndex way = bank.line setIndex way :=
  line_of_valid_foldl h

theorem Shows.invalidateRange (h : bank.Shows role memory) (start : Address) (len : U64) :
    (bank.invalidateRange start len).Shows role memory := by
  constructor
  · intro setIndex way hvalid
    have hline := line_of_valid_invalidateRange hvalid
    rw [hline] at hvalid ⊢
    exact h.lines setIndex way hvalid
  · intro setIndex way way' hvalid hvalid' htag
    have hline := line_of_valid_invalidateRange hvalid
    have hline' := line_of_valid_invalidateRange hvalid'
    rw [hline] at hvalid htag
    rw [hline'] at hvalid' htag
    exact h.unique setIndex way way' hvalid hvalid' htag

/-- A line that is valid behind an invalidation is none of those that are visited. -/
theorem Shows.not_mem_of_valid (h : bank.Shows role memory) {addr : Address} {way : Fin config.associativity}
    (hholds : ((bank.invalidateRange start len).line (config.decode addr).setIndex way).holds
      (config.decode addr).tag = true) :
    (bank.line (config.decode addr).setIndex way).holds (config.decode addr).tag = true ∧
      config.lineBase addr ∉ lineBasesForRange config start len := by
  obtain ⟨hvalid, htag⟩ := holds_iff.1 hholds
  have hline := line_of_valid_invalidateRange hvalid
  have hbefore := hholds
  rw [hline] at hbefore
  refine ⟨hbefore, fun hmem => ?_⟩
  -- the line would be the one that its visit drops
  have hlookup := h.lookupWay hbefore
  have hcached : config.cachesLine (config.lineBase addr) = true := by
    have hcaches := (h.words hlookup).2
    rwa [CacheConfig.caches_eq, CacheConfig.cachesLineContaining] at hcaches
  obtain ⟨hset, -⟩ := config.decode_congr (config.lineBase_lineBase addr)
  rw [← bank.lookupWay_congr (config.lineBase_lineBase addr)] at hlookup
  have hdropped := valid_of_mem_lineBases hmem hcached hlookup
  rw [hset] at hdropped
  have hkept : ((bank.invalidateRange start len).line (config.decode addr).setIndex way).valid = true := hvalid
  unfold CacheBank.invalidateRange at hkept
  rw [hdropped] at hkept
  cases hkept

/-- The lines that are left behind an invalidation. -/
theorem Shows.inLine_invalidateRange (h : bank.Shows role memory) {a : Address}
    (hin : (bank.invalidateRange start len).inLine a = true) :
    bank.inLine a = true ∧ config.lineBase a ∉ lineBasesForRange config start len := by
  obtain ⟨way, hlookup⟩ := Option.isSome_iff_exists.1 hin
  obtain ⟨hholds, hother⟩ := h.not_mem_of_valid (holds_of_lookupWay _ hlookup)
  refine ⟨?_, hother⟩
  unfold inLine
  rw [h.lookupWay hholds]
  rfl

/-- A line that is not visited stays. -/
theorem line_invalidateRange_of_not_mem {addr : Address} {way : Fin config.associativity}
    (hholds : (bank.line (config.decode addr).setIndex way).holds (config.decode addr).tag = true)
    (hother : config.lineBase addr ∉ lineBasesForRange config start len) :
    (bank.invalidateRange start len).line (config.decode addr).setIndex way =
      bank.line (config.decode addr).setIndex way := by
  rcases foldl_invalidateLineBase_cases bank (lineBasesForRange config start len)
    (config.decode addr).setIndex way with hsame | ⟨lineBase, hmem, -, -, hbase⟩
  · exact hsame
  · rw [(holds_iff.1 hholds).2, config.lineBaseForTag_decode] at hbase
    refine absurd ?_ hother
    rcases (config.mem_lineBasesForRange lineBase).1 hmem with ⟨addr', -, rfl⟩ | hbehind
    · rw [hbase, config.lineBase_lineBase]
      exact hmem
    · rw [hbase, hbehind.lineBase_eq]
      exact hmem

theorem Shows.dirtyAt_invalidateRange (h : bank.Shows role memory) (a : Address) :
    (bank.invalidateRange start len).DirtyAt a ↔
      bank.DirtyAt a ∧ config.lineBase a ∉ lineBasesForRange config start len := by
  constructor
  · rintro ⟨way, hholds, hdirty⟩
    obtain ⟨hbefore, hother⟩ := h.not_mem_of_valid hholds
    rw [line_invalidateRange_of_not_mem hbefore hother] at hdirty
    exact ⟨⟨way, hbefore, hdirty⟩, hother⟩
  · rintro ⟨⟨way, hholds, hdirty⟩, hother⟩
    have hline := line_invalidateRange_of_not_mem hholds hother
    exact ⟨way, hline ▸ hholds, hline ▸ hdirty⟩

end CacheBank

/-! ## Bytes that come from below -/

instance (start : Address) (len : U64) (addr : Address) : Decidable (InRange start len addr) :=
  inferInstanceAs (Decidable (_ ∧ _))

/-- The bytes of the range are those of another memory. -/
def rewritten (start : Address) (len : U64) (other memory : ByteMemory) : ByteMemory :=
  fun a => if InRange start len a then other a else memory a

section Rewritten

variable {config : CacheConfig} {start : Address} {len : U64} {other memory : ByteMemory} {a : Address}

theorem rewritten_of_inRange (h : InRange start len a) : rewritten start len other memory a = other a := if_pos h

/-- A line that is not visited has no byte of the range. -/
theorem rewritten_of_not_mem (h : config.lineBase a ∉ CacheBank.lineBasesForRange config start len) :
    rewritten start len other memory a = memory a := by
  apply if_neg
  intro hin
  exact h ((config.mem_lineBasesForRange _).2 (.inl ⟨a, hin, rfl⟩))

/-- A memory that is the other one outside the range is rewritten to it. -/
theorem rewritten_of_agree (h : ∀ a, ¬ InRange start len a → other a = memory a) :
    rewritten start len other memory = other := by
  funext a
  unfold rewritten
  split
  · rfl
  · next hout => exact (h a hout).symm

/-- A memory that has the bytes of the other one in the range already. -/
theorem rewritten_of_eq (h : ∀ a, InRange start len a → other a = memory a) :
    rewritten start len other memory = memory := by
  funext a
  unfold rewritten
  split
  · next hin => exact h a hin
  · rfl

/-- Of two rewritings the last one counts. -/
theorem rewritten_rewritten (other' : ByteMemory) :
    rewritten start len other' (rewritten start len other memory) = rewritten start len other' memory := by
  funext a
  unfold rewritten
  split <;> rfl

end Rewritten

/-- **A bank behind an invalidation** shows the bytes of the range as they lie below. -/
theorem CacheBank.Holds.invalidateRange {config : CacheConfig} {bank : CacheBank config}
    {start : Address} {len : U64} {lower memory : ByteMemory} (h : bank.Holds .whole lower memory none)
    (hclean : bank.DirtyIn (lineBasesForRange config start len) []) (other : ByteMemory) :
    (bank.invalidateRange start len).Holds .whole (rewritten start len other lower)
      (rewritten start len other memory) none := by
  refine ⟨(h.toShows.invalidateRange start len).of_agree fun a hin => ?_, fun setIndex way hvalid hdirty => ?_,
    fun _ a _ hnot _ => ?_, (fun _ h => by cases h), trivial⟩
  · exact rewritten_of_not_mem (h.toShows.inLine_invalidateRange hin).2
  · have hline := line_of_valid_invalidateRange hvalid
    rw [hline] at hvalid hdirty
    exact h.policy setIndex way hvalid hdirty
  · by_cases hrange : InRange start len a
    · rw [rewritten_of_inRange hrange, rewritten_of_inRange hrange]
    · have hsame : memory a = lower a := by
        refine h.rest trivial a trivial (fun hdirty => ?_) fun _ h => by cases h
        -- a dirty line is none of those that are dropped
        by_cases hmem : config.lineBase a ∈ lineBasesForRange config start len
        · exact absurd (hclean a hmem hdirty) List.not_mem_nil
        · exact hnot ((h.toShows.dirtyAt_invalidateRange a).2 ⟨hdirty, hmem⟩)
      unfold rewritten
      rw [if_neg hrange, if_neg hrange, hsame]

/-- The instruction bank behind an invalidation: what is fetched in the range comes from below. -/
theorem SplitL1Cache.FetchedAs.invalidateRange {instr : CacheConfig} {stale : Address → Bool}
    {memory : ByteMemory} {bank : CacheBank instr} (h : FetchedAs stale memory bank)
    (start : Address) (len : U64) (other : ByteMemory) :
    FetchedAs (fun a => stale a && !decide (InRange start len a)) (rewritten start len other memory)
      (bank.invalidateRange start len) := by
  obtain ⟨hpending, hclean, fetched, hshows, hfetched⟩ := h
  refine ⟨CacheBank.pending_invalidateRange hpending start len, fun setIndex way hvalid => ?_, fetched,
    hshows.invalidateRange start len, fun a hin hfresh => ?_⟩
  · have hline := CacheBank.line_of_valid_invalidateRange hvalid
    rw [hline] at hvalid ⊢
    exact hclean setIndex way hvalid
  · obtain ⟨hbefore, hother⟩ := hshows.inLine_invalidateRange hin
    rw [rewritten_of_not_mem hother]
    apply hfetched a hbefore
    have hout : ¬ InRange start len a := fun hrange =>
      hother ((instr.mem_lineBasesForRange _).2 (.inl ⟨a, hrange, rfl⟩))
    simpa [hout] using hfresh

end RvSim
