import RvSim.System.Cache.LineOp
import RvSim.System.Cache.Maintenance

/-!
# Lines that are written back

A bank that writes the dirty lines of a list back, over a bus that is a memory: it shows the same memory all
the time, and when it is done, none of the lines is dirty.

## Main definitions

* `CacheBank.DirtyIn`: the dirty lines of a list are among those that are left
* `CacheBank.Flushing`: the write-back of the list is in progress

## Main results

* `CacheBank.Holds.cleaned`: one line is written back
* `CacheBank.continueWriteBackRange_flushes`: how the write-back of the list goes on
-/

namespace RvSim

open MemoryContract

namespace CacheBank

variable {config : CacheConfig} {bank : CacheBank config} {lower memory : ByteMemory}
  {lineBase : Address} {writeBack : PendingWriteBack config}

/-! ## One line -/

/-- The line whose write-back is made is in the bank, cached and dirty. -/
theorem pendingWriteBackForLine_eq_some (h : bank.pendingWriteBackForLine lineBase = some writeBack) :
    config.cachesLine lineBase = true ∧ ∃ way,
      bank.lookupWay (config.decode lineBase) = some way ∧
      (bank.line (config.decode lineBase).setIndex way).valid = true ∧
      (bank.line (config.decode lineBase).setIndex way).dirty = true ∧
      writeBack = { lineBase, words := (bank.line (config.decode lineBase).setIndex way).words } := by
  unfold pendingWriteBackForLine at h
  split at h
  · next hcaches =>
    dsimp only at h
    split at h
    · next way hlookup =>
      split at h
      · next hdirty =>
        exact ⟨hcaches, way, hlookup, hdirty.1, hdirty.2, (Option.some.inj h).symm⟩
      · cases h
    · cases h
  · cases h

/-- The line that holds an address is the one that is found. -/
theorem Shows.lookupWay {role : Role} (h : bank.Shows role memory) {addr : Address}
    {way : Fin config.associativity}
    (hholds : (bank.line (config.decode addr).setIndex way).holds (config.decode addr).tag = true) :
    bank.lookupWay (config.decode addr) = some way := by
  obtain ⟨way', hlookup⟩ := bank.exists_lookupWay hholds
  obtain ⟨hvalid, htag⟩ := holds_iff.1 hholds
  obtain ⟨hvalid', htag'⟩ := valid_of_lookupWay hlookup
  obtain rfl := h.unique _ _ _ hvalid hvalid' (htag.trans htag'.symm)
  exact hlookup

/-- A line that needs no write-back is not dirty. -/
theorem Shows.not_dirtyAt_of_none {role : Role} (h : bank.Shows role memory)
    (hbase : config.lineBase lineBase = lineBase)
    (hnone : bank.pendingWriteBackForLine lineBase = none) {a : Address}
    (hline : config.lineBase a = lineBase) : ¬ bank.DirtyAt a := by
  rintro ⟨way, hholds, hdirty⟩
  obtain ⟨hset, htag⟩ := config.decode_congr (hline.trans hbase.symm)
  rw [hset, htag] at hholds
  rw [hset] at hdirty
  have hlookup := h.lookupWay hholds
  have hcaches : config.cachesLine lineBase = true := by
    have hcaches := (h.words hlookup).2
    rw [CacheConfig.caches_eq, CacheConfig.cachesLineContaining, hbase] at hcaches
    exact hcaches
  unfold pendingWriteBackForLine at hnone
  rw [if_pos hcaches] at hnone
  dsimp only at hnone
  rw [hlookup] at hnone
  dsimp only at hnone
  rw [if_pos ⟨(holds_iff.1 hholds).1, hdirty⟩] at hnone
  cases hnone

/-- The lines of a bank one of which is clean now. -/
theorem line_completeWriteBackForLine (hcaches : config.cachesLine lineBase = true)
    {way : Fin config.associativity} (hlookup : bank.lookupWay (config.decode lineBase) = some way)
    (setIndex : Fin config.setCount) (way' : Fin config.associativity) :
    (bank.completeWriteBackForLine lineBase).line setIndex way' =
      if setIndex = (config.decode lineBase).setIndex ∧ way' = way then
        { bank.line setIndex way' with dirty := false }
      else bank.line setIndex way' := by
  unfold completeWriteBackForLine
  rw [if_pos hcaches]
  dsimp only
  rw [hlookup]
  dsimp only
  rw [line_setLine]
  split
  · next hthis =>
    obtain ⟨rfl, rfl⟩ := hthis
    rfl
  · rfl

/-- What the line that is clean now keeps. -/
theorem line_completeWriteBackForLine_eq (h : bank.pendingWriteBackForLine lineBase = some writeBack)
    (setIndex : Fin config.setCount) (way : Fin config.associativity) :
    ((bank.completeWriteBackForLine lineBase).line setIndex way).valid = (bank.line setIndex way).valid ∧
      ((bank.completeWriteBackForLine lineBase).line setIndex way).tag = (bank.line setIndex way).tag ∧
      ((bank.completeWriteBackForLine lineBase).line setIndex way).words =
        (bank.line setIndex way).words ∧
      (((bank.completeWriteBackForLine lineBase).line setIndex way).dirty = true →
        (bank.line setIndex way).dirty = true) := by
  obtain ⟨hcaches, way', hlookup, -⟩ := pendingWriteBackForLine_eq_some h
  rw [line_completeWriteBackForLine hcaches hlookup]
  split
  · exact ⟨rfl, rfl, rfl, fun h => by cases h⟩
  · exact ⟨rfl, rfl, rfl, id⟩

/-- The dirty lines behind a write-back are the others. -/
theorem dirtyAt_completeWriteBackForLine {role : Role} (hshows : bank.Shows role memory)
    (h : bank.pendingWriteBackForLine lineBase = some writeBack)
    (hbase : config.lineBase lineBase = lineBase) (a : Address) :
    (bank.completeWriteBackForLine lineBase).DirtyAt a ↔
      bank.DirtyAt a ∧ config.lineBase a ≠ lineBase := by
  obtain ⟨hcaches, way, hlookup, hvalid, hdirty, -⟩ := pendingWriteBackForLine_eq_some h
  have hline := line_completeWriteBackForLine hcaches hlookup
  constructor
  · rintro ⟨way', hholds, hdirty'⟩
    rw [hline] at hholds hdirty'
    split at hdirty'
    · cases hdirty'
    · next hother =>
      rw [if_neg hother] at hholds
      refine ⟨⟨way', hholds, hdirty'⟩, fun hsame => hother ?_⟩
      obtain ⟨hset, htag⟩ := config.decode_congr (hsame.trans hbase.symm)
      rw [hset, htag] at hholds
      exact ⟨hset, Option.some.inj ((hshows.lookupWay hholds).symm.trans hlookup)⟩
  · rintro ⟨⟨way', hholds, hdirty'⟩, hother⟩
    have hthis : ¬ ((config.decode a).setIndex = (config.decode lineBase).setIndex ∧ way' = way) := by
      rintro ⟨hset, rfl⟩
      rw [hset] at hholds
      have htag := (holds_iff.1 hholds).2.symm.trans (valid_of_lookupWay hlookup).2
      exact hother ((config.decode_inj hset htag).trans hbase)
    refine ⟨way', ?_, ?_⟩
    · rwa [hline, if_neg hthis]
    · rwa [hline, if_neg hthis]

/-- **A line that is written back** lies below as it is shown. -/
theorem Holds.cleaned {role : Role} (h : bank.Holds role lower memory none)
    (hwriteBack : bank.pendingWriteBackForLine lineBase = some writeBack)
    (hbase : config.lineBase lineBase = lineBase) :
    (bank.completeWriteBackForLine lineBase).Holds role
      (lower.writeWords writeBack.lineBase writeBack.words.toList) memory none := by
  have hkept := line_completeWriteBackForLine_eq hwriteBack
  obtain ⟨-, way, hlookup, hvalid, hdirty, rfl⟩ := pendingWriteBackForLine_eq_some hwriteBack
  have hstores := (h.policy _ _ hvalid hdirty).2
  refine ⟨⟨fun setIndex way' hvalid' => ?_, fun setIndex way' way'' hvalid' hvalid'' htag => ?_⟩,
    fun setIndex way' hvalid' hdirty' => ?_, fun hcopies a hregion hclean _ => ?_, (fun _ h => by cases h),
    role.free hstores _⟩
  · obtain ⟨hv, ht, hw, -⟩ := hkept setIndex way'
    exact (h.lines setIndex way' (hv ▸ hvalid')).congr ht hw
  · obtain ⟨hv, ht, -⟩ := hkept setIndex way'
    obtain ⟨hv', ht', -⟩ := hkept setIndex way''
    exact h.unique setIndex way' way'' (hv ▸ hvalid') (hv' ▸ hvalid'') (ht ▸ ht' ▸ htag)
  · obtain ⟨hv, -, -, hd⟩ := hkept setIndex way'
    exact h.policy setIndex way' (hv ▸ hvalid') (hd hdirty')
  · -- the words that are written are those that are shown
    have hwords := (h.words hlookup).1 hcopies
    rw [hwords, hbase]
    have hwritten := config.writeWords_line lower memory lineBase a
    rw [hbase] at hwritten
    rw [hwritten]
    split
    · rfl
    · next hother =>
      refine h.rest hcopies a hregion (fun hdirty' => hclean ?_) fun _ h => by cases h
      exact (dirtyAt_completeWriteBackForLine h.toShows hwriteBack hbase a).2 ⟨hdirty', hother⟩

/-! ## A list of lines -/

/-- The dirty lines of the list are among those that are left. -/
def DirtyIn (lineBases left : List Address) (bank : CacheBank config) : Prop :=
  ∀ a, config.lineBase a ∈ lineBases → bank.DirtyAt a → config.lineBase a ∈ left

theorem dirtyIn_self (lineBases : List Address) (bank : CacheBank config) : bank.DirtyIn lineBases lineBases :=
  fun _ hline _ => hline

variable {lineBases left : List Address} {β : Type} [BurstBus β] [MemoryContract β]

/-- Where the write-back of a list of lines has come to. -/
def Flushing (lineBases : List Address) (memory : FlatMemory) (pending : PendingBankWriteBack config)
    (bank : CacheBank config) (inner : β) : Prop :=
  (∀ b ∈ pending.lineBases, b ∈ lineBases) ∧
  match pending.active with
  | none => bank.DirtyIn lineBases pending.lineBases ∧ bank.Rests .whole memory inner
  | some writeBack => bank.DirtyIn lineBases (writeBack.lineBase :: pending.lineBases) ∧
      bank.pendingWriteBackForLine writeBack.lineBase = some { writeBack with burstId := none } ∧
      writeBack.lineBase ∈ lineBases ∧ bank.pending = none ∧
      ∃ lower, bank.Holds .whole lower memory.contents none ∧
        SlotBursting writeBack.burstId writeBack.request ⟨memory.mapped, lower⟩ inner

theorem flushing_tick {memory : FlatMemory} {pending : PendingBankWriteBack config} {inner : β}
    (h : bank.Flushing lineBases memory pending inner) :
    bank.Flushing lineBases memory pending (Bus.tick inner) := by
  obtain ⟨hleft, h⟩ := h
  refine ⟨hleft, ?_⟩
  cases hactive : pending.active with
  | none =>
    rw [hactive] at h
    exact ⟨h.1, rests_tick h.2⟩
  | some writeBack =>
    rw [hactive] at h
    obtain ⟨hdirty, hwriteBack, hmem, hpending, lower, hholds, hslot⟩ := h
    exact ⟨hdirty, hwriteBack, hmem, hpending, lower, hholds, slotBursting_tick hslot⟩

/-- None of the lines is dirty. -/
def Flushed (lineBases : List Address) (memory : FlatMemory) (s : CacheBank config × β) : Prop :=
  s.1.DirtyIn lineBases [] ∧ s.1.Rests .whole memory s.2

/-- How the write-back of a list is left. -/
abbrev FlushEnds (lineBases : List Address) (memory : FlatMemory)
    (out : Except CacheError Unit × CacheBank config × PendingBankWriteBack config × β) : Prop :=
  Ends False out (fun _ s => Flushed lineBases memory (s.1, s.2.2))
    fun error s => error.isBusy = true ∧ Flushing lineBases memory s.2.1 s.1 s.2.2

section

variable {memory : FlatMemory} {inner : β} (hconfig : config.Within memory.mapped)
  (hbases : ∀ b ∈ lineBases, config.lineBase b = b)

include hconfig hbases

/-- The write-back of one line waits, or leaves the line clean. -/
theorem drives_line (hleft : ∀ b ∈ left, b ∈ lineBases)
    (h : bank.Flushing lineBases memory { lineBases := left, active := some writeBack } inner) :
    Ends False (progressWriteBack inner writeBack)
      (fun drive s =>
        match drive with
        | .busy _ => bank.Flushing lineBases memory { lineBases := left, active := some s.1 } s.2
        | .ready () => (bank.completeWriteBackForLine writeBack.lineBase).DirtyIn lineBases left ∧
            (bank.completeWriteBackForLine writeBack.lineBase).Rests .whole memory s.2)
      fun _ _ => False := by
  obtain ⟨-, hdirty, hwriteBack, hmem, hpending, lower, hholds, hslot⟩ := h
  have hbase := hbases _ hmem
  obtain ⟨-, way, hlookup, -⟩ := pendingWriteBackForLine_eq_some hwriteBack
  have hwithin : writeBack.request.Within (FlatMemory.mk memory.mapped lower).mapped :=
    hconfig.burst (hholds.words hlookup).2 hbase.symm
      (by simp [BurstRequest.beats, PendingWriteBack.request]) (fun _ _ h => by cases h)
  have hdrive := drives_progressWriteBack hwithin hslot
  generalize progressWriteBack inner writeBack = out at hdrive
  obtain ⟨(_ | _ | _) | (_ | _), writeBack', inner'⟩ := out
  · exact hdrive.elim
  · exact hdrive
  · exact hdrive
  · obtain ⟨id, rfl, hburst⟩ := hdrive
    exact ⟨hleft, hdirty, hwriteBack, hmem, hpending, lower, hholds, hburst⟩
  · refine ⟨fun a hline hdirty' => ?_, ?_, _, hholds.cleaned hwriteBack hbase, hdrive⟩
    · -- the line itself is clean now, so a dirty one is among the others
      obtain ⟨hdirty', hother⟩ :=
        (dirtyAt_completeWriteBackForLine hholds.toShows hwriteBack hbase a).1 hdirty'
      exact (List.mem_cons.1 (hdirty a hline hdirty')).resolve_left hother
    · rw [pending_completeWriteBackForLine]
      exact hpending

/-- **The lines that are left**, when none is on its way. -/
theorem writeBackLines_flushes (hleft : ∀ b ∈ left, b ∈ lineBases) (hdirty : bank.DirtyIn lineBases left)
    (hrests : bank.Rests .whole memory inner) :
    FlushEnds lineBases memory (bank.writeBackLines inner left) := by
  induction left generalizing bank inner with
  | nil => exact ⟨hdirty, hrests⟩
  | cons lineBase left ih =>
    have hrest : ∀ b ∈ left, b ∈ lineBases := fun b hb => hleft b (List.mem_cons_of_mem _ hb)
    have hmem : lineBase ∈ lineBases := hleft lineBase List.mem_cons_self
    unfold writeBackLines
    cases hwriteBack : bank.pendingWriteBackForLine lineBase with
    | none =>
      -- a line that needs no write-back is clean
      dsimp only
      apply ih hrest _ hrests
      intro a hline hdirty'
      obtain ⟨-, lower, hholds, -⟩ := hrests
      refine (List.mem_cons.1 (hdirty a hline hdirty')).resolve_left fun hthis => ?_
      exact hholds.toShows.not_dirtyAt_of_none (hbases _ hmem) hwriteBack hthis hdirty'
    | some writeBack =>
      obtain ⟨-, way, -, -, -, hnew⟩ := pendingWriteBackForLine_eq_some hwriteBack
      obtain ⟨hpending, lower, hholds, hquiet⟩ := hrests
      have hstart : bank.Flushing lineBases memory { lineBases := left, active := some writeBack } inner := by
        subst hnew
        exact ⟨hrest, hdirty, hwriteBack, hmem, hpending, lower, hholds, hquiet⟩
      have hdrive := drives_line hconfig hbases hrest hstart
      have hsame : writeBack.lineBase = lineBase := by rw [hnew]
      rw [hsame] at hdrive
      dsimp only
      generalize progressWriteBack inner writeBack = out at hdrive
      obtain ⟨(_ | _ | _) | (_ | _), writeBack', inner'⟩ := out
      · exact hdrive.elim
      · exact hdrive
      · exact hdrive
      · exact ⟨rfl, hdrive⟩
      · exact ih hrest hdrive.1 hdrive.2

/-- **How the write-back of a list goes on.** -/
theorem continueWriteBackRange_flushes {pending : PendingBankWriteBack config}
    (h : bank.Flushing lineBases memory pending inner) :
    FlushEnds lineBases memory (bank.continueWriteBackRange inner pending) := by
  obtain ⟨left, active⟩ := pending
  have hleft : ∀ b ∈ left, b ∈ lineBases := h.1
  unfold continueWriteBackRange
  cases active with
  | none => exact writeBackLines_flushes hconfig hbases hleft h.2.1 h.2.2
  | some writeBack =>
    have hdrive := drives_line hconfig hbases hleft h
    dsimp only
    generalize progressWriteBack inner writeBack = out at hdrive
    obtain ⟨(_ | _ | _) | (_ | _), writeBack', inner'⟩ := out
    · exact hdrive.elim
    · exact hdrive
    · exact hdrive
    · exact ⟨rfl, hdrive⟩
    · exact writeBackLines_flushes hconfig hbases hleft hdrive.1 hdrive.2

end

end CacheBank

end RvSim
