import RvSim.System.Cache.FetchMemory
import RvSim.System.Cache.LineOutcome
import RvSim.System.RepeatedMemory

/-!
# Which fetches see the stores

A store to a written-back line leaves the word below as it was until the line is evicted, and it is from below
that the instruction bank refills. Only the lines that stores went to can be dirty, though, so a fetch from
any other line is answered with the latest stores, and a fetch from any line is where the data bank is written
through.

## Main definitions

* `CacheBank.DirtiesOnly`: the lines that an operation makes dirty
* `SplitL1Cache.touched`: the bytes whose line a store went to
* the instance of `RepeatedMemory` of a split cache

## Main results

* `CacheBank.access_dirtiesOnly`: an access makes dirty no line but the one it stores to
* `SplitL1Cache.fresh_call`, `SplitL1Cache.fresh_again`: the two calls of the contract
-/

namespace RvSim

open MemoryContract

/-! ## The lines that become dirty -/

namespace CacheBank

variable {config : CacheConfig} {bank bank' : CacheBank config} {lines : Address → Prop}

/-- A byte of the bank that is dirty behind an operation was so before, or lies in one of `lines`. -/
def DirtiesOnly (lines : Address → Prop) (bank bank' : CacheBank config) : Prop :=
  ∀ a, bank'.DirtyAt a → bank.DirtyAt a ∨ lines a

theorem dirtiesOnly_refl (bank : CacheBank config) : DirtiesOnly lines bank bank := fun _ h => .inl h

theorem DirtiesOnly.trans {bank'' : CacheBank config} (h : DirtiesOnly lines bank bank')
    (h' : DirtiesOnly lines bank' bank'') : DirtiesOnly lines bank bank'' := by
  intro a hdirty
  obtain hdirty | hline := h' a hdirty
  · exact h a hdirty
  · exact .inr hline

theorem SameLines.dirtiesOnly (h : bank'.SameLines bank) : DirtiesOnly lines bank bank' := by
  intro a hdirty
  exact .inl ((h.dirtyAt_iff a).1 hdirty)

/-- The victim of a refill is clean and gone. -/
theorem dirtiesOnly_startPending (decoded : DecodedAddress config) (kind : RefillKind) :
    DirtiesOnly lines bank (bank.startPending decoded kind) := by
  rintro a ⟨way, hholds, hdirty⟩
  rw [line_startPending] at hholds hdirty
  split at hdirty
  · cases hdirty
  · rename_i hother
    rw [if_neg hother] at hholds
    exact .inl ⟨way, hholds, hdirty⟩

/-- A line that is refilled is clean. -/
theorem dirtiesOnly_install (refill : PendingRefill config) (words : Vector U32 config.lineWords) :
    DirtiesOnly lines bank (bank.install refill words) := by
  rintro a ⟨way, hholds, hdirty⟩
  have hline := line_install bank refill words (config.decode a).setIndex way
  rw [hline.holds] at hholds
  rw [hline.dirty] at hdirty
  split at hdirty
  · cases hdirty
  · rename_i hother
    rw [if_neg hother] at hholds
    exact .inl ⟨way, hholds, hdirty⟩

/-- A store makes its line dirty, or leaves it clean. -/
theorem dirtiesOnly_updateCachedStore {addr : Address} (way : Fin config.associativity) (op : StoreOp)
    {dirty : Bool} (hlines : dirty = true → ∀ a, config.lineBase a = config.lineBase addr → lines a) :
    DirtiesOnly lines bank (bank.updateCachedStore (config.decode addr) way op dirty) := by
  rintro a ⟨way', hholds, hdirty⟩
  have hline := line_updateCachedStore bank (config.decode addr) way op dirty (config.decode a).setIndex way'
  rw [hline.holds] at hholds
  rw [hline.dirty] at hdirty
  split at hdirty
  · rename_i hthis
    rw [if_pos hthis] at hholds
    refine .inr (hlines hdirty a ?_)
    exact config.decode_inj hthis.1 (holds_iff.1 hholds).2.symm
  · rename_i hother
    rw [if_neg hother] at hholds
    exact .inl ⟨way', hholds, hdirty⟩

/-! ## What an access makes dirty -/

theorem dirtiesOnly_onOk {α γ β : Type} {out : Except CacheError α × CacheBank config × β}
    {next : α → CacheBank config × β → Except CacheError γ × CacheBank config × β}
    (h : DirtiesOnly lines bank out.2.1)
    (hnext : ∀ a bank inner, DirtiesOnly lines bank (next a (bank, inner)).2.1) :
    DirtiesOnly lines bank (onOk out next).2.1 := by
  obtain ⟨error | a, bank', inner⟩ := out
  · exact h
  · exact h.trans (hnext a bank' inner)

section Access

variable {β : Type} [BurstBus β]

theorem dirtiesOnly_continuePending (bank : CacheBank config) (inner : β) :
    DirtiesOnly lines bank (bank.continuePending inner).2.1 := by
  cases hpending : bank.pending with
  | none =>
    unfold continuePending
    rw [hpending]
    exact dirtiesOnly_refl bank
  | some pending =>
    obtain ⟨words, -, hbank⟩ | ⟨error, -, pending', hbank, -⟩ := continuePending_cases hpending inner
    · rw [hbank]
      exact fun a h => dirtiesOnly_install pending.refill words a h
    · rw [hbank]
      exact fun _ h => .inl h

theorem dirtiesOnly_resumePending (bank : CacheBank config) (inner : β) (decoded : DecodedAddress config) :
    DirtiesOnly lines bank (bank.resumePending inner decoded).2.1 := by
  unfold resumePending
  split
  · exact dirtiesOnly_refl bank
  · exact dirtiesOnly_continuePending bank inner

theorem dirtiesOnly_fillLine (bank : CacheBank config) (inner : β) (decoded : DecodedAddress config)
    (kind : RefillKind) : DirtiesOnly lines bank (bank.fillLine inner decoded kind).2.1 := by
  unfold fillLine
  apply dirtiesOnly_onOk
  · exact (dirtiesOnly_startPending decoded kind).trans (dirtiesOnly_continuePending _ inner)
  · intro _ bank _
    exact dirtiesOnly_refl bank

/-- The lines that a request stores to, where they are written back. -/
def Dirtied (config : CacheConfig) (request : BusRequest) (a : Address) : Prop :=
  config.writePolicy = .writeBack ∧
    ∃ s ∈ request.stored, config.lineBase s = config.lineBase a

theorem dirtiesOnly_finish (bank : CacheBank config) (inner : β) (request : BusRequest)
    (way : Fin config.associativity) :
    DirtiesOnly (Dirtied config request) bank (bank.finish inner request way).2.1 := by
  unfold finish
  dsimp only
  split
  · exact (sameLines_touchLine bank _ way).dirtiesOnly
  · rename_i op hop
    unfold storeLine
    split
    · -- a write-through store is committed first, and leaves the line clean
      rcases op.commit inner with ⟨error | _, inner'⟩
      · exact dirtiesOnly_refl bank
      · apply dirtiesOnly_updateCachedStore
        intro h
        cases h
    · rename_i hpolicy
      apply dirtiesOnly_updateCachedStore
      intro _ a hline
      refine ⟨hpolicy, op.addr, ?_, ?_⟩
      · unfold BusRequest.stored
        rw [hop]
        exact List.mem_singleton_self _
      · rw [hline, config.lineBase_wordAddr, (BusRequest.storeOp_addr hop).1]

theorem dirtiesOnly_miss (bank : CacheBank config) (inner : β) (request : BusRequest) :
    DirtiesOnly (Dirtied config request) bank (bank.miss inner request).2.1 := by
  unfold miss
  split
  · apply dirtiesOnly_onOk
    · exact dirtiesOnly_fillLine bank inner _ _
    · intro way bank inner
      exact dirtiesOnly_finish bank inner request way
  · exact dirtiesOnly_refl bank

/-- **An access makes dirty no line but the one it stores to**, and that one only where it is written
back. -/
theorem access_dirtiesOnly (bank : CacheBank config) (inner : β) (request : BusRequest) :
    DirtiesOnly (Dirtied config request) bank (bank.access inner request).2.1 := by
  by_cases hmisaligned : request.Misaligned
  · rw [access_misaligned hmisaligned]
    exact dirtiesOnly_refl bank
  · cases hcovers : config.covers request with
    | false =>
      rw [access_bypass hmisaligned hcovers]
      exact dirtiesOnly_refl bank
    | true =>
      rw [access_line hmisaligned hcovers]
      unfold lineAccess
      apply dirtiesOnly_onOk
      · exact dirtiesOnly_resumePending bank inner _
      · intro _ bank inner
        dsimp only
        split
        · exact dirtiesOnly_finish bank inner request _
        · exact dirtiesOnly_miss bank inner request

end Access

/-- A byte in a dirty line that is looked up is dirty. -/
theorem dirtyAt_of_inDirtyLine {a : Address} (h : bank.inDirtyLine a = true) : bank.DirtyAt a := by
  unfold inDirtyLine at h
  split at h
  · rename_i way hlookup
    exact ⟨way, bank.holds_of_lookupWay hlookup, h⟩
  · cases h

end CacheBank

/-! ## The contract of a split cache -/

/-- What is left of an answer by a weaker reading of the bus behind it. -/
theorem AnsweredAs.imp {β : Type} {awaiting awaiting' quiet quiet' : FlatMemory → β → Prop}
    {request : BusRequest} {memory : FlatMemory} {out : Except BusError U32 × β}
    (h : AnsweredAs awaiting quiet request memory out)
    (hawaiting : awaiting memory out.2 → awaiting' memory out.2)
    (hquiet : quiet { memory with contents := request.effect memory.contents } out.2 →
      quiet' { memory with contents := request.effect memory.contents } out.2) :
    AnsweredAs awaiting' quiet' request memory out := by
  obtain ⟨error | value, b⟩ := out
  · exact ⟨h.1, hawaiting h.2⟩
  · exact ⟨h.1, hquiet h.2⟩

namespace SplitL1Cache

variable {instr dat : CacheConfig}

/-- The line of the byte is one that a store went to, and is written back. -/
def touched (dat : CacheConfig) (stores : List Address) (a : Address) : Bool :=
  dat.writePolicy == .writeBack && stores.any fun s => dat.lineBase s == dat.lineBase a

theorem touched_iff {stores : List Address} {a : Address} : touched dat stores a = true ↔
    dat.writePolicy = .writeBack ∧ ∃ s ∈ stores, dat.lineBase s = dat.lineBase a := by
  simp [touched]

theorem touched_append (more : List Address) {stores : List Address} {a : Address}
    (h : touched dat stores a = true) : touched dat (more ++ stores) a = true := by
  rw [touched_iff] at h ⊢
  obtain ⟨hpolicy, s, hs, hline⟩ := h
  exact ⟨hpolicy, s, List.mem_append_right more hs, hline⟩

/-- The bytes of a word lie in one line. -/
theorem touched_word {stores : List Address} {addr : Address}
    (haligned : ¬ (BusRequest.fetch32 addr).Misaligned) {i : Nat} (hi : i < 4) :
    touched dat stores (addr + BitVec.ofNat 64 i) = touched dat stores addr := by
  have hword := BusRequest.mod_add_width haligned
  have hline : dat.lineBase (addr + BitVec.ofNat 64 i) = dat.lineBase addr := by
    apply dat.lineBase_of_stored (show (⟨addr, 4, 0⟩ : StoreOp).addr.toNat % 4 + 4 ≤ 4 from hword)
    show (addr + BitVec.ofNat 64 i - addr).toNat < 4
    rw [BitVec.add_comm, BitVec.add_sub_cancel, BitVec.toNat_ofNat, Nat.mod_eq_of_lt (by omega)]
    exact hi
  unfold touched
  rw [hline]

/-! ### Weaker promises -/

/-- More bytes may be stale. -/
theorem FetchedAs.mono {stale stale' : Address → Bool} {memory : ByteMemory} {bank : CacheBank instr}
    (h : FetchedAs stale memory bank) (hmore : ∀ a, stale a = true → stale' a = true) :
    FetchedAs stale' memory bank := by
  obtain ⟨hpending, hclean, fetched, hshows, hfetched⟩ := h
  refine ⟨hpending, hclean, fetched, hshows, fun a hin hfresh => hfetched a hin ?_⟩
  cases hstale : stale a with
  | false => rfl
  | true =>
    rw [hmore a hstale] at hfresh
    cases hfresh

variable {β : Type} [BurstBus β] [MemoryContract β] {cache : SplitL1Cache instr dat β}
  {memory : FlatMemory} {stores : List Address} {addr : Address} {request : BusRequest}

theorem QuietWith.mono {stale stale' : Address → Bool} (h : cache.QuietWith (FetchedAs stale) memory)
    (hmore : ∀ a, stale a = true → stale' a = true) : cache.QuietWith (FetchedAs stale') memory :=
  ⟨⟨h.config, h.maintenance, h.instruction.mono hmore⟩, h.data⟩

theorem Fetching.mono {stale stale' : Address → Bool} (h : cache.Fetching stale memory addr)
    (hmore : ∀ a, stale a = true → stale' a = true) : cache.Fetching stale' memory addr := by
  obtain ⟨hconfig, hmaintenance, hpending, region, fetched, hawaits, hfetched⟩ := h
  refine ⟨hconfig, hmaintenance, hpending, region, fetched, hawaits, fun a hfresh => hfetched a ?_⟩
  cases hstale : stale a with
  | false => rfl
  | true =>
    rw [hmore a hstale] at hfresh
    cases hfresh

/-! ### Between two calls -/

/-- The dirty lines of the data bank are those that stores went to. -/
def DirtyTouched (stores : List Address) (bank : CacheBank dat) : Prop :=
  ∀ a, bank.DirtyAt a → touched dat stores a = true

/-- Nothing is in progress, behind stores to these addresses. -/
structure FreshQuiet (stores : List Address) (memory : FlatMemory) (cache : SplitL1Cache instr dat β) :
    Prop extends cache.QuietWith (FetchedAs (touched dat stores)) memory where
  within : instr.Within memory.mapped
  dirty : DirtyTouched stores cache.data

/-- The request is in progress, behind stores to these addresses. -/
structure FreshAwaiting (stores : List Address) (request : BusRequest) (memory : FlatMemory)
    (cache : SplitL1Cache instr dat β) : Prop where
  within : instr.Within memory.mapped
  maintenance : cache.maintenance = none
  dirty : DirtyTouched (request.stored ++ stores) cache.data
  sees : ∀ addr, request = .fetch32 addr → touched dat stores addr = false
  progress : InProgress (touched dat stores) memory cache request

theorem DirtyTouched.append {bank : CacheBank dat} (h : DirtyTouched stores bank) (more : List Address) :
    DirtyTouched (more ++ stores) bank := fun a hdirty => touched_append more (h a hdirty)

omit [MemoryContract β] in
/-- The access of a data bank touches the lines it stores to. -/
theorem DirtyTouched.access {bank : CacheBank dat} (h : DirtyTouched (request.stored ++ stores) bank)
    (inner : β) : DirtyTouched (request.stored ++ stores) (bank.access inner request).2.1 := by
  intro a hdirty
  obtain hdirty | ⟨hpolicy, s, hs, hline⟩ := CacheBank.access_dirtiesOnly bank inner request a hdirty
  · exact h a hdirty
  · exact touched_iff.2 ⟨hpolicy, s, List.mem_append_left stores hs, hline⟩

omit [MemoryContract β] in
/-- The data bank behind a data access. -/
theorem data_call (hmaintenance : cache.maintenance = none) (hdata : ∀ addr, request ≠ .fetch32 addr) :
    (request.call cache).2.data = (cache.data.access cache.inner request).2.1 := by
  rw [call_eq, access_data hmaintenance hdata]
  unfold behindStore surfaced onData
  cases request.storeOp with
  | none => rfl
  | some op => rcases cache.data.access cache.inner request with ⟨_ | _, _, _⟩ <;> rfl

omit [MemoryContract β] in
/-- A fetch leaves the data bank alone. -/
theorem data_fetch (hmaintenance : cache.maintenance = none) :
    ((BusRequest.fetch32 addr).call cache).2.data = cache.data := by
  rw [call_eq, access_fetch hmaintenance]
  rfl

/-! ### The two calls of the contract -/

/-- What a call is answered with, behind stores to these addresses. -/
abbrev FreshAnswered (stores : List Address) (request : BusRequest) (memory : FlatMemory)
    (out : Except BusError U32 × SplitL1Cache instr dat β) : Prop :=
  AnsweredAs (FreshAwaiting stores request) (FreshQuiet (request.stored ++ stores)) request memory out

/-- A data access that is answered. -/
theorem freshAnswered_data (hwithin : instr.Within memory.mapped) (hmaintenance : cache.maintenance = none)
    (hdirty : DirtyTouched (request.stored ++ stores) cache.data)
    (hdata : ∀ addr, request ≠ .fetch32 addr)
    (h : AnsweredAs (AwaitingWith (FetchedAs (touched dat stores)) request)
      (QuietWith (FetchedAs (touched dat stores))) request memory (request.call cache)) :
    FreshAnswered stores request memory (request.call cache) := by
  have hnext : DirtyTouched (request.stored ++ stores) (request.call cache).2.data := by
    rw [data_call hmaintenance hdata]
    exact hdirty.access cache.inner
  apply h.imp
  · intro hawaiting
    refine ⟨hwithin, hawaiting.maintenance, hnext, fun addr h => absurd h (hdata addr), ?_⟩
    rw [inProgress_data hdata]
    exact hawaiting
  · intro hquiet
    exact ⟨hquiet.mono fun a => touched_append request.stored, hwithin, hnext⟩

/-- A fetch that is answered, from a line that no store went to. -/
theorem freshAnswered_fetch (hwithin : instr.Within memory.mapped) (hmaintenance : cache.maintenance = none)
    (hdirty : DirtyTouched stores cache.data) (haligned : ¬ (BusRequest.fetch32 addr).Misaligned)
    (hsees : touched dat stores addr = false) {stale : Address → Bool}
    (hstale : ∀ a, stale a = true → touched dat stores a = true)
    (h : FetchAnswered stale memory addr ((BusRequest.fetch32 addr).call cache)) :
    FreshAnswered stores (.fetch32 addr) memory ((BusRequest.fetch32 addr).call cache) := by
  have hnext : DirtyTouched stores ((BusRequest.fetch32 addr).call cache).2.data := by
    rw [data_fetch hmaintenance]
    exact hdirty
  have hword : ∀ i < 4, stale (addr + BitVec.ofNat 64 i) = false := by
    intro i hi
    rw [Bool.eq_false_iff]
    intro htrue
    have htouched := hstale _ htrue
    rw [touched_word haligned hi, hsees] at htouched
    cases htouched
  generalize (BusRequest.fetch32 addr).call cache = out at h hnext
  obtain ⟨error | value, cache'⟩ := out
  · refine ⟨h.1, hwithin, h.2.maintenance, hnext, ?_, h.2.mono hstale⟩
    rintro _ ⟨⟩
    exact hsees
  · exact ⟨h.1 hword, h.2.mono hstale, hwithin, hnext⟩

/-- **A request that begins.** -/
theorem fresh_call (h : cache.FreshQuiet stores memory) (accessible : request.Accessible memory)
    (hsees : ∀ addr, request = .fetch32 addr → (!touched dat stores addr) = true) :
    FreshAnswered stores request memory (request.call cache) := by
  by_cases hfetch : ∃ addr, request = .fetch32 addr
  · obtain ⟨addr, rfl⟩ := hfetch
    have hsees : touched dat stores addr = false := by simpa using hsees addr rfl
    have hanswered := h.toQuietWith.fetch h.within accessible.aligned accessible.maps
    refine freshAnswered_fetch h.within h.maintenance h.dirty accessible.aligned hsees ?_ hanswered
    intro a hstale
    split at hstale
    · exact hstale
    · exact h.dirty a (CacheBank.dirtyAt_of_inDirtyLine hstale)
  · have hdata : ∀ addr, request ≠ .fetch32 addr := fun addr heq => hfetch ⟨addr, heq⟩
    apply freshAnswered_data h.within h.maintenance (h.dirty.append request.stored) hdata
    exact h.toQuietWith.call (keptByStores_fetchedAs _) hdata accessible.aligned accessible.maps

/-- **A request that is repeated.** -/
theorem fresh_again (h : cache.FreshAwaiting stores request memory) (accessible : request.Accessible memory) :
    FreshAnswered stores request memory (request.call cache) := by
  have hprogress := h.progress
  by_cases hfetch : ∃ addr, request = .fetch32 addr
  · obtain ⟨addr, rfl⟩ := hfetch
    apply freshAnswered_fetch h.within h.maintenance h.dirty accessible.aligned (h.sees addr rfl)
      (fun _ h => h)
    exact Fetching.fetch h.within hprogress accessible.aligned accessible.maps
  · have hdata : ∀ addr, request ≠ .fetch32 addr := fun addr heq => hfetch ⟨addr, heq⟩
    rw [inProgress_data hdata] at hprogress
    apply freshAnswered_data h.within h.maintenance h.dirty hdata
    exact hprogress.call (keptByStores_fetchedAs _) hdata accessible.aligned accessible.maps

/-- A fetch from a split cache sees all stores, unless its line is one that a store went to and that is
written back. -/
instance : RepeatedMemory (SplitL1Cache instr dat β) where
  fetches stores addr := !touched dat stores addr
  Quiet := FreshQuiet
  Awaiting := FreshAwaiting
  quiet_tick h := ⟨h.toQuietWith.tick, h.within, h.dirty⟩
  awaiting_tick h := ⟨h.within, h.maintenance, h.dirty, h.sees, h.progress.tick⟩
  call_quiet accessible hsees h := fresh_call h accessible hsees
  call_awaiting accessible h := fresh_again h accessible

/-- A new cache in front of a bus with nothing in progress. -/
theorem freshQuiet_new {inner : β} (hinstr : instr.Within memory.mapped) (hdat : dat.Within memory.mapped)
    (hinner : Quiet memory inner) :
    (SplitL1Cache.new inner instr dat).FreshQuiet [] memory := by
  have hstart := FetchClient.inStep_start hinstr hdat hinner
  refine ⟨(hstart.quiet rfl).mono fun _ h => (by cases h), hinstr, ?_⟩
  rintro a ⟨way, hholds, -⟩
  have hvalid := (CacheBank.holds_iff.1 hholds).1
  rw [show (SplitL1Cache.new inner instr dat).data = .new dat from rfl, CacheBank.valid_new] at hvalid
  cases hvalid

end SplitL1Cache

end RvSim
