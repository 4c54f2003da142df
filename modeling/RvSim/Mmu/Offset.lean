import RvSim.Mmu.Width

/-!
# Translations keep the offset in the page

The entries of the TLB and the pending write of a walk are those of leaves. A leaf maps an address to one
with the same offset, and so does every answer of the walker.

## Main definitions

* `PageWalker.MapsPages`: the walker maps pages, by its entries and by the walk in progress

## Main results

* `PageWalker.MapsPages.translate`, `PageWalker.MapsPages.sameOffset_of_translate`: a call keeps it, and
  its answer has the offset of the address
* `mod_four_of_offset`: such an answer is aligned exactly if the address is
-/

namespace RvSim

/-- Two addresses have the same offset in their pages. -/
def SameOffset (a b : U32) : Prop := a &&& pageOffsetMask = b &&& pageOffsetMask

theorem SameOffset.refl (a : U32) : SameOffset a a := Eq.refl (a &&& pageOffsetMask)

/-- The offset of a small page is part of that of a page of any level. -/
theorem levelMask_and_pageOffsetMask (level : Nat) :
    levelMask level &&& pageOffsetMask = pageOffsetMask := by
  unfold levelMask
  split <;> decide

/-- A leaf maps an address to one with the same offset. -/
theorem sameOffset_of_leafAddress {va pte pa : U32} {level : Nat}
    (h : leafAddress va level pte = some pa) : SameOffset pa va := by
  obtain ⟨rfl, -⟩ := eq_of_leafAddress h
  unfold SameOffset
  have hbase : leafBase level pte &&& pageOffsetMask = 0 := by
    rw [← levelMask_and_pageOffsetMask level, ← BitVec.and_assoc, leafBase_disjoint]
    exact BitVec.zero_and
  rw [BitVec.and_or_distrib_right, hbase, BitVec.and_assoc, levelMask_and_pageOffsetMask]
  exact BitVec.zero_or

theorem mod_four_iff {a : U32} : a % 4 = 0 ↔ a.toNat % 4 = 0 := BitVec.toNat_inj.symm

/-- Addresses with the same offset are misaligned alike. -/
theorem mod_four_of_offset {a b : U32} (h : SameOffset a b) : a % 4 = 0 ↔ b % 4 = 0 := by
  have hnat := congrArg BitVec.toNat h
  rw [BitVec.toNat_and, BitVec.toNat_and, show pageOffsetMask.toNat = 2 ^ 12 - 1 from rfl,
    Nat.and_two_pow_sub_one_eq_mod, Nat.and_two_pow_sub_one_eq_mod] at hnat
  rw [mod_four_iff, mod_four_iff]
  omega

/-- An address is misaligned on the bus as it is in the walker. -/
theorem mod_four_of_setWidth {a : U32} (h : a.setWidth 64 % 4 = (0 : U64)) : a % 4 = 0 := by
  have hnat : (a.setWidth 64).toNat % 4 = 0 := congrArg BitVec.toNat h
  rw [BitVec.toNat_setWidth] at hnat
  have hlt := a.isLt
  rw [mod_four_iff]
  omega

namespace PageWalker

/-- The walker maps pages: its entries are those of leaves, and so is a pending write. -/
structure MapsPages (walker : PageWalker) : Prop where
  entries : ∀ entry, walker.Holds entry → ∃ (state : WalkState) (pte pa flags : U32),
    leafAddress state.request.virtualAddress state.level pte = some pa ∧ entry = state.entry flags pa
  leaf : ∀ state pa flags value, walker.active = some state →
    state.phase = .writeLeaf pa flags value →
    ∃ pte, leafAddress state.request.virtualAddress state.level pte = some pa

namespace MapsPages

theorem new : ({} : PageWalker).MapsPages where
  entries entry hold := absurd hold (not_holds_new entry)
  leaf state pa flags value hactive := by cases hactive

variable {walker w : PageWalker} {state : WalkState}

theorem ended (h : walker.MapsPages) : ({ walker with active := none } : PageWalker).MapsPages where
  entries := h.entries
  leaf state pa flags value hactive := by cases hactive

/-- A walk that only reads has nothing pending. -/
theorem reading (h : walker.MapsPages) (phase : state.phase = .readPte) :
    ({ walker with active := some state } : PageWalker).MapsPages where
  entries := h.entries
  leaf state' pa flags value hactive phase' := by
    obtain rfl := Option.some.inj hactive
    rw [phase] at phase'
    cases phase'

theorem filled {drainOnly : Bool} {flags pte pa : U32} (h : walker.MapsPages)
    (leaf : leafAddress state.request.virtualAddress state.level pte = some pa) :
    (walker.filled drainOnly state flags pa).MapsPages where
  entries entry hold := by
    rcases holds_filled hold with hold | ⟨-, rfl⟩
    · exact h.entries entry hold
    · exact ⟨state, pte, pa, flags, leaf, rfl⟩
  leaf state pa flags value hactive := by cases hactive

theorem flushFence (h : walker.MapsPages) (fence : TranslationFence) :
    (walker.flushFence fence).MapsPages where
  entries entry hold := h.entries entry (holds_flushFence hold).1
  leaf state pa flags value hactive :=
    h.leaf state pa flags value (walker.flushFence_active fence ▸ hactive)

variable {β : Type} [Bus β] {bus b : β} {drainOnly : Bool} {result : StepResult}

/-- The write of a leaf keeps it, and answers with the address of the leaf. -/
theorem leafWrite {flags value pte pa : U32} (h : walker.MapsPages)
    (leaf : leafAddress state.request.virtualAddress state.level pte = some pa)
    (write : LeafWrite walker bus state pa flags value drainOnly result w b) :
    w.MapsPages ∧ ∀ pa', .physicalAddress pa' ∈ result.answer → pa' = pa := by
  have answered : ∀ pa', .physicalAddress pa' ∈ (PageWalker.ended drainOnly (.ready pa)).answer →
      pa' = pa := by
    intro pa' hanswer
    cases drainOnly with
    | true => cases hanswer
    | false => exact (TranslationResult.physicalAddress.inj (Option.some.inj hanswer)).symm
  cases write with
  | done => exact ⟨h.filled leaf, answered⟩
  | busy => exact ⟨h, nofun⟩
  | failed =>
    refine ⟨h.ended, fun pa' hanswer => ?_⟩
    cases drainOnly <;> cases hanswer

/-- **A step of a walk keeps it**, and answers with an address of the same offset. -/
theorem walkStep (h : walker.MapsPages) (hactive : walker.active = some state)
    (step : WalkStep walker bus state drainOnly result w b) :
    w.MapsPages ∧ ∀ pa, .physicalAddress pa ∈ result.answer →
      SameOffset pa state.request.virtualAddress := by
  -- the write of a leaf, whether it was pending or begins in this step
  have write : ∀ {walker w : PageWalker} {bus b : β} {s : WalkState} {pte pa flags value : U32},
      walker.MapsPages → leafAddress s.request.virtualAddress s.level pte = some pa →
      LeafWrite walker bus s pa flags value drainOnly result w b →
      w.MapsPages ∧ ∀ pa', .physicalAddress pa' ∈ result.answer →
        SameOffset pa' s.request.virtualAddress := by
    intro walker w bus b s pte pa flags value h leaf write
    obtain ⟨hw, hanswer⟩ := h.leafWrite leaf write
    exact ⟨hw, fun pa' hpa => hanswer pa' hpa ▸ sameOffset_of_leafAddress leaf⟩
  have fault : ∀ {trap : Trap} (pa : U32),
      .physicalAddress pa ∈ (PageWalker.ended drainOnly (.fault trap)).answer →
      SameOffset pa state.request.virtualAddress := by
    intro trap pa hanswer
    cases drainOnly <;> cases hanswer
  cases step with
  | write phase leaf =>
    obtain ⟨pte, hleaf⟩ := h.leaf state _ _ _ hactive phase
    exact write h hleaf leaf
  | busy => exact ⟨h, nofun⟩
  | failed => exact ⟨h.ended, fault⟩
  | fault => exact ⟨h.ended, fault⟩
  | table => exact ⟨h.reading rfl, nofun⟩
  | leaf _ _ meaning =>
    have hleaf := (leafAddress_of_pteStep meaning).1
    refine ⟨h.filled hleaf, fun pa hanswer => ?_⟩
    cases drainOnly with
    | true => cases hanswer
    | false =>
      obtain rfl := TranslationResult.physicalAddress.inj (Option.some.inj hanswer)
      exact sameOffset_of_leafAddress hleaf
  -- the leaf is pending before it is written
  | @update _ _ pte pa _ _ _ _ meaning _ leaf =>
    have hleaf := (leafAddress_of_pteStep meaning).1
    have h' : ({ walker with active := some (state.writing pa pte) } : PageWalker).MapsPages := by
      refine ⟨h.entries, fun state' pa' flags value hactive' phase' => ?_⟩
      obtain rfl := Option.some.inj hactive'
      obtain ⟨rfl, -⟩ := WalkPhase.writeLeaf.inj phase'
      exact ⟨pte, hleaf⟩
    have hleaf' : leafAddress (state.writing pa pte).request.virtualAddress (state.writing pa pte).level
        pte = some pa := hleaf
    exact write (s := state.writing pa pte) h' hleaf' leaf

theorem translateLoop (h : walker.MapsPages) (bus : β) (request : TranslationRequest) (fuel : Nat) :
    Answers (fun w (_ : β) => w.MapsPages)
      (fun answer _ _ => ∀ pa, answer = .physicalAddress pa → SameOffset pa request.virtualAddress)
      (translateLoop request fuel walker bus) := by
  refine translateLoop_rule ?_ ?_ ?_ ?_ ?_ fuel h
  · exact fun w b state result w' b' h hactive step => (h.walkStep hactive step).1
  · rintro w b state result w' b' h hactive hown - step answer hanswer pa rfl
    rw [← hown]
    exact (h.walkStep hactive step).2 pa hanswer
  · exact fun w b h _ _ _ => h.reading rfl
  · rintro w b answer h - - hlookup pa rfl
    obtain ⟨entry, hold, -, gives⟩ := lookupTlb_gives hlookup
    obtain ⟨state, pte, pa', flags, leaf, rfl⟩ := h.entries entry hold
    rcases gives with ⟨-, -, hpa⟩ | ⟨-, hfault⟩
    · rw [TranslationResult.physicalAddress.inj hpa]
      exact sameOffset_of_leafAddress (entry_translate leaf)
    · cases hfault
  · rintro w b - - - pa hpa
    rw [TranslationResult.physicalAddress.inj hpa]
    exact .refl pa

/-- **A call keeps it.** -/
theorem translate (h : walker.MapsPages) (bus : β) (csrs : CsrFile) (privilege : PrivilegeMode)
    (virtualAddress : U32) (access : MemoryAccess) :
    (walker.translate bus csrs privilege virtualAddress access).2.1.MapsPages :=
  (h.translateLoop bus _ _).1

/-- **The answer of a call has the offset of the address.** -/
theorem sameOffset_of_translate (h : walker.MapsPages) {csrs : CsrFile} {privilege : PrivilegeMode}
    {virtualAddress pa : U32} {access : MemoryAccess}
    (heq : walker.translate bus csrs privilege virtualAddress access =
      (.ok (.physicalAddress pa), w, b)) : SameOffset pa virtualAddress := by
  have answers := (h.translateLoop bus (.of csrs privilege virtualAddress access) walker.walkFuel).2
  exact answers (.physicalAddress pa) (congrArg Prod.fst heq) nofun pa rfl

end MapsPages

end PageWalker

end RvSim
