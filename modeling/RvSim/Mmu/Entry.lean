import RvSim.Mmu.Walk
import Mathlib.Tactic.IntervalCases

/-!
# Pages and TLB entries

A TLB entry stands for a leaf PTE: for every address in its page it gives what the leaf gives. The
walks of two addresses in one page reach the same leaf.

## Main definitions

* `levelMask`: the offset bits of a page of a level
* `WalkState.entry`: the entry a walk that ends with a leaf leaves in the TLB
* `TranslationRequest.SamePage`: two requests whose addresses are in one page of one address space

## Main results

* `entry_translate`: an entry gives what its leaf gives
* `SamePage.rootPteAddress_eq`, `SamePage.pteStep_table`: the walks of a page read the same PTEs
-/

namespace RvSim

/-! ## Pages -/

/-- The offset bits of a page that a leaf of a level maps. -/
def levelMask : Nat → U32
  | 0 => pageOffsetMask
  | _ => superpageOffsetMask

/-- The requests are for one page, of the size a level has, of one address space. -/
structure TranslationRequest.SamePage (level : Nat) (r r' : TranslationRequest) : Prop where
  satp : r'.satp = r.satp
  page : r'.virtualAddress &&& ~~~levelMask level = r.virtualAddress &&& ~~~levelMask level

theorem vpn_one_eq (va : U32) :
    vpn va 1 = ((va &&& ~~~superpageOffsetMask) >>> 22) &&& 0x3ff := by
  rw [vpn, BitVec.ushiftRight_and_distrib, BitVec.and_assoc]
  rfl

theorem vpn_zero_eq (va : U32) : vpn va 0 = ((va &&& ~~~pageOffsetMask) >>> 12) &&& 0x3ff := by
  rw [vpn, BitVec.ushiftRight_and_distrib, BitVec.and_assoc]
  rfl

/-- A page lies in a superpage. -/
theorem superpage_of_page {va va' : U32} {level : Nat}
    (h : va' &&& ~~~levelMask level = va &&& ~~~levelMask level) :
    va' &&& ~~~superpageOffsetMask = va &&& ~~~superpageOffsetMask := by
  have hmask : ~~~superpageOffsetMask = ~~~levelMask level &&& ~~~superpageOffsetMask := by
    cases level with
    | zero => rfl
    | succ => exact BitVec.and_self.symm
  rw [hmask, ← BitVec.and_assoc, ← BitVec.and_assoc, h]

namespace TranslationRequest.SamePage

variable {level : Nat} {r r' : TranslationRequest}

theorem rootPteAddress_eq (h : SamePage level r r') : r'.rootPteAddress = r.rootPteAddress := by
  rw [rootPteAddress, rootPteAddress, h.satp, vpn_one_eq, vpn_one_eq, superpage_of_page h.page]

/-- The walks of a page go on at the same PTE. -/
theorem pteStep_table (h : SamePage 0 r r') {pte pteAddress : U32}
    (hr : pteStep r 1 pte = .table pteAddress) : pteStep r' 1 pte = .table pteAddress := by
  have hvpn : vpn r'.virtualAddress 0 = vpn r.virtualAddress 0 := by
    rw [vpn_zero_eq, vpn_zero_eq]
    exact congrArg (fun va : U32 => (va >>> 12) &&& 0x3ff) h.page
  unfold pteStep at hr ⊢
  dsimp only at hr ⊢
  rw [hvpn]
  split at hr
  · cases hr
  · next hvalid =>
    rw [if_neg hvalid]
    split at hr
    · split at hr
      · cases hr
      · split at hr <;> cases hr
    · next hpointer =>
      rw [if_neg hpointer]
      exact hr

end TranslationRequest.SamePage

/-! ## Entries -/

/-- The entry that a walk leaves which ends at its level with a leaf. -/
def WalkState.entry (state : WalkState) (flags physicalAddress : U32) : TlbEntry where
  satp := state.request.satp
  virtualBase := state.request.virtualAddress &&& ~~~levelMask state.level
  physicalBase := physicalAddress &&& ~~~levelMask state.level
  pageMask := levelMask state.level
  flags := flags
  globalMapping := state.globalMapping || pteIsGlobal flags

theorem PageWalker.insertTlb_eq (walker : PageWalker) {state : WalkState} (hlevel : state.level ≤ 1)
    (flags physicalAddress : U32) :
    walker.insertTlb state flags physicalAddress =
      { walker with
        tlb := walker.tlb.set walker.nextTlbEntry (some (state.entry flags physicalAddress))
        nextTlbEntry := walker.nextTlbEntry + 1 } := by
  unfold insertTlb WalkState.entry
  rcases hl : state.level with _ | _ | n
  · rfl
  · rfl
  · omega

/-- The base of a page of physical memory that a leaf maps. -/
def leafBase (level : Nat) (pte : U32) : U32 :=
  match level with
  | 0 => ptePpn pte <<< pageShift
  | _ => (ptePpn pte >>> 10) <<< superpageShift

theorem ppn_split (ppn : U32) : ((ppn >>> 10) <<< 10) ||| (ppn &&& ptePpn0Mask) = ppn := by
  apply BitVec.eq_of_getLsbD_eq
  intro i hi
  simp only [BitVec.getLsbD_or, BitVec.getLsbD_shiftLeft, BitVec.getLsbD_ushiftRight,
    BitVec.getLsbD_and]
  interval_cases i <;> simp [ptePpn0Mask]

theorem offset_split (va : U32) :
    (vpn va 0 <<< pageShift) ||| (va &&& pageOffsetMask) = va &&& superpageOffsetMask := by
  apply BitVec.eq_of_getLsbD_eq
  intro i hi
  simp only [vpn, BitVec.getLsbD_or, BitVec.getLsbD_shiftLeft, BitVec.getLsbD_ushiftRight,
    BitVec.getLsbD_and]
  interval_cases i <;> simp [pageShift, pageOffsetMask, superpageOffsetMask, pageSize, superpageSize,
    superpageShift]

/-- A superpage leaf is aligned. -/
def leafAligned (level : Nat) (pte : U32) : Bool :=
  match level with
  | 0 => true
  | 1 => ptePpn pte &&& ptePpn0Mask == 0
  | _ => false

/-- A leaf maps the address into its own page. -/
theorem leafAddress_eq (va : U32) (level : Nat) (pte : U32) :
    leafAddress va level pte =
      if leafAligned level pte then some (leafBase level pte ||| (va &&& levelMask level))
      else none := by
  rcases level with _ | _ | n
  · simp only [leafAddress, ppn_split]
    rfl
  · simp only [leafAddress, leafAligned, beq_iff_eq]
    by_cases haligned : ptePpn pte &&& ptePpn0Mask = 0
    · rw [if_neg (not_not.mpr haligned), if_pos haligned, BitVec.shiftLeft_or_distrib,
        BitVec.or_assoc, offset_split, ← BitVec.shiftLeft_add]
      rfl
    · rw [if_pos haligned, if_neg haligned]
  · rfl

/-- The base of a page has no offset bits. -/
theorem leafBase_and_mask (level : Nat) (pte : U32) :
    leafBase level pte &&& ~~~levelMask level = leafBase level pte := by
  have clear : ∀ (x mask : U32) (n : Nat), mask = ~~~(BitVec.allOnes 32 <<< n) →
      (x <<< n) &&& ~~~mask = x <<< n := by
    rintro x mask n rfl
    rw [BitVec.not_not, ← BitVec.shiftLeft_and_distrib, BitVec.and_allOnes]
  unfold leafBase
  split
  · exact clear _ _ _ (by decide)
  · next hlevel =>
    have hmask : levelMask level = superpageOffsetMask := by
      unfold levelMask
      split
      · exact absurd rfl hlevel
      · rfl
    rw [hmask]
    exact clear _ _ _ (by decide)

section Entry

variable {state : WalkState} {r : TranslationRequest} {flags pa pte : U32}

/-- A match is an address in the page, unless the mapping is global. -/
theorem entry_matches (hmatch : (state.entry flags pa).matches r = true)
    (hglobal : (state.entry flags pa).globalMapping = false) :
    state.request.SamePage state.level r := by
  unfold TlbEntry.matches at hmatch
  rw [hglobal, Bool.false_or, Bool.and_eq_true, beq_iff_eq, beq_iff_eq] at hmatch
  exact ⟨hmatch.1.symm, hmatch.2⟩

/-- **An entry gives what its leaf gives** to every address of the page. -/
theorem entry_translate
    (hleaf : leafAddress state.request.virtualAddress state.level pte = some pa) :
    leafAddress r.virtualAddress state.level pte = some ((state.entry flags pa).translate r) := by
  rw [leafAddress_eq] at hleaf ⊢
  split at hleaf
  · next haligned =>
    rw [if_pos haligned]
    have hbase : pa &&& ~~~levelMask state.level = leafBase state.level pte := by
      rw [← Option.some.inj hleaf, BitVec.and_or_distrib_right, leafBase_and_mask, BitVec.and_assoc]
      simp
    simp only [TlbEntry.translate, WalkState.entry, hbase]
  · cases hleaf

end Entry

/-! ## Lookup -/

/-- What an entry answers a request that it matches. -/
def TlbEntry.Gives (entry : TlbEntry) (request : TranslationRequest) (answer : TranslationResult) :
    Prop :=
  (request.permissionsAllow entry.flags = true ∧
      request.needsAccessBitUpdate entry.flags = false ∧
      answer = .physicalAddress (entry.translate request)) ∨
    (request.permissionsAllow entry.flags = false ∧ answer = .fault request.pageFault)

/-- An answer of the scan is that of an entry, or of one that was seen before. -/
theorem lookupEntries_gives {request : TranslationRequest} {answer : TranslationResult}
    (slots : List (Option TlbEntry)) (sawPermissionFault : Bool)
    (h : PageWalker.lookupEntries request slots sawPermissionFault = some answer) :
    (∃ entry, some entry ∈ slots ∧ entry.matches request = true ∧ entry.Gives request answer) ∨
      (sawPermissionFault = true ∧ answer = .fault request.pageFault) := by
  induction slots generalizing sawPermissionFault with
  | nil =>
    unfold PageWalker.lookupEntries at h
    split at h
    · next hsaw => exact .inr ⟨hsaw, (Option.some.inj h).symm⟩
    · cases h
  | cons slot slots ih =>
    -- the answer is that of a later slot
    have later : ∀ saw, PageWalker.lookupEntries request slots saw = some answer →
        (∃ entry, some entry ∈ slot :: slots ∧ entry.matches request = true ∧
          entry.Gives request answer) ∨ (saw = true ∧ answer = .fault request.pageFault) := by
      intro saw hsaw
      rcases ih saw hsaw with ⟨entry, hmem, hentry⟩ | hfault
      · exact .inl ⟨entry, List.mem_cons_of_mem _ hmem, hentry⟩
      · exact .inr hfault
    rcases slot with _ | entry
    · exact later _ h
    · unfold PageWalker.lookupEntries at h
      split at h
      · exact later _ h
      · next hmatch =>
        rw [Bool.not_eq_true, Bool.not_eq_false'] at hmatch
        split at h
        · next hdenied =>
          rw [Bool.not_eq_true'] at hdenied
          -- the permission fault is that of this entry, unless a later one answers
          rcases later _ h with hfound | ⟨-, hfault⟩
          · exact .inl hfound
          · exact .inl ⟨entry, List.mem_cons_self, hmatch, .inr ⟨hdenied, hfault⟩⟩
        · next hallowed =>
          rw [Bool.not_eq_true, Bool.not_eq_false'] at hallowed
          split at h
          · exact later _ h
          · next haccessed =>
            rw [Bool.not_eq_true] at haccessed
            exact .inl ⟨entry, List.mem_cons_self, hmatch,
              .inl ⟨hallowed, haccessed, (Option.some.inj h).symm⟩⟩

namespace PageWalker

/-- The entry is in the TLB. -/
def Holds (walker : PageWalker) (entry : TlbEntry) : Prop := some entry ∈ walker.tlb

instance (walker : PageWalker) (entry : TlbEntry) : Decidable (walker.Holds entry) :=
  inferInstanceAs (Decidable (_ ∈ _))

/-- **An answer of the TLB is that of one of its entries.** -/
theorem lookupTlb_gives {walker : PageWalker} {request : TranslationRequest}
    {answer : TranslationResult} (h : walker.lookupTlb request = some answer) :
    ∃ entry, walker.Holds entry ∧ entry.matches request = true ∧ entry.Gives request answer := by
  rcases lookupEntries_gives _ _ h with ⟨entry, hmem, hentry⟩ | ⟨hsaw, -⟩
  · exact ⟨entry, Vector.mem_toList_iff.mp hmem, hentry⟩
  · cases hsaw

theorem not_holds_new (entry : TlbEntry) : ¬ ({} : PageWalker).Holds entry := by
  intro h
  simp [Holds] at h

/-- A fence leaves the walk in progress. -/
@[simp] theorem flushFence_active (walker : PageWalker) (fence : TranslationFence) :
    (walker.flushFence fence).active = walker.active := by
  unfold flushFence
  split <;> rfl

/-- A fence leaves the entries that it does not match. -/
theorem holds_flushFence {walker : PageWalker} {fence : TranslationFence} {entry : TlbEntry}
    (h : (walker.flushFence fence).Holds entry) :
    walker.Holds entry ∧ fence.matchesEntry entry = false := by
  unfold flushFence at h
  split at h
  · simp [Holds] at h
  · simp only [Holds, Vector.mem_map] at h
    obtain ⟨slot, hmem, hslot⟩ := h
    rcases slot with _ | entry'
    · cases hslot
    · dsimp only at hslot
      split at hslot
      · cases hslot
      · next hmatch =>
        obtain rfl := Option.some.inj hslot
        exact ⟨hmem, by simpa using hmatch⟩

/-- What is in the TLB after a walk was there, or is the entry of the walk. -/
theorem holds_filled {walker : PageWalker} {drainOnly : Bool} {state : WalkState}
    {flags physicalAddress : U32} {entry : TlbEntry}
    (h : (walker.filled drainOnly state flags physicalAddress).Holds entry) :
    walker.Holds entry ∨ (drainOnly = false ∧ entry = state.entry flags physicalAddress) := by
  unfold filled at h
  rcases drainOnly with _ | _
  · by_cases hlevel : state.level ≤ 1
    · rw [walker.insertTlb_eq hlevel] at h
      have hset : some entry ∈ walker.tlb.set walker.nextTlbEntry
        (some (state.entry flags physicalAddress)) walker.nextTlbEntry.isLt := h
      rcases Vector.mem_or_eq_of_mem_set hset with hmem | hnew
      · exact .inl hmem
      · exact .inr ⟨rfl, Option.some.inj hnew⟩
    · have hsame : walker.insertTlb state flags physicalAddress = walker := by
        unfold insertTlb
        split
        · omega
        · omega
        · rfl
      simp only [hsame, Bool.false_eq_true, if_false] at h
      exact .inl h
  · exact .inl h

@[simp] theorem filled_active (walker : PageWalker) (drainOnly : Bool) (state : WalkState)
    (flags physicalAddress : U32) :
    (walker.filled drainOnly state flags physicalAddress).active = none := rfl

end PageWalker

/-! ## Permissions -/

/-- The access bits are the only bits that are set. -/
def AccessBits (bits : U32) : Prop := bits &&& ~~~(pteA ||| pteD) = 0

theorem accessBits_zero : AccessBits 0 := rfl

theorem accessBitsFor_accessBits (request : TranslationRequest) :
    AccessBits request.accessBitsFor := by
  unfold AccessBits TranslationRequest.accessBitsFor
  cases request.access <;> decide

theorem AccessBits.or {bits bits' : U32} (h : AccessBits bits) (h' : AccessBits bits') :
    AccessBits (bits ||| bits') := by
  unfold AccessBits at h h' ⊢
  rw [BitVec.and_or_distrib_right, h, h']
  rfl

/-- The other bits of a word are kept. -/
theorem AccessBits.keep {bits m : U32} (h : AccessBits bits) (hm : m &&& (pteA ||| pteD) = 0)
    (word : U32) : (word ||| bits) &&& m = word &&& m := by
  have hbits : bits &&& m = 0 := by
    have hm' : m = ~~~(pteA ||| pteD) &&& m := by
      calc m = (m &&& (pteA ||| pteD)) ||| (m &&& ~~~(pteA ||| pteD)) := by
            rw [← BitVec.and_or_distrib_left,
              show (pteA ||| pteD) ||| ~~~(pteA ||| pteD) = BitVec.allOnes 32 by decide,
              BitVec.and_allOnes]
        _ = ~~~(pteA ||| pteD) &&& m := by rw [hm, BitVec.and_comm m]; simp
    rw [hm', ← BitVec.and_assoc, h]
    exact BitVec.zero_and
  rw [BitVec.and_or_distrib_right, hbits]
  exact BitVec.or_zero

/-- The access bits are not among the permissions. -/
theorem AccessBits.permissionsAllow {bits : U32} (h : AccessBits bits) (r : TranslationRequest)
    (flags : U32) : r.permissionsAllow (flags ||| bits) = r.permissionsAllow flags := by
  simp only [TranslationRequest.permissionsAllow, h.keep (m := pteU) (by decide),
    h.keep (m := pteR) (by decide), h.keep (m := pteW) (by decide), h.keep (m := pteX) (by decide)]

theorem permissionsAllow_updatedFlags (r r' : TranslationRequest) (flags : U32) :
    r'.permissionsAllow (r.updatedFlags flags) = r'.permissionsAllow flags :=
  (accessBitsFor_accessBits r).permissionsAllow r' flags

/-- Flags that have been updated need no update. -/
theorem needsAccessBitUpdate_updatedFlags (r : TranslationRequest) (flags : U32) :
    r.needsAccessBitUpdate (r.updatedFlags flags) = false := by
  rw [TranslationRequest.needsAccessBitUpdate, TranslationRequest.updatedFlags,
    BitVec.and_or_distrib_right, BitVec.and_self]
  have habsorb : (flags &&& r.accessBitsFor) ||| r.accessBitsFor = r.accessBitsFor := by
    rw [BitVec.or_comm, BitVec.and_comm]
    apply BitVec.eq_of_getLsbD_eq
    intro i _
    simp
    tauto
  rw [habsorb]
  simp

/-- What a leaf says to the other requests for its page. -/
theorem pteStep_of_leaf {r r' : TranslationRequest} {level : Nat} {pte pa pa' : U32}
    (h : pteStep r level pte = .leaf pa) (hleaf : leafAddress r'.virtualAddress level pte = some pa') :
    pteStep r' level pte =
      if r'.permissionsAllow (pteFlags pte) then .leaf pa' else .fault := by
  unfold pteStep at h ⊢
  dsimp only at h ⊢
  split at h
  · cases h
  · next hvalid =>
    rw [if_neg hvalid]
    split at h
    · next hleaf' => rw [if_pos hleaf', hleaf]
    · split at h
      · split at h <;> cases h
      · cases h

/-- A leaf that is found is a leaf, and its permissions have been checked. -/
theorem leafAddress_of_pteStep {r : TranslationRequest} {level : Nat} {pte pa : U32}
    (h : pteStep r level pte = .leaf pa) :
    leafAddress r.virtualAddress level pte = some pa ∧
      r.permissionsAllow (pteFlags pte) = true := by
  unfold pteStep at h
  dsimp only at h
  split at h
  · cases h
  · split at h
    · split at h
      · cases h
      · next hpa =>
        split at h
        · next hallow =>
          obtain rfl := PteStep.leaf.inj h
          exact ⟨hpa, hallow⟩
        · cases h
    · split at h
      · split at h <;> cases h
      · cases h

end RvSim
