import RvSim.Mmu.Reads
import RvSim.System.WordBus

/-!
# Translations and fresh walks

The TLB keeps leaves whose access bits may have been set since, an old walk may be suspended when
another request comes, and both may be dropped at a fence. As long as nothing but the walker writes
the page tables, none of this shows: a call answers what a fresh walk of the tables answers.

## Main definitions

* `freshWalk`: a walk of the tables in memory, without a TLB and without a busy bus
* `AnswersFresh`: the answer of a call is that of a fresh walk, and the leaf has been marked
* `OwnTables`: nothing but the walker writes the page tables of the requests

## Main results

* `translate_fresh`: along every run over such tables the calls answer what fresh walks do
-/

namespace RvSim

/-! ## Fresh walks -/

section FreshWalk

variable {β : Type} [Bus β] [WordMemory β]

/-- The word at a PTE address. -/
def pteWord (bus : β) (pteAddress : U32) : U32 := WordMemory.word bus (pteAddress.setWidth 64)

variable (β) in
def pteReadable (pteAddress : U32) : Bool := WordMemory.readable β (pteAddress.setWidth 64)

variable (β) in
def pteWritable (pteAddress : U32) : Bool := WordMemory.writable β (pteAddress.setWidth 64)

/-- A walk from a PTE address of a level. -/
def walkFrom (bus : β) (request : TranslationRequest) (level : Nat) (pteAddress : U32) :
    TranslationResult :=
  if !pteReadable β pteAddress then .fault request.accessFault
  else
    let pte := pteWord bus pteAddress
    match pteStep request level pte with
    | .fault => .fault request.pageFault
    | .leaf physicalAddress =>
      if request.needsAccessBitUpdate (pteFlags pte) && !pteWritable β pteAddress then
        .fault request.accessFault
      else .physicalAddress physicalAddress
    | .table next =>
      match level with
      | 0 => .fault request.pageFault
      | nextLevel + 1 => walkFrom bus request nextLevel next

/-- What a walk of the tables in memory returns for a request. -/
def freshWalk (bus : β) (request : TranslationRequest) : TranslationResult :=
  if translationEnabled request.satp request.privilege then
    walkFrom bus request 1 request.rootPteAddress
  else .physicalAddress request.virtualAddress

/-- The words of the tables, as a relation. -/
def TableWords (bus : β) (pteAddress pte : U32) : Prop := pteWord bus pteAddress = pte

/-- The leaf of the request in memory is marked as accessed, and for a store as dirty. -/
def LeafMarked (bus : β) (request : TranslationRequest) (physicalAddress : U32) : Prop :=
  ∃ level pteAddress, Reached (TableWords bus) request level pteAddress ∧
    pteStep request level (pteWord bus pteAddress) = .leaf physicalAddress ∧
    pteFlags (pteWord bus pteAddress) &&& pteA ≠ 0 ∧
    (request.access = .store → pteFlags (pteWord bus pteAddress) &&& pteD ≠ 0)

/-- The answer of a call is that of a fresh walk of the tables, and the leaf has been marked. -/
def AnswersFresh (s : PageWalker × β) (op : MmuOp β) : Prop :=
  ∀ request ∈ op.request, ∀ answer ∈ op.answer s,
    answer = freshWalk s.2 request ∧
      (translationEnabled request.satp request.privilege = true →
        ∀ pa, answer = .physicalAddress pa → LeafMarked (op.step s).2 request pa)

/-- The page tables of a request of the step are `tables`, and others do not write them. -/
structure OwnTables (tables : U32 → Prop) (s : PageWalker × β) (op : MmuOp β) : Prop where
  root : ∀ request ∈ op.request, translationEnabled request.satp request.privilege = true →
    tables request.rootPteAddress
  table : ∀ request ∈ op.request, translationEnabled request.satp request.privilege = true →
    ∀ a, pteStep request 1 (pteWord s.2 request.rootPteAddress) = .table a → tables a
  kept : ∀ change, op = .tick change → ∀ a, tables a → pteWord (change s.2) a = pteWord s.2 a

end FreshWalk

/-! ## Access bits of leaves -/

/-- The word is a leaf, or a leaf that is not valid. -/
def IsLeaf (pte : U32) : Prop := pteFlags pte &&& (pteR ||| pteX) ≠ 0

section Leaf

variable {r : TranslationRequest} {level : Nat} {pte pa a bits : U32}

theorem AccessBits.flags (h : AccessBits bits) (pte : U32) :
    ∃ bits', AccessBits bits' ∧ pteFlags (pte ||| bits) = pteFlags pte ||| bits' := by
  refine ⟨bits &&& 0xff, ?_, BitVec.and_or_distrib_right⟩
  unfold AccessBits at h ⊢
  rw [BitVec.and_assoc, BitVec.and_comm 0xff, ← BitVec.and_assoc, h]
  exact BitVec.zero_and

theorem AccessBits.ppn (h : AccessBits bits) (pte : U32) : ptePpn (pte ||| bits) = ptePpn pte := by
  have hbits : bits >>> 10 = 0 := by
    have hsplit : bits = bits &&& (pteA ||| pteD) := by
      calc bits = (bits &&& (pteA ||| pteD)) ||| (bits &&& ~~~(pteA ||| pteD)) := by
            rw [← BitVec.and_or_distrib_left,
              show (pteA ||| pteD) ||| ~~~(pteA ||| pteD) = BitVec.allOnes 32 by decide,
              BitVec.and_allOnes]
        _ = bits &&& (pteA ||| pteD) := by rw [h]; exact BitVec.or_zero
    rw [hsplit, BitVec.ushiftRight_and_distrib]
    exact BitVec.and_zero
  rw [ptePpn, BitVec.ushiftRight_or_distrib, hbits]
  exact congrArg (· &&& ptePpnMask) BitVec.or_zero

theorem AccessBits.isLeaf (h : AccessBits bits) (pte : U32) : IsLeaf (pte ||| bits) ↔ IsLeaf pte := by
  obtain ⟨bits', h', hflags⟩ := h.flags pte
  unfold IsLeaf
  rw [hflags, h'.keep (by decide)]

/-- **The access bits of a leaf do not change what it means.** -/
theorem AccessBits.pteStep (h : AccessBits bits) (hleaf : IsLeaf pte) :
    pteStep r level (pte ||| bits) = pteStep r level pte := by
  obtain ⟨bits', h', hflags⟩ := h.flags pte
  have hleaf' : IsLeaf (pte ||| bits) := (h.isLeaf pte).mpr hleaf
  have haddress : leafAddress r.virtualAddress level (pte ||| bits) =
      leafAddress r.virtualAddress level pte := by
    unfold leafAddress
    rw [h.ppn]
  unfold IsLeaf at hleaf hleaf'
  unfold RvSim.pteStep
  dsimp only
  rw [if_pos hleaf, if_pos hleaf', haddress, hflags, h'.permissionsAllow,
    h'.keep (m := pteV) (by decide), h'.keep (m := pteR) (by decide),
    h'.keep (m := pteW) (by decide)]

theorem isLeaf_of_leaf (h : pteStep r level pte = .leaf pa) : IsLeaf pte := by
  unfold pteStep at h
  dsimp only at h
  split at h
  · cases h
  · split at h
    · next hleaf => exact hleaf
    · split at h
      · split at h <;> cases h
      · cases h

/-- A leaf that needs no update is marked. -/
theorem marked_of_accessed {flags : U32} (h : r.needsAccessBitUpdate flags = false) :
    flags &&& pteA ≠ 0 ∧ (r.access = .store → flags &&& pteD ≠ 0) := by
  have hbits : flags &&& r.accessBitsFor = r.accessBitsFor := by
    simpa [TranslationRequest.needsAccessBitUpdate] using h
  have mark : ∀ m : U32, r.accessBitsFor &&& m = m → flags &&& m = m := by
    intro m hm
    rw [← hm, ← BitVec.and_assoc, hbits]
  have hsub : r.accessBitsFor &&& pteA = pteA := by
    unfold TranslationRequest.accessBitsFor
    cases r.access <;> decide
  refine ⟨by rw [mark pteA hsub]; decide, fun hstore => ?_⟩
  rw [mark pteD (by unfold TranslationRequest.accessBitsFor; rw [hstore]; decide)]
  decide

theorem pteFlags_updatedPte (r : TranslationRequest) (pte : U32) :
    pteFlags (TranslationRequest.updatedPte pte r) = r.updatedFlags (pteFlags pte) := by
  have hbits : pteFlags r.accessBitsFor = r.accessBitsFor := by
    unfold TranslationRequest.accessBitsFor
    cases r.access <;> decide
  rw [TranslationRequest.updatedPte, pteFlags, BitVec.and_or_distrib_right]
  exact congrArg (_ ||| ·) hbits

theorem needsAccessBitUpdate_updatedPte (r : TranslationRequest) (pte : U32) :
    r.needsAccessBitUpdate (pteFlags (TranslationRequest.updatedPte pte r)) = false := by
  rw [pteFlags_updatedPte]
  exact needsAccessBitUpdate_updatedFlags _ _

/-- More access bits than needed are set, too. -/
theorem AccessBits.accessed {flags : U32} (h : r.needsAccessBitUpdate flags = false)
    (bits : U32) : r.needsAccessBitUpdate (flags ||| bits) = false := by
  simp only [TranslationRequest.needsAccessBitUpdate, bne_eq_false_iff_eq] at h ⊢
  rw [BitVec.and_or_distrib_right, h]
  apply BitVec.eq_of_getLsbD_eq
  intro i _
  simp

end Leaf

/-! ## Tables that only the walker writes -/

section Tables

variable {β : Type} [Bus β] [WordMemory β] {tables : U32 → Prop} {bus b c : β}
  {request r : TranslationRequest} {level : Nat} {a pte pa : U32} {state : WalkState}

theorem pteAddress_aligned (ppn index : U32) : ((ppn <<< pageShift) + index * 4) % 4 = 0 := by
  rw [← BitVec.toNat_inj]
  simp only [pageShift, BitVec.toNat_umod, BitVec.toNat_add, BitVec.toNat_shiftLeft,
    BitVec.toNat_mul, Nat.shiftLeft_eq, show (4 : U32).toNat = 4 from rfl]
  show _ = 0
  omega

theorem rootPteAddress_aligned (request : TranslationRequest) : request.rootPteAddress % 4 = 0 :=
  pteAddress_aligned _ _

/-- The tables have changed by access bits of leaves, if at all. -/
def Evolves (tables : U32 → Prop) (bus b : β) : Prop :=
  ∀ a, tables a → a % 4 = 0 → pteWord b a = pteWord bus a ∨
    (pteWritable β a = true ∧ IsLeaf (pteWord bus a) ∧
      ∃ bits, AccessBits bits ∧ pteWord b a = pteWord bus a ||| bits)

theorem Evolves.of_eq (h : ∀ a, tables a → pteWord b a = pteWord bus a) : Evolves tables bus b :=
  fun a ha _ => .inl (h a ha)

theorem Evolves.trans (h : Evolves tables bus b) (h' : Evolves tables b c) :
    Evolves tables bus c := by
  intro a ha haligned
  rcases h a ha haligned with heq | ⟨hwritable, hleaf, bits, hbits, heq⟩
  · rw [← heq]
    exact h' a ha haligned
  · rcases h' a ha haligned with heq' | ⟨-, -, bits', hbits', heq'⟩
    · exact .inr ⟨hwritable, hleaf, bits, hbits, heq'.trans heq⟩
    · exact .inr ⟨hwritable, hleaf, bits ||| bits', hbits.or hbits',
        by rw [heq', heq, BitVec.or_assoc]⟩

/-- What the tables say stays the same. -/
theorem Evolves.pteStep_eq (h : Evolves tables bus b) (ha : tables a) (haligned : a % 4 = 0) :
    pteStep r level (pteWord b a) = pteStep r level (pteWord bus a) := by
  rcases h a ha haligned with heq | ⟨-, hleaf, bits, hbits, heq⟩
  · rw [heq]
  · rw [heq, hbits.pteStep hleaf]

theorem reached_aligned {words : U32 → U32 → Prop} (h : Reached words r level a) : a % 4 = 0 := by
  match level, h with
  | 0, ⟨pte, _, meaning⟩ =>
    have heq : a = (ptePpn pte <<< pageShift) + vpn r.virtualAddress 0 * 4 :=
      eq_of_table meaning
    rw [heq]
    exact pteAddress_aligned _ _
  | 1, h =>
    rw [show a = r.rootPteAddress from h]
    exact rootPteAddress_aligned r

/-- The tables of a request are among the tables. -/
structure Rooted (tables : U32 → Prop) (bus : β) (request : TranslationRequest) : Prop where
  root : tables request.rootPteAddress
  table : ∀ a, pteStep request 1 (pteWord bus request.rootPteAddress) = .table a → tables a

theorem Rooted.evolve (h : Rooted tables bus request) (evolves : Evolves tables bus b) :
    Rooted tables b request where
  root := h.root
  table a meaning := h.table a (by
    rwa [← evolves.pteStep_eq h.root (rootPteAddress_aligned request)])

theorem Rooted.tables_of_reached (h : Rooted tables bus request)
    (reached : Reached (TableWords bus) request level a) : tables a := by
  match level, reached with
  | 0, ⟨_, rfl, meaning⟩ => exact h.table a meaning
  | 1, reached =>
    rw [show a = request.rootPteAddress from reached]
    exact h.root

theorem Rooted.reached_evolve (h : Rooted tables bus request) (evolves : Evolves tables bus b)
    (reached : Reached (TableWords bus) request level a) :
    Reached (TableWords b) request level a := by
  match level, reached with
  | 0, ⟨_, rfl, meaning⟩ =>
    exact ⟨_, rfl, by rwa [evolves.pteStep_eq h.root (rootPteAddress_aligned request)]⟩
  | 1, reached => exact reached

/-! ### Fresh walks over such tables -/

theorem walkFrom_eq_of_step (h : Evolves tables bus b) (ha : tables a) (haligned : a % 4 = 0)
    (hnext : ∀ n next, level = n + 1 → pteStep r level (pteWord bus a) = .table next →
      walkFrom b r n next = walkFrom bus r n next) :
    walkFrom b r level a = walkFrom bus r level a := by
  have hneeds : (r.needsAccessBitUpdate (pteFlags (pteWord b a)) && !pteWritable β a) =
      (r.needsAccessBitUpdate (pteFlags (pteWord bus a)) && !pteWritable β a) := by
    rcases h a ha haligned with heq | ⟨hwritable, -⟩
    · rw [heq]
    · simp [hwritable]
  unfold walkFrom
  split
  · rfl
  · dsimp only
    rw [h.pteStep_eq ha haligned, hneeds]
    rcases hstep : pteStep r level (pteWord bus a) with _ | pa | next
    · rfl
    · rfl
    · rcases level with _ | n
      · rfl
      · exact hnext n next rfl hstep

/-- The changes of the tables do not show in a fresh walk. -/
theorem Evolves.freshWalk_eq (h : Evolves tables bus b)
    (rooted : translationEnabled r.satp r.privilege = true → Rooted tables bus r) :
    freshWalk b r = freshWalk bus r := by
  unfold freshWalk
  split
  · next henabled =>
    have rooted := rooted henabled
    refine walkFrom_eq_of_step h rooted.root (rootPteAddress_aligned r) fun n next hn hstep => ?_
    obtain rfl : n = 0 := by omega
    refine walkFrom_eq_of_step h (rooted.table next hstep) ?_ (by omega)
    rw [eq_of_table hstep]
    exact pteAddress_aligned _ _
  · rfl

/-- A walk as far as it has come, over the current tables. -/
structure Traveled (tables : U32 → Prop) (bus : β) (state : WalkState) : Prop where
  rooted : Rooted tables bus state.request
  reached : Reached (TableWords bus) state.request state.level state.pteAddress
  readable : state.level = 0 → pteReadable β state.request.rootPteAddress = true
  isLocal : state.globalMapping = false

theorem Traveled.evolve (h : Traveled tables bus state) (evolves : Evolves tables bus b) :
    Traveled tables b state where
  rooted := h.rooted.evolve evolves
  reached := h.rooted.reached_evolve evolves h.reached
  readable := h.readable
  isLocal := h.isLocal

theorem Traveled.mem_tables (h : Traveled tables bus state) : tables state.pteAddress :=
  h.rooted.tables_of_reached h.reached

theorem Traveled.aligned (h : Traveled tables bus state) : state.pteAddress % 4 = 0 :=
  reached_aligned h.reached

/-- A fresh walk comes to the same PTE. -/
theorem freshWalk_of_reached (henabled : translationEnabled r.satp r.privilege = true)
    (hreadable : level = 0 → pteReadable β r.rootPteAddress = true)
    (reached : Reached (TableWords bus) r level a) :
    freshWalk bus r = walkFrom bus r level a := by
  rw [freshWalk, if_pos henabled]
  match level, reached with
  | 0, ⟨_, rfl, meaning⟩ =>
    rw [walkFrom, hreadable rfl]
    simp [meaning]
  | 1, reached => rw [show a = r.rootPteAddress from reached]

/-- A walk that has found a leaf. -/
structure WalkState.Found (state : WalkState) (tables : U32 → Prop) (bus : β) (pa : U32) :
    Prop where
  traveled : Traveled tables bus state
  readable : pteReadable β state.pteAddress = true
  meaning : pteStep state.request state.level (pteWord bus state.pteAddress) = .leaf pa

theorem WalkState.Found.evolve (h : state.Found tables bus pa) (evolves : Evolves tables bus b) :
    state.Found tables b pa where
  traveled := h.traveled.evolve evolves
  readable := h.readable
  meaning := by
    rw [evolves.pteStep_eq h.traveled.mem_tables h.traveled.aligned]
    exact h.meaning

/-- The write of the access bits is part of the same walk. -/
theorem WalkState.Found.writing (h : state.Found tables bus pa) (pa' pte : U32) :
    (state.writing pa' pte).Found tables bus pa :=
  ⟨⟨h.traveled.rooted, h.traveled.reached, h.traveled.readable, h.traveled.isLocal⟩, h.readable,
    h.meaning⟩

/-- What every call finds: entries and a walk that follow from the current tables. An entry may lack
access bits that have been set since. -/
structure FollowsTables (tables : U32 → Prop) (walker : PageWalker) (bus : β) : Prop where
  isLocal : ∀ a, tables a → a % 4 = 0 → pteIsGlobal (pteFlags (pteWord bus a)) = false
  entries : ∀ entry, walker.Holds entry → ∃ (state : WalkState) (pa flags bits : U32),
    state.Found tables bus pa ∧ AccessBits bits ∧
      pteFlags (pteWord bus state.pteAddress) = flags ||| bits ∧ entry = state.entry flags pa
  walk : ∀ state, walker.active = some state → Traveled tables bus state
  write : ∀ state pa flags value, walker.active = some state →
    state.phase = .writeLeaf pa flags value → state.Found tables bus pa ∧
      state.request.needsAccessBitUpdate (pteFlags (pteWord bus state.pteAddress)) = true ∧
      flags = state.request.updatedFlags (pteFlags (pteWord bus state.pteAddress)) ∧
      value = TranslationRequest.updatedPte (pteWord bus state.pteAddress) state.request

/-! ### The accesses of a walk -/

theorem setWidth_aligned (h : a % 4 = 0) : a.setWidth 64 % 4 = (0 : Address) := by
  have h' : a.toNat % 4 = 0 := congrArg BitVec.toNat h
  have := a.isLt
  apply BitVec.eq_of_toNat_eq
  show (a.setWidth 64).toNat % 4 = 0
  rw [BitVec.toNat_setWidth]
  omega

theorem pteWord_of_load {result : Except BusError U32} (haligned : a % 4 = 0)
    (h : Bus.load32 bus (a.setWidth 64) = (result, b)) : pteWord b = pteWord bus := by
  funext a'
  rcases WordMemory.load32 bus _ (setWidth_aligned haligned) with
    ⟨_, _, heq, hword⟩ | ⟨-, _, heq, hword⟩ | ⟨-, _, _, heq, -, hword⟩
  all_goals
    obtain ⟨-, rfl⟩ := Prod.mk.inj (h.symm.trans heq)
    exact congrFun hword _

theorem pte_of_load (haligned : a % 4 = 0)
    (h : Bus.load32 bus (a.setWidth 64) = (.ok pte, b)) :
    pteReadable β a = true ∧ pteWord bus a = pte := by
  rcases WordMemory.load32 bus _ (setWidth_aligned haligned) with
    ⟨_, _, heq, -⟩ | ⟨hreadable, _, heq, -⟩ | ⟨-, _, _, heq, -⟩
  · cases (h.symm.trans heq)
  · obtain ⟨hpte, -⟩ := Prod.mk.inj (h.symm.trans heq)
    exact ⟨hreadable, (Except.ok.inj hpte).symm⟩
  · cases (h.symm.trans heq)

theorem unreadable_of_load {error : BusError} (haligned : a % 4 = 0)
    (h : Bus.load32 bus (a.setWidth 64) = (.error error, b)) (notBusy : error.isBusy = false) :
    pteReadable β a = false := by
  rcases WordMemory.load32 bus _ (setWidth_aligned haligned) with
    ⟨_, _, heq, -⟩ | ⟨-, _, heq, -⟩ | ⟨hreadable, -⟩
  · obtain ⟨herror, -⟩ := Prod.mk.inj (h.symm.trans heq)
    rw [Except.error.inj herror] at notBusy
    cases notBusy
  · cases (h.symm.trans heq)
  · exact hreadable

theorem pteWord_of_store {value : U32} (haligned : a % 4 = 0)
    (h : Bus.store32 bus (a.setWidth 64) value = (.ok (), b)) :
    pteWritable β a = true ∧
      ∀ a', a' % 4 = 0 → pteWord b a' = if a' = a then value else pteWord bus a' := by
  rcases WordMemory.store32 bus _ value (setWidth_aligned haligned) with
    ⟨_, _, heq, -⟩ | ⟨hwritable, _, heq, hword⟩ | ⟨-, _, _, heq, -⟩
  · cases (h.symm.trans heq)
  · obtain ⟨-, rfl⟩ := Prod.mk.inj (h.symm.trans heq)
    refine ⟨hwritable, fun a' haligned' => ?_⟩
    rw [pteWord, hword _ (setWidth_aligned haligned')]
    by_cases hsame : a' = a
    · rw [if_pos hsame, if_pos (congrArg _ hsame)]
    · rw [if_neg hsame, if_neg]
      · rfl
      · intro hwide
        refine hsame (BitVec.eq_of_toNat_eq ?_)
        have := congrArg BitVec.toNat hwide
        simp only [BitVec.toNat_setWidth] at this
        have := a.isLt
        have := a'.isLt
        omega
  · cases (h.symm.trans heq)

theorem pteWord_of_store_error {value : U32} {error : BusError} (haligned : a % 4 = 0)
    (h : Bus.store32 bus (a.setWidth 64) value = (.error error, b)) :
    pteWord b = pteWord bus ∧ (error.isBusy = false → pteWritable β a = false) := by
  rcases WordMemory.store32 bus _ value (setWidth_aligned haligned) with
    ⟨_, _, heq, hword⟩ | ⟨-, _, heq, -⟩ | ⟨hwritable, _, _, heq, -, hword⟩
  · obtain ⟨herror, rfl⟩ := Prod.mk.inj (h.symm.trans heq)
    refine ⟨funext fun a' => congrFun hword _, fun notBusy => ?_⟩
    rw [Except.error.inj herror] at notBusy
    cases notBusy
  · cases (h.symm.trans heq)
  · obtain ⟨-, rfl⟩ := Prod.mk.inj (h.symm.trans heq)
    exact ⟨funext fun a' => congrFun hword _, fun _ => hwritable⟩

namespace FollowsTables

variable {walker w : PageWalker} {drainOnly : Bool} {result : StepResult}

/-- Changes outside the tables do not matter. -/
theorem of_same (h : FollowsTables tables walker bus)
    (hsame : ∀ a, tables a → pteWord b a = pteWord bus a) : FollowsTables tables walker b := by
  have evolves : Evolves tables bus b := .of_eq hsame
  refine ⟨fun a ha => hsame a ha ▸ h.isLocal a ha, fun entry hold => ?_,
    fun state hactive => (h.walk state hactive).evolve evolves,
    fun state pa flags value hactive phase => ?_⟩
  · obtain ⟨state, pa, flags, bits, found, hbits, hflags, rfl⟩ := h.entries entry hold
    refine ⟨state, pa, flags, bits, found.evolve evolves, hbits, ?_, rfl⟩
    rw [hsame _ found.traveled.mem_tables]
    exact hflags
  · obtain ⟨found, hneeds, hflags, hvalue⟩ := h.write state pa flags value hactive phase
    refine ⟨found.evolve evolves, ?_⟩
    rw [hsame _ found.traveled.mem_tables]
    exact ⟨hneeds, hflags, hvalue⟩

theorem ended (h : FollowsTables tables walker bus) :
    FollowsTables tables { walker with active := none } bus where
  isLocal := h.isLocal
  entries := h.entries
  walk state hactive := by cases hactive
  write state pa flags value hactive := by cases hactive

theorem filled {flags bits : U32}
    (h : FollowsTables tables { walker with active := none } bus) (found : state.Found tables bus pa)
    (hbits : AccessBits bits)
    (hflags : pteFlags (pteWord bus state.pteAddress) = flags ||| bits) :
    FollowsTables tables (walker.filled drainOnly state flags pa) bus where
  isLocal := h.isLocal
  entries entry hold := by
    rcases PageWalker.holds_filled hold with hold | ⟨-, rfl⟩
    · exact h.entries entry hold
    · exact ⟨state, pa, flags, bits, found, hbits, hflags, rfl⟩
  walk state hactive := by cases hactive
  write state pa flags value hactive := by cases hactive

/-- The entries bear with the access bits that a leaf write sets. -/
theorem evolve (h : FollowsTables tables walker bus) (evolves : Evolves tables bus b) :
    FollowsTables tables { walker with active := none } b where
  isLocal a ha haligned := by
    rcases evolves a ha haligned with heq | ⟨-, -, bits, hbits, heq⟩
    · rw [heq]
      exact h.isLocal a ha haligned
    · obtain ⟨bits', hbits', hflags⟩ := hbits.flags (pteWord bus a)
      have hlocal := h.isLocal a ha haligned
      rw [heq, hflags]
      rwa [pteIsGlobal, hbits'.keep (by decide)]
  entries entry hold := by
    obtain ⟨state, pa, flags, bits, found, hbits, hflags, rfl⟩ := h.entries entry hold
    rcases evolves _ found.traveled.mem_tables found.traveled.aligned with
      heq | ⟨-, -, more, hmore, heq⟩
    · exact ⟨state, pa, flags, bits, found.evolve evolves, hbits, heq ▸ hflags, rfl⟩
    · obtain ⟨bits', hbits', hflags'⟩ := hmore.flags (pteWord bus state.pteAddress)
      refine ⟨state, pa, flags, bits ||| bits', found.evolve evolves, hbits.or hbits', ?_, rfl⟩
      rw [heq, hflags', hflags, BitVec.or_assoc]
  walk state hactive := by cases hactive
  write state pa flags value hactive := by cases hactive

end FollowsTables

/-- The write of a leaf that a walk has found sets access bits of the leaf. -/
theorem evolves_of_leafWrite {walker w : PageWalker} {drainOnly : Bool} {result : StepResult}
    {flags value : U32} (found : state.Found tables bus pa)
    (hvalue : value = TranslationRequest.updatedPte (pteWord bus state.pteAddress) state.request)
    (h : PageWalker.LeafWrite walker bus state pa flags value drainOnly result w b) :
    Evolves tables bus b := by
  have haligned := found.traveled.aligned
  cases h with
  | done store =>
    obtain ⟨hwritable, hword⟩ := pteWord_of_store haligned store
    intro a ha haligned'
    rw [hword a haligned']
    by_cases hsame : a = state.pteAddress
    · subst hsame
      rw [if_pos rfl]
      exact .inr ⟨hwritable, isLeaf_of_leaf found.meaning, _,
        accessBitsFor_accessBits state.request, hvalue⟩
    · exact .inl (if_neg hsame)
  | busy store => exact .of_eq fun a _ => congrFun (pteWord_of_store_error haligned store).1 a
  | failed _ store => exact .of_eq fun a _ => congrFun (pteWord_of_store_error haligned store).1 a

/-- After the write of a leaf the walker follows from the tables. -/
theorem FollowsTables.leafWrite {walker w : PageWalker} {drainOnly : Bool} {result : StepResult}
    {flags value : U32} (h : FollowsTables tables walker bus) (found : state.Found tables bus pa)
    (hflags : flags = state.request.updatedFlags (pteFlags (pteWord bus state.pteAddress)))
    (hvalue : value = TranslationRequest.updatedPte (pteWord bus state.pteAddress) state.request)
    (write : PageWalker.LeafWrite walker bus state pa flags value drainOnly result w b) :
    FollowsTables tables w b := by
  have evolves := evolves_of_leafWrite found hvalue write
  have haligned := found.traveled.aligned
  cases write with
  | done store =>
    refine (h.evolve evolves).filled (found.evolve evolves) accessBits_zero ?_
    rw [(pteWord_of_store haligned store).2 _ haligned, if_pos rfl, hvalue, hflags,
      pteFlags_updatedPte]
    exact BitVec.or_zero.symm
  | busy store =>
    exact h.of_same fun a _ => congrFun (pteWord_of_store_error haligned store).1 a
  | failed _ store =>
    exact (h.of_same fun a _ => congrFun (pteWord_of_store_error haligned store).1 a).ended

section WalkStep

variable {walker w : PageWalker} {drainOnly : Bool} {result : StepResult}

/-- A leaf that a walk reads has been found. -/
theorem Traveled.found (h : Traveled tables bus state)
    (load : Bus.load32 bus (state.pteAddress.setWidth 64) = (.ok pte, b))
    (meaning : pteStep state.request state.level pte = .leaf pa) :
    state.Found tables bus pa ∧ pteWord bus state.pteAddress = pte := by
  obtain ⟨hreadable, hword⟩ := pte_of_load h.aligned load
  exact ⟨⟨h, hreadable, hword ▸ meaning⟩, hword⟩

/-- **Every step of a walk changes the tables by access bits of leaves only.** -/
theorem FollowsTables.evolves (h : FollowsTables tables walker bus)
    (hactive : walker.active = some state)
    (step : PageWalker.WalkStep walker bus state drainOnly result w b) :
    Evolves tables bus b := by
  have traveled := h.walk state hactive
  have same : ∀ {result b}, Bus.load32 bus (state.pteAddress.setWidth 64) = (result, b) →
      Evolves tables bus b := fun load =>
    .of_eq fun a _ => congrFun (pteWord_of_load traveled.aligned load) a
  cases step with
  | write phase leaf =>
    obtain ⟨found, -, -, hvalue⟩ := h.write _ _ _ _ hactive phase
    exact evolves_of_leafWrite found hvalue leaf
  | busy _ load => exact same load
  | failed _ _ load => exact same load
  | fault _ load => exact same load
  | table _ load => exact same load
  | leaf _ load => exact same load
  | @update b₁ _ pte pa _ _ _ load meaning _ leaf =>
    obtain ⟨found, hword⟩ := traveled.found load meaning
    have found' : (state.writing pa pte).Found tables b₁ pa :=
      (found.evolve (same load)).writing pa pte
    refine (same load).trans (evolves_of_leafWrite found' ?_ leaf)
    rw [congrFun (pteWord_of_load traveled.aligned load) _]
    exact congrArg (TranslationRequest.updatedPte · state.request) hword.symm

/-- **Every step of a walk keeps it.** -/
theorem FollowsTables.walkStep (h : FollowsTables tables walker bus)
    (hactive : walker.active = some state)
    (step : PageWalker.WalkStep walker bus state drainOnly result w b) :
    FollowsTables tables w b := by
  have traveled := h.walk state hactive
  -- a load leaves the tables as they are
  have same : ∀ {result b}, Bus.load32 bus (state.pteAddress.setWidth 64) = (result, b) →
      FollowsTables tables walker b := fun load =>
    h.of_same fun a _ => congrFun (pteWord_of_load traveled.aligned load) a
  cases step with
  | write phase leaf =>
    obtain ⟨found, -, hflags, hvalue⟩ := h.write _ _ _ _ hactive phase
    exact h.leafWrite found hflags hvalue leaf
  | busy _ load => exact same load
  | failed _ _ load => exact (same load).ended
  | fault _ load => exact (same load).ended
  -- the step goes down one level: the walk was at the root, and its entry names the next table
  | @table b pte a phase load meaning =>
    have traveled' := (same load).walk state hactive
    obtain ⟨hreadable, hword⟩ := pte_of_load traveled.aligned load
    have hone : state.level = 1 := by
      have := level_of_table meaning
      have := traveled.reached.level_le
      omega
    have hroot : state.pteAddress = state.request.rootPteAddress := by
      have := traveled.reached
      rw [hone] at this
      exact this
    refine ⟨(same load).isLocal, (same load).entries, fun state' hactive' => ?_,
      fun state' pa flags value hactive' phase' => ?_⟩
    · obtain rfl := Option.some.inj hactive'
      refine ⟨traveled'.rooted, traveled'.reached.table ?_ meaning, fun _ => hroot ▸ hreadable, ?_⟩
      · exact (congrFun (pteWord_of_load traveled.aligned load) _).trans hword
      · have hlocal := h.isLocal _ traveled.mem_tables traveled.aligned
        rw [hword] at hlocal
        simp [WalkState.descend, traveled.isLocal, hlocal]
    · obtain rfl := Option.some.inj hactive'
      cases phase'
  -- the leaf goes into the TLB as it was read
  | leaf _ load meaning =>
    obtain ⟨found, hword⟩ := traveled.found load meaning
    have hsame := congrFun (pteWord_of_load traveled.aligned load)
    refine (same load).ended.filled (found.evolve (.of_eq fun a _ => hsame a)) accessBits_zero ?_
    rw [hsame, hword]
    exact BitVec.or_zero.symm
  -- the leaf is written with its access bits, and then goes into the TLB
  | @update b₁ _ pte pa _ _ _ load meaning needed leaf =>
    obtain ⟨found, hword⟩ := traveled.found load meaning
    have hsame := congrFun (pteWord_of_load traveled.aligned load)
    have hword' : pteWord b₁ state.pteAddress = pte := (hsame _).trans hword
    have found' : (state.writing pa pte).Found tables b₁ pa :=
      (found.evolve (.of_eq fun a _ => hsame a)).writing pa pte
    have hflags : state.request.updatedFlags (pteFlags pte) =
        state.request.updatedFlags (pteFlags (pteWord b₁ state.pteAddress)) := by rw [hword']
    have hvalue : TranslationRequest.updatedPte pte state.request =
        TranslationRequest.updatedPte (pteWord b₁ state.pteAddress) state.request := by rw [hword']
    have h' : FollowsTables tables { walker with active := some (state.writing pa pte) } b₁ := by
      refine ⟨(same load).isLocal, (same load).entries, fun state' hactive' => ?_,
        fun state' pa' flags value hactive' phase' => ?_⟩
      · obtain rfl := Option.some.inj hactive'
        exact found'.traveled
      · obtain rfl := Option.some.inj hactive'
        obtain ⟨rfl, rfl, rfl⟩ := WalkPhase.writeLeaf.inj phase'
        refine ⟨found', ?_, hflags, hvalue⟩
        rw [show (state.writing pa pte).pteAddress = state.pteAddress from rfl, hword']
        exact needed
    exact h'.leafWrite found' hflags hvalue leaf

/-! ### Answers -/

theorem walkFrom_of_unreadable (h : pteReadable β a = false) :
    walkFrom bus r level a = .fault r.accessFault := by
  unfold walkFrom
  simp [h]

theorem walkFrom_of_fault (h : pteReadable β a = true)
    (meaning : pteStep r level (pteWord bus a) = .fault) :
    walkFrom bus r level a = .fault r.pageFault := by
  unfold walkFrom
  simp [h, meaning]

theorem walkFrom_of_leaf (h : pteReadable β a = true)
    (meaning : pteStep r level (pteWord bus a) = .leaf pa) :
    walkFrom bus r level a =
      if r.needsAccessBitUpdate (pteFlags (pteWord bus a)) && !pteWritable β a then
        .fault r.accessFault
      else .physicalAddress pa := by
  unfold walkFrom
  simp [h, meaning]

/-- The answer of a walk is that of a fresh walk of the tables, and its leaf is marked. -/
def AnsweredFresh (bus : β) (request : TranslationRequest) (answer : TranslationResult) : Prop :=
  answer = freshWalk bus request ∧ ∀ pa, answer = .physicalAddress pa → LeafMarked bus request pa

/-- A leaf that needs no update answers the request. -/
theorem WalkState.Found.answered (h : state.Found tables bus pa)
    (henabled : translationEnabled state.request.satp state.request.privilege = true)
    (accessed : state.request.needsAccessBitUpdate (pteFlags (pteWord bus state.pteAddress)) =
      false) : AnsweredFresh bus state.request (.physicalAddress pa) := by
  have reached := h.traveled.reached
  constructor
  · rw [freshWalk_of_reached henabled h.traveled.readable reached,
      walkFrom_of_leaf h.readable h.meaning, accessed]
    rfl
  · rintro pa' heq
    obtain rfl := TranslationResult.physicalAddress.inj heq
    exact ⟨_, _, reached, h.meaning, marked_of_accessed accessed⟩

/-- The write of a leaf answers the request. -/
theorem WalkState.Found.answered_leafWrite {flags value : U32} (h : state.Found tables bus pa)
    (henabled : translationEnabled state.request.satp state.request.privilege = true)
    (needed : state.request.needsAccessBitUpdate (pteFlags (pteWord bus state.pteAddress)) = true)
    (hvalue : value = TranslationRequest.updatedPte (pteWord bus state.pteAddress) state.request)
    (write : PageWalker.LeafWrite walker bus state pa flags value false result w b)
    {answer : TranslationResult} (hanswer : answer ∈ result.answer) :
    AnsweredFresh b state.request answer := by
  have haligned := h.traveled.aligned
  have found := h.evolve (evolves_of_leafWrite h hvalue write)
  cases write with
  | done store =>
    obtain rfl := Option.some.inj hanswer
    refine found.answered henabled ?_
    rw [(pteWord_of_store haligned store).2 _ haligned, if_pos rfl, hvalue]
    exact needsAccessBitUpdate_updatedPte _ _
  | busy => cases hanswer
  | failed notBusy store =>
    obtain rfl := Option.some.inj hanswer
    obtain ⟨hsame, hwritable⟩ := pteWord_of_store_error haligned store
    refine ⟨?_, by simp⟩
    rw [freshWalk_of_reached henabled found.traveled.readable found.traveled.reached,
      walkFrom_of_leaf found.readable found.meaning, congrFun hsame _, needed, hwritable notBusy]
    rfl

/-- **What a step of its own walk answers is what a fresh walk answers.** -/
theorem FollowsTables.answered (h : FollowsTables tables walker bus)
    (hactive : walker.active = some state)
    (henabled : translationEnabled state.request.satp state.request.privilege = true)
    (step : PageWalker.WalkStep walker bus state false result w b) {answer : TranslationResult}
    (hanswer : answer ∈ result.answer) : AnsweredFresh b state.request answer := by
  have traveled := h.walk state hactive
  have traveled' := traveled.evolve (h.evolves hactive step)
  have hfresh := freshWalk_of_reached henabled traveled'.readable traveled'.reached
  cases step with
  | write phase leaf =>
    obtain ⟨found, needed, -, hvalue⟩ := h.write _ _ _ _ hactive phase
    exact found.answered_leafWrite henabled needed hvalue leaf hanswer
  | busy => cases hanswer
  -- the entry cannot be read, for a fresh walk neither
  | failed _ notBusy load =>
    obtain rfl := Option.some.inj hanswer
    exact ⟨by rw [hfresh, walkFrom_of_unreadable (unreadable_of_load traveled.aligned load notBusy)],
      by simp⟩
  -- a fresh walk reads the same entry
  | fault _ load meaning =>
    obtain rfl := Option.some.inj hanswer
    obtain ⟨hreadable, hword⟩ := pte_of_load traveled.aligned load
    refine ⟨?_, by simp⟩
    rw [hfresh, walkFrom_of_fault hreadable]
    rw [congrFun (pteWord_of_load traveled.aligned load), hword]
    exact meaning
  | table => cases hanswer
  | leaf _ load meaning accessed =>
    obtain rfl := Option.some.inj hanswer
    obtain ⟨found, hword⟩ := traveled.found load meaning
    have hsame := congrFun (pteWord_of_load traveled.aligned load)
    refine (found.evolve (.of_eq fun a _ => hsame a)).answered henabled ?_
    rw [hsame, hword]
    exact accessed
  | @update b₁ _ pte pa _ _ _ load meaning needed leaf =>
    obtain ⟨found, hword⟩ := traveled.found load meaning
    have hsame := congrFun (pteWord_of_load traveled.aligned load)
    have hword' : pteWord b₁ state.pteAddress = pte := (hsame _).trans hword
    have found' : (state.writing pa pte).Found tables b₁ pa :=
      (found.evolve (.of_eq fun a _ => hsame a)).writing pa pte
    have needed' : state.request.needsAccessBitUpdate
        (pteFlags (pteWord b₁ (state.writing pa pte).pteAddress)) = true := by
      rw [show (state.writing pa pte).pteAddress = state.pteAddress from rfl, hword']
      exact needed
    refine found'.answered_leafWrite henabled needed' ?_ leaf hanswer
    rw [show (state.writing pa pte).pteAddress = state.pteAddress from rfl, hword']
    rfl

/-- **What the TLB answers is what a fresh walk answers.** -/
theorem FollowsTables.answered_lookup (h : FollowsTables tables walker bus)
    (henabled : translationEnabled r.satp r.privilege = true) {answer : TranslationResult}
    (hlookup : walker.lookupTlb r = some answer) : AnsweredFresh bus r answer := by
  obtain ⟨entry, hold, matched, gives⟩ := PageWalker.lookupTlb_gives hlookup
  obtain ⟨state, pa, flags, bits, found, hbits, hflags, rfl⟩ := h.entries entry hold
  -- the entry is of a page of the address space of the request
  have hlocal : (state.entry flags pa).globalMapping = false := by
    have hword := h.isLocal _ found.traveled.mem_tables found.traveled.aligned
    rw [hflags, pteIsGlobal, hbits.keep (by decide), bne_eq_false_iff_eq] at hword
    simp [WalkState.entry, found.traveled.isLocal, pteIsGlobal, hword]
  have same := entry_matches matched hlocal
  have reached := found.traveled.reached.of_samePage same
  obtain ⟨hleaf, -⟩ := leafAddress_of_pteStep found.meaning
  have hleaf' : leafAddress r.virtualAddress state.level (pteWord bus state.pteAddress) =
      some ((state.entry flags pa).translate r) := entry_translate hleaf
  have hstep := pteStep_of_leaf found.meaning hleaf'
  have hallow : r.permissionsAllow (pteFlags (pteWord bus state.pteAddress)) =
      r.permissionsAllow flags := by
    rw [hflags, hbits.permissionsAllow]
  have hroot : state.level = 0 → pteReadable β r.rootPteAddress = true := fun hlevel => by
    rw [same.rootPteAddress_eq]
    exact found.traveled.readable hlevel
  have hfresh := freshWalk_of_reached henabled hroot reached
  rw [hallow] at hstep
  rcases gives with ⟨allowed, accessed, rfl⟩ | ⟨denied, rfl⟩
  · have meaning : pteStep r state.level (pteWord bus state.pteAddress) =
        .leaf ((state.entry flags pa).translate r) := by
      rw [hstep]
      exact if_pos allowed
    have accessed' : r.needsAccessBitUpdate (pteFlags (pteWord bus state.pteAddress)) = false := by
      rw [hflags]
      exact AccessBits.accessed accessed bits
    refine ⟨?_, fun pa' heq => ?_⟩
    · rw [hfresh, walkFrom_of_leaf found.readable meaning, accessed']
      rfl
    · obtain rfl := TranslationResult.physicalAddress.inj heq
      exact ⟨_, _, reached, meaning, marked_of_accessed accessed'⟩
  · refine ⟨?_, by simp⟩
    rw [hfresh, walkFrom_of_fault found.readable]
    rw [hstep]
    exact if_neg (by
      rw [show r.permissionsAllow flags = false from denied]
      exact Bool.false_ne_true)

/-! ### Calls and runs -/

/-- A call keeps it, changes the tables by access bits of leaves only, and answers what a fresh walk
answers. -/
theorem FollowsTables.translateLoop (h : FollowsTables tables walker bus)
    (rooted : translationEnabled r.satp r.privilege = true → Rooted tables bus r) (fuel : Nat) :
    PageWalker.Answers (fun w b => Evolves tables bus b ∧ FollowsTables tables w b)
      (fun answer _ b => answer = freshWalk b r ∧
        (translationEnabled r.satp r.privilege = true → AnsweredFresh b r answer))
      (PageWalker.translateLoop r fuel walker bus) := by
  refine PageWalker.translateLoop_rule ?_ ?_ ?_ ?_ ?_ fuel ⟨.of_eq fun _ _ => rfl, h⟩
  · rintro w b state result w' b' ⟨evolves, h⟩ hactive step
    exact ⟨evolves.trans (h.evolves hactive step), h.walkStep hactive step⟩
  · rintro w b state result w' b' ⟨-, h⟩ hactive rfl henabled step answer hanswer
    have answered := h.answered hactive henabled step hanswer
    exact ⟨answered.1, fun _ => answered⟩
  · rintro _ b ⟨evolves, h⟩ - henabled -
    refine ⟨evolves, h.isLocal, h.entries, fun state hactive => ?_,
      fun state pa flags value hactive phase => ?_⟩
    · obtain rfl := Option.some.inj hactive
      exact ⟨(rooted henabled).evolve evolves, rfl, fun h => absurd h (by simp [TranslationRequest.start]),
        rfl⟩
    · obtain rfl := Option.some.inj hactive
      cases phase
  · rintro w b answer ⟨-, h⟩ - henabled hlookup
    have answered := h.answered_lookup henabled hlookup
    exact ⟨answered.1, fun _ => answered⟩
  · rintro _ b - - hdisabled
    refine ⟨?_, fun henabled => absurd (hdisabled.symm.trans henabled) Bool.false_ne_true⟩
    rw [freshWalk, hdisabled]
    rfl

theorem FollowsTables.new
    (hlocal : ∀ a, tables a → a % 4 = 0 → pteIsGlobal (pteFlags (pteWord bus a)) = false) :
    FollowsTables tables {} bus where
  isLocal := hlocal
  entries entry hold := absurd hold (PageWalker.not_holds_new entry)
  walk state hactive := by cases hactive
  write state pa flags value hactive := by cases hactive

/-- Every step of a run keeps it and answers what a fresh walk answers. -/
theorem FollowsTables.step {s : PageWalker × β} {op : MmuOp β} (h : FollowsTables tables s.1 s.2)
    (own : OwnTables tables s op) :
    AnswersFresh s op ∧ FollowsTables tables (op.step s).1 (op.step s).2 := by
  cases op with
  | translate csrs privilege virtualAddress access =>
    have rooted := fun henabled =>
      (⟨own.root _ rfl henabled, own.table _ rfl henabled⟩ : Rooted tables s.2 _)
    obtain ⟨⟨evolves, h'⟩, answers⟩ := h.translateLoop rooted s.1.walkFuel
    refine ⟨fun request hrequest answer hanswer => ?_, h'⟩
    obtain rfl := Option.some.inj hrequest
    obtain ⟨hanswer, hstall⟩ := MmuOp.translate_of_answer hanswer
    obtain ⟨hfresh, answered⟩ := answers answer hanswer hstall
    refine ⟨hfresh.trans (evolves.freshWalk_eq rooted), fun henabled => (answered henabled).2⟩
  | flushFence fence =>
    refine ⟨by simp [AnswersFresh, MmuOp.request], h.isLocal,
      fun entry hold => h.entries entry (PageWalker.holds_flushFence hold).1,
      fun state hactive => h.walk state ?_, fun state pa flags value hactive =>
        h.write state pa flags value ?_⟩
    · exact s.1.flushFence_active fence ▸ hactive
    · exact s.1.flushFence_active fence ▸ hactive
  | tick change =>
    exact ⟨by simp [AnswersFresh, MmuOp.request], h.of_same fun a ha => own.kept change rfl a ha⟩

end WalkStep

end Tables

/-- **A call answers what a fresh walk of the current tables answers**, and the leaf of an address is
marked in memory, along every run in which nothing but the walker writes the tables and no PTE is
global. -/
theorem translate_fresh {β : Type} [Bus β] [WordMemory β] {tables : U32 → Prop} {bus : β}
    {ops : List (MmuOp β)}
    (hlocal : ∀ a, tables a → a % 4 = 0 → pteIsGlobal (pteFlags (pteWord bus a)) = false)
    (own : Automata.Along MmuOp.step (OwnTables tables) ({}, bus) ops) :
    Automata.Along MmuOp.step AnswersFresh ({}, bus) ops :=
  own.of_invariant (I := fun s : PageWalker × β => FollowsTables tables s.1 s.2)
    (FollowsTables.new hlocal) fun _ _ h own => h.step own

/-- The root table is at zero and points to itself; the page at 0x1000 is mapped by its second word,
which no one has accessed. -/
def freshBus : WordBus 4 0 := { words := #v[0x1, 0x140f, 0, 0] }

/-- A supervisor access to that page. -/
def freshAccess (access : MemoryAccess) : MmuOp (WordBus 4 0) :=
  .translate (({} : CsrFile).write .satp 0x80000000) .supervisor 0x1000 access

/-- The words of the tables of that page. -/
def freshTables (a : U32) : Prop := a = 0 ∨ a = 4

theorem rootPteAddress_freshAccess (access : MemoryAccess) :
    (TranslationRequest.of (({} : CsrFile).write .satp 0x80000000) .supervisor 0x1000
      access).rootPteAddress = 0 := by cases access <;> decide

theorem ownTables_freshAccess {s : PageWalker × WordBus 4 0} (access : MemoryAccess)
    (hroot : pteWord s.2 0 = 0x1) : OwnTables freshTables s (freshAccess access) where
  root request hrequest _ := by
    obtain rfl := Option.some.inj hrequest
    exact .inl (rootPteAddress_freshAccess access)
  table request hrequest _ a meaning := by
    obtain rfl := Option.some.inj hrequest
    rw [rootPteAddress_freshAccess, hroot] at meaning
    rw [eq_of_table meaning]
    exact .inr (by cases access <;> decide)
  kept change hchange := by cases hchange

theorem ownTables_setBusyAt {s : PageWalker × WordBus 4 0} (busyAt : List Address) :
    OwnTables freshTables s (.tick (WordBus.setBusyAt busyAt)) where
  root request hrequest := by cases hrequest
  table request hrequest := by cases hrequest
  kept change hchange a _ := by
    obtain rfl := MmuOp.tick.inj hchange
    rfl

/-- A load is suspended at the second PTE; a store comes in between, and then the load again. -/
theorem translate_fresh_suspended :
    Automata.Along MmuOp.step AnswersFresh ({}, freshBus)
      [.tick (WordBus.setBusyAt [4]), freshAccess .load, .tick (WordBus.setBusyAt []),
        freshAccess .store, freshAccess .load] := by
  have hlocal : ∀ a, freshTables a → a % 4 = 0 → pteIsGlobal (pteFlags (pteWord freshBus a)) =
      false := by
    rintro a (rfl | rfl) - <;> decide +kernel
  refine translate_fresh hlocal ⟨ownTables_setBusyAt _, ownTables_freshAccess _ ?_,
    ownTables_setBusyAt _, ownTables_freshAccess _ ?_, ownTables_freshAccess _ ?_, trivial⟩
  · decide +kernel
  · decide +kernel
  · decide +kernel

end RvSim
