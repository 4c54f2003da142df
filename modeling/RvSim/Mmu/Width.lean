import RvSim.Mmu.Reads
import RvSim.System.WordBus

/-!
# Physical addresses of 34 bits

An Sv32 physical address is formed from a PPN of 22 bits and has 34 bits. The walker shifts the PPN
in 32 bits, so that the two upper bits of the PPN are lost.

## Main definitions

* `sv32RootAddress`, `sv32TableAddress`, `sv32LeafAddress`: the addresses of Sv32
* `DenotesSv32`: the reads and the answer of a step of a run are at such addresses
* `PpnsFit`: the PPNs that a step uses have at most 20 bits

## Main results

* `walks_denoteSv32`: in every run whose PPNs fit, every read and every answer is at its address of
  Sv32; each single address is so if and only if its PPN fits
-/

namespace RvSim

/-! ## The addresses of Sv32 -/

/-- The PPN of the root table. -/
def satpPpn (satp : U32) : U32 := satp &&& satpPpnMask

/-- The PPN has no bits above those that 32-bit addresses have room for. -/
def PpnFits (ppn : U32) : Prop := ppn.toNat < 2 ^ 20

instance (ppn : U32) : Decidable (PpnFits ppn) := inferInstanceAs (Decidable (_ < _))

/-- The address of a PTE of the table with the PPN. -/
def sv32PteAddress (ppn index : U32) : Address :=
  (ppn.setWidth 64 <<< pageShift) + (index * 4).setWidth 64

def sv32RootAddress (request : TranslationRequest) : Address :=
  sv32PteAddress (satpPpn request.satp) (vpn request.virtualAddress 1)

def sv32TableAddress (request : TranslationRequest) (pte : U32) : Address :=
  sv32PteAddress (ptePpn pte) (vpn request.virtualAddress 0)

/-- The base of the page that a leaf of a level maps. -/
def sv32LeafBase (level : Nat) (pte : U32) : Address :=
  match level with
  | 0 => (ptePpn pte).setWidth 64 <<< pageShift
  | _ => (ptePpn pte >>> 10).setWidth 64 <<< superpageShift

def sv32LeafAddress (virtualAddress : U32) (level : Nat) (pte : U32) : Address :=
  sv32LeafBase level pte ||| (virtualAddress &&& levelMask level).setWidth 64

theorem satpPpn_lt (satp : U32) : (satpPpn satp).toNat < 2 ^ 22 :=
  lt_of_le_of_lt (BitVec.toNat_and .. ▸ Nat.and_le_right) (by decide)

theorem ptePpn_lt (pte : U32) : (ptePpn pte).toNat < 2 ^ 22 :=
  lt_of_le_of_lt (BitVec.toNat_and .. ▸ Nat.and_le_right) (by decide)

theorem vpn_lt (virtualAddress : U32) (level : Nat) : (vpn virtualAddress level).toNat < 2 ^ 10 := by
  unfold vpn
  split
  · exact lt_of_le_of_lt (BitVec.toNat_and .. ▸ Nat.and_le_right) (by decide)
  · exact lt_of_le_of_lt (BitVec.toNat_and .. ▸ Nat.and_le_right) (by decide)
  · decide

/-- The address of a PTE is computed as that of Sv32 exactly if the PPN fits. -/
theorem pteAddress_eq_iff {ppn index : U32} (hppn : ppn.toNat < 2 ^ 22) (hindex : index.toNat < 2 ^ 10) :
    ((ppn <<< pageShift) + index * 4).setWidth 64 = sv32PteAddress ppn index ↔ PpnFits ppn := by
  unfold sv32PteAddress PpnFits pageShift
  rw [← BitVec.toNat_inj]
  simp only [BitVec.toNat_setWidth, BitVec.toNat_add, BitVec.toNat_shiftLeft, BitVec.toNat_mul,
    Nat.shiftLeft_eq, show (4 : U32).toNat = 4 from rfl]
  omega

theorem rootPteAddress_eq_iff (request : TranslationRequest) :
    request.rootPteAddress.setWidth 64 = sv32RootAddress request ↔ PpnFits (satpPpn request.satp) :=
  pteAddress_eq_iff (satpPpn_lt _) (vpn_lt _ _)

theorem table_eq_iff {request : TranslationRequest} {pte a : U32}
    (h : pteStep request 1 pte = .table a) :
    a.setWidth 64 = sv32TableAddress request pte ↔ PpnFits (ptePpn pte) := by
  rw [eq_of_table h]
  exact pteAddress_eq_iff (ptePpn_lt _) (vpn_lt _ _)

/-- The base of a page is computed as that of Sv32 exactly if the PPN fits. -/
theorem leafBase_eq_iff (level : Nat) (pte : U32) :
    (leafBase level pte).setWidth 64 = sv32LeafBase level pte ↔ PpnFits (ptePpn pte) := by
  have hppn := ptePpn_lt pte
  unfold leafBase sv32LeafBase PpnFits pageShift superpageShift
  rw [← BitVec.toNat_inj]
  split
  · simp only [BitVec.toNat_setWidth, BitVec.toNat_shiftLeft, Nat.shiftLeft_eq]
    omega
  · simp only [BitVec.toNat_setWidth, BitVec.toNat_shiftLeft, BitVec.toNat_ushiftRight,
      Nat.shiftLeft_eq, Nat.shiftRight_eq_div_pow]
    omega

/-- The bits of a multiple of a page size are above those of the offset. -/
theorem shiftLeft_and_eq_zero {w n : Nat} (x : BitVec w) {mask : BitVec w}
    (hmask : mask = ~~~(BitVec.allOnes w <<< n)) : (x <<< n) &&& mask = 0 := by
  subst hmask
  apply BitVec.eq_of_getLsbD_eq
  intro i hi
  by_cases hin : i < n
  · simp [hin]
  · simp [hin, hi]

theorem levelMask_of_ne_zero {level : Nat} (h : level ≠ 0) :
    levelMask level = superpageOffsetMask := by
  unfold levelMask
  split
  · exact absurd rfl h
  · rfl

theorem leafBase_disjoint (level : Nat) (pte : U32) : leafBase level pte &&& levelMask level = 0 := by
  unfold leafBase
  split
  · exact shiftLeft_and_eq_zero _ (by decide)
  · next hlevel =>
    rw [levelMask_of_ne_zero hlevel]
    exact shiftLeft_and_eq_zero _ (by decide)

theorem sv32LeafBase_disjoint (level : Nat) (pte : U32) :
    sv32LeafBase level pte &&& (levelMask level).setWidth 64 = 0 := by
  unfold sv32LeafBase
  split
  · exact shiftLeft_and_eq_zero _ (by decide)
  · next hlevel =>
    rw [levelMask_of_ne_zero hlevel]
    exact shiftLeft_and_eq_zero _ (by decide)

/-- Pages are told apart by their bases at every offset. -/
theorem or_offset_inj {w : Nat} {x y mask : BitVec w} (hx : x &&& mask = 0) (hy : y &&& mask = 0)
    (offset : BitVec w) : x ||| (offset &&& mask) = y ||| (offset &&& mask) ↔ x = y := by
  refine ⟨fun h => ?_, congrArg (· ||| _)⟩
  have clear : ∀ z : BitVec w, z &&& mask = 0 → (z ||| (offset &&& mask)) &&& ~~~mask = z := by
    intro z hz
    have hz' : z &&& ~~~mask = z := by
      calc z &&& ~~~mask = (z &&& mask) ||| (z &&& ~~~mask) := by rw [hz]; simp
        _ = z := by rw [← BitVec.and_or_distrib_left]; simp
    rw [BitVec.and_or_distrib_right, hz', BitVec.and_assoc]
    simp
  rw [← clear x hx, h, clear y hy]

/-- A leaf maps the address into its page. -/
theorem eq_of_leafAddress {va pte pa : U32} {level : Nat} (h : leafAddress va level pte = some pa) :
    pa = leafBase level pte ||| (va &&& levelMask level) ∧ leafAligned level pte = true := by
  rw [leafAddress_eq] at h
  split at h
  · next haligned => exact ⟨(Option.some.inj h).symm, haligned⟩
  · cases h

theorem leafAddress_eq_iff {va pte pa : U32} {level : Nat}
    (h : leafAddress va level pte = some pa) :
    pa.setWidth 64 = sv32LeafAddress va level pte ↔ PpnFits (ptePpn pte) := by
  rw [(eq_of_leafAddress h).1, sv32LeafAddress, BitVec.setWidth_or, BitVec.setWidth_and,
    or_offset_inj ?_ (sv32LeafBase_disjoint level pte), leafBase_eq_iff]
  rw [← BitVec.setWidth_and, leafBase_disjoint]
  rfl

/-- **Two leaves of a level give one address** exactly if their PPNs agree in the lower 20 bits. -/
theorem leaf_alias_iff {va pte pte' pa pa' : U32} {level : Nat}
    (h : leafAddress va level pte = some pa) (h' : leafAddress va level pte' = some pa') :
    pa = pa' ↔ (ptePpn pte).setWidth 20 = (ptePpn pte').setWidth 20 := by
  obtain ⟨rfl, haligned⟩ := eq_of_leafAddress h
  obtain ⟨rfl, haligned'⟩ := eq_of_leafAddress h'
  rw [or_offset_inj (leafBase_disjoint _ _) (leafBase_disjoint _ _)]
  have low : ∀ ppn : U32, ppn &&& ptePpn0Mask = 0 → ppn.toNat % 2 ^ 10 = 0 := by
    intro ppn hppn
    have := congrArg BitVec.toNat hppn
    rwa [BitVec.toNat_and, show ptePpn0Mask.toNat = 2 ^ 10 - 1 from rfl,
      Nat.and_two_pow_sub_one_eq_mod] at this
  unfold leafBase pageShift superpageShift
  rw [← BitVec.toNat_inj, ← BitVec.toNat_inj]
  rcases level with _ | _ | level
  · simp only [BitVec.toNat_setWidth, BitVec.toNat_shiftLeft, Nat.shiftLeft_eq]
    omega
  · have hlow := low _ (by simpa [leafAligned] using haligned)
    have hlow' := low _ (by simpa [leafAligned] using haligned')
    simp only [BitVec.toNat_setWidth, BitVec.toNat_shiftLeft, BitVec.toNat_ushiftRight,
      Nat.shiftLeft_eq, Nat.shiftRight_eq_div_pow]
    omega
  · cases haligned

/-! ## The addresses of a run -/

/-- The address of a PTE that a walk of Sv32 over the words read reaches. -/
def Sv32Reached (reads : List (Address × Option U32)) (request : TranslationRequest) :
    Nat → Address → Prop
  | 0, addr => ∃ pte, (sv32RootAddress request, some pte) ∈ reads ∧
      (∃ a, pteStep request 1 pte = .table a) ∧ addr = sv32TableAddress request pte
  | 1, addr => addr = sv32RootAddress request
  | _, _ => False

/-- The walk has found this leaf at its level. -/
structure WalkState.Sv32Leaf (state : WalkState) (reads : List (Address × Option U32))
    (pte physicalAddress : U32) : Prop where
  reached : Sv32Reached reads state.request state.level (state.pteAddress.setWidth 64)
  word : (state.pteAddress.setWidth 64, some pte) ∈ reads
  meaning : pteStep state.request state.level pte = .leaf physicalAddress

/-- The address is that of Sv32 for a leaf that the own walk of the request has found, or one that
an entry which serves the request stands for. -/
inductive AnswersSv32 (walker : PageWalker) (reads : List (Address × Option U32))
    (request : TranslationRequest) (physicalAddress : U32) : Prop
  | walk {state : WalkState} {pte : U32} (own : state.request = request)
      (leaf : state.Sv32Leaf reads pte physicalAddress)
      (denotes : physicalAddress.setWidth 64 =
        sv32LeafAddress request.virtualAddress state.level pte)
  | entry {state : WalkState} {pte pa flags : U32} (leaf : state.Sv32Leaf reads pte pa)
      (holds : walker.Holds (state.entry flags pa))
      (found : (state.entry flags pa).matches request = true)
      (denotes : physicalAddress.setWidth 64 =
        sv32LeafAddress request.virtualAddress state.level pte)

section Run

variable {β : Type}

/-- The requests whose walks a step may take further. -/
def MmuOp.Walks (op : MmuOp β) (walker : PageWalker) (request : TranslationRequest) : Prop :=
  op.request = some request ∨ ∃ state, walker.active = some state ∧ state.request = request

/-- The later reads of the log are at addresses that the walks of Sv32 reach. -/
def ReadsDenote (walks : TranslationRequest → Prop) (earlier : Nat) (l : Logged β) : Prop :=
  ∀ read ∈ l.reads.drop earlier, ∃ request level, walks request ∧
    Sv32Reached l.reads request level read.1

/-- The PPNs of the pointers and leaves among the later reads of the log fit. -/
def PtesFit (walks : TranslationRequest → Prop) (earlier : Nat) (l : Logged β) : Prop :=
  ∀ request level pteAddress pte, walks request → Reached l.Has request level pteAddress →
    (pteAddress.setWidth 64, some pte) ∈ l.reads.drop earlier →
    pteStep request level pte ≠ .fault → PpnFits (ptePpn pte)

variable [Bus β]

/-- Every read of the step, and its answer, are at their addresses of Sv32. -/
structure DenotesSv32 (s : PageWalker × Logged β) (op : MmuOp β) : Prop where
  reads : ReadsDenote (op.Walks s.1) s.2.reads.length (op.loggedStep s).2
  answer : ∀ request ∈ op.request, translationEnabled request.satp request.privilege = true →
    ∀ pa, .physicalAddress pa ∈ op.logged.answer s →
      AnswersSv32 (op.loggedStep s).1 (op.loggedStep s).2.reads request pa

/-- The PPNs that the step uses fit: that of the root table of a request that the TLB does not serve,
and those of the pointers and leaves that are read. -/
structure PpnsFit (s : PageWalker × Logged β) (op : MmuOp β) : Prop where
  root : ∀ request ∈ op.request, translationEnabled request.satp request.privilege = true →
    s.1.lookupTlb request = none → PpnFits (satpPpn request.satp)
  pte : PtesFit (op.Walks s.1) s.2.reads.length (op.loggedStep s).2

end Run

/-! ## Walks whose PPNs fit -/

/-- A walk over the words reaches this PTE, and its PPNs fit. -/
def FitReached (words : U32 → U32 → Prop) (request : TranslationRequest) : Nat → U32 → Prop
  | 0, pteAddress => PpnFits (satpPpn request.satp) ∧ ∃ pte, words request.rootPteAddress pte ∧
      pteStep request 1 pte = .table pteAddress ∧ PpnFits (ptePpn pte)
  | 1, pteAddress => PpnFits (satpPpn request.satp) ∧ pteAddress = request.rootPteAddress
  | _, _ => False

/-- The walk has found this leaf at its level, and its PPNs fit. -/
structure WalkState.FitLeaf (state : WalkState) (words : U32 → U32 → Prop)
    (pte physicalAddress : U32) : Prop where
  reached : FitReached words state.request state.level state.pteAddress
  word : words state.pteAddress pte
  meaning : pteStep state.request state.level pte = .leaf physicalAddress
  fits : PpnFits (ptePpn pte)

/-- The PPNs that the walker has used fit. -/
structure PageWalker.Fitting (walker : PageWalker) (words : U32 → U32 → Prop) : Prop where
  entries : ∀ entry, walker.Holds entry → ∃ (state : WalkState) (pte pa flags : U32),
    state.FitLeaf words pte pa ∧ entry = state.entry flags pa
  walk : ∀ state, walker.active = some state →
    FitReached words state.request state.level state.pteAddress
  leaf : ∀ state pa flags value, walker.active = some state →
    state.phase = .writeLeaf pa flags value → ∃ pte, state.FitLeaf words pte pa

section Fitting

variable {words words' : U32 → U32 → Prop} {request : TranslationRequest} {level : Nat}
  {pteAddress pte pa : U32} {state : WalkState} {walker : PageWalker}

theorem FitReached.reached (h : FitReached words request level pteAddress) :
    Reached words request level pteAddress := by
  match level, h with
  | 0, ⟨_, pte, word, meaning, _⟩ => exact ⟨pte, word, meaning⟩
  | 1, ⟨_, h⟩ => exact h

theorem FitReached.mono (hwords : ∀ a pte, words a pte → words' a pte)
    (h : FitReached words request level pteAddress) : FitReached words' request level pteAddress := by
  match level, h with
  | 0, ⟨hsatp, pte, word, meaning, hfit⟩ => exact ⟨hsatp, pte, hwords _ _ word, meaning, hfit⟩
  | 1, h => exact h

theorem FitReached.satp (h : FitReached words request level pteAddress) :
    PpnFits (satpPpn request.satp) := by
  match level, h with
  | 0, h => exact h.1
  | 1, h => exact h.1

/-- Its address is that of Sv32. -/
theorem FitReached.sv32 {β : Type} {l : Logged β} (h : FitReached l.Has request level pteAddress) :
    Sv32Reached l.reads request level (pteAddress.setWidth 64) := by
  match level, h with
  | 0, ⟨hsatp, pte, word, meaning, hfit⟩ =>
    refine ⟨pte, ?_, ⟨_, meaning⟩, (table_eq_iff meaning).mpr hfit⟩
    rw [← (rootPteAddress_eq_iff request).mpr hsatp]
    exact word
  | 1, ⟨hsatp, h⟩ =>
    rw [h]
    exact (rootPteAddress_eq_iff request).mpr hsatp

theorem WalkState.FitLeaf.mono (hwords : ∀ a pte, words a pte → words' a pte)
    (h : state.FitLeaf words pte pa) : state.FitLeaf words' pte pa :=
  ⟨h.reached.mono hwords, hwords _ _ h.word, h.meaning, h.fits⟩

theorem WalkState.FitLeaf.sv32 {β : Type} {l : Logged β} (h : state.FitLeaf l.Has pte pa) :
    state.Sv32Leaf l.reads pte pa :=
  ⟨h.reached.sv32, h.word, h.meaning⟩

namespace PageWalker.Fitting

theorem mono (hwords : ∀ a pte, words a pte → words' a pte) (h : walker.Fitting words) :
    walker.Fitting words' where
  entries entry hold := by
    obtain ⟨state, pte, pa, flags, leaf, rfl⟩ := h.entries entry hold
    exact ⟨state, pte, pa, flags, leaf.mono hwords, rfl⟩
  walk state hactive := (h.walk state hactive).mono hwords
  leaf state pa flags value hactive phase := by
    obtain ⟨pte, leaf⟩ := h.leaf state pa flags value hactive phase
    exact ⟨pte, leaf.mono hwords⟩

theorem ended (h : walker.Fitting words) :
    ({ walker with active := none } : PageWalker).Fitting words where
  entries := h.entries
  walk state hactive := by cases hactive
  leaf state pa flags value hactive := by cases hactive

theorem filled {drainOnly : Bool} {flags : U32} (h : walker.Fitting words)
    (leaf : state.FitLeaf words pte pa) :
    (walker.filled drainOnly state flags pa).Fitting words where
  entries entry hold := by
    rcases holds_filled hold with hold | ⟨-, rfl⟩
    · exact h.entries entry hold
    · exact ⟨state, pte, pa, flags, leaf, rfl⟩
  walk state hactive := by cases hactive
  leaf state pa flags value hactive := by cases hactive

/-- A walk that reads goes on from where it has come. -/
theorem reading (h : walker.Fitting words)
    (reached : FitReached words state.request state.level state.pteAddress)
    (phase : state.phase = .readPte) :
    ({ walker with active := some state } : PageWalker).Fitting words where
  entries := h.entries
  walk state' hactive := by
    obtain rfl := Option.some.inj hactive
    exact reached
  leaf state' pa flags value hactive phase' := by
    obtain rfl := Option.some.inj hactive
    rw [phase] at phase'
    cases phase'

theorem new : ({} : PageWalker).Fitting words where
  entries entry hold := absurd hold (not_holds_new entry)
  walk state hactive := by cases hactive
  leaf state pa flags value hactive := by cases hactive

end PageWalker.Fitting

section Steps

variable {β : Type} [Bus β] {w : PageWalker} {l b : Logged β} {drainOnly : Bool}
  {result : StepResult}

namespace PageWalker.Fitting

theorem leafWrite {flags value : U32} (h : walker.Fitting l.Has) (leaf : state.FitLeaf l.Has pte pa)
    (write : LeafWrite walker l state pa flags value drainOnly result w b) : w.Fitting b.Has := by
  have hreads : b.Has = l.Has := by
    unfold Logged.Has
    rw [write.reads_eq]
  rw [hreads]
  cases write with
  | done => exact h.filled leaf
  | busy => exact h
  | failed => exact h.ended

/-- **Every step of a walk keeps it**, if the PPN that it reads fits. -/
theorem walkStep (h : walker.Fitting l.Has) (hactive : walker.active = some state)
    (step : WalkStep walker l state drainOnly result w b)
    (hfit : ∀ pte, b.reads = l.reads ++ [(state.pteAddress.setWidth 64, some pte)] →
      pteStep state.request state.level pte ≠ .fault → PpnFits (ptePpn pte)) :
    w.Fitting b.Has := by
  have reached := h.walk state hactive
  cases step with
  | write phase leaf =>
    obtain ⟨pte, found⟩ := h.leaf _ _ _ _ hactive phase
    exact h.leafWrite found leaf
  | busy _ load => exact h.mono (Logged.has_mono_of_load32 load)
  | failed _ _ load => exact (h.mono (Logged.has_mono_of_load32 load)).ended
  | fault _ load => exact (h.mono (Logged.has_mono_of_load32 load)).ended
  | @table b pte a phase load meaning =>
    have fits := hfit pte (Logged.reads_of_load32 load) (by simp [meaning])
    refine (h.mono (Logged.has_mono_of_load32 load)).reading ?_ rfl
    have hone : state.level = 1 := by
      have := level_of_table meaning
      have := reached.reached.level_le
      omega
    rw [hone] at meaning reached
    refine (show (state.descend pte a).level = 0 by simp [WalkState.descend, hone]) ▸
      ⟨reached.satp, pte, ?_, meaning, fits⟩
    rw [show (state.descend pte a).request.rootPteAddress = state.pteAddress from reached.2.symm]
    exact Logged.has_of_load32 load
  | leaf _ load meaning =>
    have fits := hfit _ (Logged.reads_of_load32 load) (by simp [meaning])
    have hmono := Logged.has_mono_of_load32 load
    exact (h.mono hmono).filled ⟨reached.mono hmono, Logged.has_of_load32 load, meaning, fits⟩
  | @update b₁ b pte pa result w phase load meaning _ leaf =>
    have fits := hfit _ (leaf.reads_eq.trans (Logged.reads_of_load32 load)) (by simp [meaning])
    have hmono := Logged.has_mono_of_load32 load
    have found : (state.writing pa pte).FitLeaf b₁.Has pte pa :=
      ⟨reached.mono hmono, Logged.has_of_load32 load, meaning, fits⟩
    have h' : ({ walker with active := some (state.writing pa pte) } : PageWalker).Fitting
        b₁.Has := by
      refine ⟨(h.mono hmono).entries, fun state' hactive' => ?_,
        fun state' pa' flags value hactive' phase' => ?_⟩
      · obtain rfl := Option.some.inj hactive'
        exact found.reached
      · obtain rfl := Option.some.inj hactive'
        obtain ⟨rfl, -⟩ := WalkPhase.writeLeaf.inj phase'
        exact ⟨pte, found⟩
    exact h'.leafWrite found leaf

end PageWalker.Fitting

/-- A leaf that a step of its own walk answers with has been found by the walk. -/
theorem PageWalker.Fitting.leaf_of_answer (h : walker.Fitting l.Has)
    (hactive : walker.active = some state) (step : WalkStep walker l state false result w b)
    (hfit : ∀ pte, b.reads = l.reads ++ [(state.pteAddress.setWidth 64, some pte)] →
      pteStep state.request state.level pte ≠ .fault → PpnFits (ptePpn pte))
    (hanswer : .physicalAddress pa ∈ result.answer) : ∃ pte, state.FitLeaf b.Has pte pa := by
  have reached := h.walk state hactive
  have write : ∀ {walker w : PageWalker} {l b : Logged β} {s : WalkState} {pa' flags value : U32},
      LeafWrite walker l s pa' flags value false result w b → pa' = pa ∧ b.Has = l.Has := by
    intro walker w l b s pa' flags value leaf
    have hreads : b.Has = l.Has := by
      unfold Logged.Has
      rw [leaf.reads_eq]
    cases leaf with
    | done => exact ⟨TranslationResult.physicalAddress.inj (Option.some.inj hanswer), hreads⟩
    | busy => cases hanswer
    | failed => cases hanswer
  cases step with
  | write phase leaf =>
    obtain ⟨rfl, hreads⟩ := write leaf
    rw [hreads]
    exact h.leaf _ _ _ _ hactive phase
  | busy => cases hanswer
  | failed => cases hanswer
  | fault => cases hanswer
  | table => cases hanswer
  | leaf _ load meaning =>
    obtain rfl := TranslationResult.physicalAddress.inj (Option.some.inj hanswer)
    exact ⟨_, reached.mono (Logged.has_mono_of_load32 load), Logged.has_of_load32 load, meaning,
      hfit _ (Logged.reads_of_load32 load) (by simp [meaning])⟩
  | @update b₁ _ pte _ _ _ phase load meaning _ leaf =>
    have fits := hfit _ (leaf.reads_eq.trans (Logged.reads_of_load32 load)) (by simp [meaning])
    obtain ⟨rfl, hreads⟩ := write leaf
    rw [hreads]
    exact ⟨pte, reached.mono (Logged.has_mono_of_load32 load), Logged.has_of_load32 load, meaning,
      fits⟩

/-! ## Calls -/

/-- A call of `translate` that started at `s` and has come to the walker and the bus. -/
structure Calling (walks : TranslationRequest → Prop) (s : PageWalker × Logged β)
    (request : TranslationRequest) (walker : PageWalker) (l : Logged β) : Prop where
  old : s.2.reads <+: l.reads
  walk : ∀ state, walker.active = some state → walks state.request
  fitting : PtesFit walks s.2.reads.length l → walker.Fitting l.Has
  reads : PtesFit walks s.2.reads.length l → ReadsDenote walks s.2.reads.length l
  tlb : PtesFit walks s.2.reads.length l → walker.tlb = s.1.tlb ∨ PpnFits (satpPpn request.satp)

omit [Bus β] in
theorem PtesFit.of_prefix {walks : TranslationRequest → Prop} {earlier : Nat}
    (h : PtesFit walks earlier b) (hreads : l.reads <+: b.reads) : PtesFit walks earlier l := by
  intro r level a pte hwalks reached hmem
  refine h r level a pte hwalks (reached.mono fun a pte word => word.mono hreads) ?_
  exact (hreads.drop earlier).subset hmem

theorem Sv32Reached.mono {reads reads' : List (Address × Option U32)} {addr : Address}
    (hreads : reads <+: reads') (h : Sv32Reached reads request level addr) :
    Sv32Reached reads' request level addr := by
  match level, h with
  | 0, ⟨pte, word, meaning, heq⟩ => exact ⟨pte, hreads.subset word, meaning, heq⟩
  | 1, h => exact h

theorem Sv32Reached.level_le {reads : List (Address × Option U32)} {addr : Address}
    (h : Sv32Reached reads request level addr) : level ≤ 1 := by
  match level, h with
  | 0, _ => exact Nat.zero_le 1
  | 1, _ => exact le_refl 1

namespace Calling

variable {walks : TranslationRequest → Prop} {s : PageWalker × Logged β}

omit [Bus β] in
/-- What a step reads beyond the log fits. -/
theorem fits_of_read (h : Calling walks s request walker l) (hactive : walker.active = some state)
    (hfit : PtesFit walks s.2.reads.length b)
    (reached : FitReached l.Has state.request state.level state.pteAddress)
    (hreads : b.reads = l.reads ++ [(state.pteAddress.setWidth 64, some pte)])
    (meaning : pteStep state.request state.level pte ≠ .fault) : PpnFits (ptePpn pte) := by
  refine hfit _ _ _ pte (h.walk state hactive) (reached.reached.mono fun a pte word =>
    word.mono ⟨_, hreads.symm⟩) ?_ meaning
  rw [hreads, List.drop_append_of_le_length h.old.length_le]
  exact List.mem_append_right _ (List.mem_singleton.mpr rfl)

/-- **Every step of a walk keeps it.** -/
theorem walkStep (h : Calling walks s request walker l) (hactive : walker.active = some state)
    (step : PageWalker.WalkStep walker l state (decide (state.request ≠ request)) result w b) :
    Calling walks s request w b where
  old := h.old.trans step.reads_prefix
  walk state' hactive' := by
    rw [step.request_eq hactive hactive']
    exact h.walk state hactive
  fitting hfit := by
    have fitting := h.fitting (hfit.of_prefix step.reads_prefix)
    exact fitting.walkStep hactive step fun pte hreads meaning =>
      h.fits_of_read hactive hfit (fitting.walk state hactive) hreads meaning
  reads hfit := by
    have hfit' := hfit.of_prefix step.reads_prefix
    have reached := (h.fitting hfit').walk state hactive
    intro read hmem
    -- a read of the call so far, or of the step
    have hread : read ∈ l.reads.drop s.2.reads.length ∨
        read.1 = state.pteAddress.setWidth 64 := by
      rcases step.reads_eq with heq | ⟨word, heq⟩
      · exact .inl (heq ▸ hmem)
      · rw [heq, List.drop_append_of_le_length h.old.length_le, List.mem_append,
          List.mem_singleton] at hmem
        exact hmem.imp_right fun h => by rw [h]
    rcases hread with hmem | haddr
    · obtain ⟨r, level, hwalks, hreached⟩ := h.reads hfit' read hmem
      exact ⟨r, level, hwalks, hreached.mono step.reads_prefix⟩
    · exact ⟨_, _, h.walk state hactive, haddr ▸ reached.sv32.mono step.reads_prefix⟩
  tlb hfit := by
    have hfit' := hfit.of_prefix step.reads_prefix
    by_cases hown : state.request = request
    · right
      rw [← hown]
      exact ((h.fitting hfit').walk state hactive).satp
    · rw [decide_eq_true hown] at step
      rw [step.tlb_of_drain]
      exact h.tlb hfit'

/-- **A call keeps it, and answers with an address of Sv32.** -/
theorem translateLoop (h : Calling walks s request walker l) (hwalks : walks request)
    (root : translationEnabled request.satp request.privilege = true →
      s.1.lookupTlb request = none → PpnFits (satpPpn request.satp)) (fuel : Nat) :
    PageWalker.Answers (fun w b => Calling walks s request w b)
      (fun answer w b => PtesFit walks s.2.reads.length b → ∀ pa, answer = .physicalAddress pa →
        translationEnabled request.satp request.privilege = true → AnswersSv32 w b.reads request pa)
      (PageWalker.translateLoop request fuel walker l) := by
  refine PageWalker.translateLoop_rule ?_ ?_ ?_ ?_ ?_ fuel h
  · rintro w b state result w' b' h hactive step
    exact h.walkStep hactive step
  · rintro w b state result w' b' h hactive hown - step answer hanswer hfit pa rfl -
    have fitting := h.fitting (hfit.of_prefix step.reads_prefix)
    obtain ⟨pte, leaf⟩ := fitting.leaf_of_answer hactive step (fun pte hreads meaning =>
      h.fits_of_read hactive hfit (fitting.walk state hactive) hreads meaning) hanswer
    refine .walk hown leaf.sv32 ?_
    rw [← hown]
    exact (leafAddress_eq_iff (leafAddress_of_pteStep leaf.meaning).1).mpr leaf.fits
  · rintro w b h - henabled hlookup
    refine ⟨h.old, fun state hactive => ?_, fun hfit => ?_, h.reads, h.tlb⟩
    · obtain rfl := Option.some.inj hactive
      exact hwalks
    · have hsatp : PpnFits (satpPpn request.satp) := by
        refine (h.tlb hfit).elim (fun htlb => root henabled ?_) id
        rw [← hlookup, PageWalker.lookupTlb, PageWalker.lookupTlb, htlb]
      exact (h.fitting hfit).reading ⟨hsatp, rfl⟩ rfl
  · rintro w b answer h - - hlookup hfit pa rfl -
    obtain ⟨entry, hold, found, gives⟩ := PageWalker.lookupTlb_gives hlookup
    obtain ⟨state, pte, pa', flags, leaf, rfl⟩ := (h.fitting hfit).entries entry hold
    refine .entry leaf.sv32 hold found ?_
    rcases gives with ⟨-, -, hpa⟩ | ⟨-, hfault⟩
    · rw [TranslationResult.physicalAddress.inj hpa]
      refine (leafAddress_eq_iff ?_).mpr leaf.fits
      exact entry_translate (leafAddress_of_pteStep leaf.meaning).1
    · cases hfault
  · rintro w b - - hdisabled - pa - henabled
    exact absurd (hdisabled.symm.trans henabled) Bool.false_ne_true

end Calling

/-- Every step of a run whose PPNs fit is at addresses of Sv32. -/
theorem PageWalker.Fitting.step {s : PageWalker × Logged β} {op : MmuOp β}
    (fitting : s.1.Fitting s.2.Has) (fit : PpnsFit s op) :
    DenotesSv32 s op ∧ (op.loggedStep s).1.Fitting (op.loggedStep s).2.Has := by
  cases op with
  | translate csrs privilege virtualAddress access =>
    have start : Calling ((.translate csrs privilege virtualAddress access : MmuOp β).Walks s.1) s
        (.of csrs privilege virtualAddress access) s.1 s.2 := by
      refine ⟨List.prefix_refl _, fun state hactive => .inr ⟨state, hactive, rfl⟩, fun _ => fitting,
        fun _ read hmem => ?_, fun _ => .inl rfl⟩
      rw [List.drop_length] at hmem
      cases hmem
    obtain ⟨calling, answers⟩ := start.translateLoop (.inl rfl)
      (fun henabled hlookup => fit.root _ rfl henabled hlookup) s.1.walkFuel
    refine ⟨⟨calling.reads fit.pte, fun request hrequest henabled pa hanswer => ?_⟩,
      calling.fitting fit.pte⟩
    obtain rfl := Option.some.inj hrequest
    obtain ⟨hanswer, hstall⟩ := MmuOp.translate_of_answer hanswer
    exact answers _ hanswer hstall fit.pte pa rfl henabled
  | flushFence fence =>
    refine ⟨⟨fun read hmem => ?_, by simp [MmuOp.request]⟩,
      ⟨fun entry hold => fitting.entries entry (PageWalker.holds_flushFence hold).1, fun state hactive => ?_,
        fun state pa flags value hactive => ?_⟩⟩
    · simp [MmuOp.loggedStep, MmuOp.logged, MmuOp.step] at hmem
    · exact fitting.walk state (s.1.flushFence_active fence ▸ hactive)
    · exact fitting.leaf state pa flags value (s.1.flushFence_active fence ▸ hactive)
  | tick change =>
    refine ⟨⟨fun read hmem => ?_, by simp [MmuOp.request]⟩, fitting⟩
    simp [MmuOp.loggedStep, MmuOp.logged, MmuOp.step, Logged.change] at hmem

end Steps

end Fitting

/-- **Reads and answers are at their addresses of Sv32**, in every run whose PPNs fit in 20 bits. Each
single address is the one of Sv32 if and only if its PPN fits, and two leaves of one level give one
address if and only if their PPNs agree in the lower 20 bits. -/
theorem walks_denoteSv32 {β : Type} [Bus β] {bus : β} {ops : List (MmuOp β)}
    (fit : Automata.Along MmuOp.loggedStep PpnsFit ({}, Logged.start bus) ops) :
    Automata.Along MmuOp.loggedStep DenotesSv32 ({}, Logged.start bus) ops ∧
      (∀ request : TranslationRequest, request.rootPteAddress.setWidth 64 = sv32RootAddress request ↔
        PpnFits (satpPpn request.satp)) ∧
      (∀ request pte a, pteStep request 1 pte = .table a →
        (a.setWidth 64 = sv32TableAddress request pte ↔ PpnFits (ptePpn pte))) ∧
      (∀ va level pte pa, leafAddress va level pte = some pa →
        (pa.setWidth 64 = sv32LeafAddress va level pte ↔ PpnFits (ptePpn pte))) ∧
      (∀ va level pte pte' pa pa', leafAddress va level pte = some pa →
        leafAddress va level pte' = some pa' →
        (pa = pa' ↔ (ptePpn pte).setWidth 20 = (ptePpn pte').setWidth 20)) := by
  refine ⟨?_, rootPteAddress_eq_iff, fun _ _ _ => table_eq_iff, fun _ _ _ _ => leafAddress_eq_iff,
    fun _ _ _ _ _ _ => leaf_alias_iff⟩
  exact fit.of_invariant (I := fun s : PageWalker × Logged β => s.1.Fitting s.2.Has)
    PageWalker.Fitting.new fun s op fitting fits => fitting.step fits

/-- The root table is at zero and points to itself; `leaf` is its second word. -/
def wideBus (leaf : U32) : WordBus 4 0 := { words := #v[0x1, leaf, 0, 0] }

/-- A supervisor load from the page at 0x1000. -/
def wideLoad : MmuOp (WordBus 4 0) :=
  .translate (({} : CsrFile).write .satp 0x80000000) .supervisor 0x1000 .load

/-- The PPNs of a step fit if those of all words it reads and of its root table do. -/
theorem PpnsFit.of_all {β : Type} [Bus β] {s : PageWalker × Logged β} {op : MmuOp β}
    (hroot : ∀ request ∈ op.request, PpnFits (satpPpn request.satp))
    (hpte : ((op.loggedStep s).2.reads.drop s.2.reads.length).all
      (fun read => read.2.all (fun pte => decide (PpnFits (ptePpn pte)))) = true) : PpnsFit s op where
  root request hrequest _ _ := hroot request hrequest
  pte _ _ _ _ _ _ hmem _ := by simpa using List.all_eq_true.1 hpte _ hmem

/-- A page whose PPN is small. -/
theorem walks_denoteSv32_low :
    Automata.Along MmuOp.loggedStep DenotesSv32 ({}, Logged.start (wideBus 0x14cf)) [wideLoad] := by
  have fit : PpnsFit (({} : PageWalker), Logged.start (wideBus 0x14cf)) wideLoad := by
    refine .of_all (fun request hrequest => ?_) (by decide +kernel)
    obtain rfl := Option.some.inj hrequest
    decide +kernel
  have run : Automata.Along MmuOp.loggedStep PpnsFit ({}, Logged.start (wideBus 0x14cf))
      [wideLoad] := ⟨fit, trivial⟩
  exact (walks_denoteSv32 run).1

/-- An answer that is an address of Sv32 is one of a word read. -/
theorem AnswersSv32.of_read {walker : PageWalker} {reads : List (Address × Option U32)}
    {request : TranslationRequest} {pa : U32} (h : AnswersSv32 walker reads request pa) :
    ∃ read ∈ reads, ∃ pte ∈ read.2, ∃ level ≤ 1,
      pa.setWidth 64 = sv32LeafAddress request.virtualAddress level pte := by
  have found : ∀ {state : WalkState} {pte pa' : U32}, state.Sv32Leaf reads pte pa' →
      pa.setWidth 64 = sv32LeafAddress request.virtualAddress state.level pte →
      ∃ read ∈ reads, ∃ pte ∈ read.2, ∃ level ≤ 1,
        pa.setWidth 64 = sv32LeafAddress request.virtualAddress level pte := by
    rintro state pte pa' leaf denotes
    exact ⟨_, leaf.word, pte, rfl, _, leaf.reached.level_le, denotes⟩
  cases h with
  | walk _ leaf denotes => exact found leaf denotes
  | entry leaf _ _ denotes => exact found leaf denotes

/-- **A page above 4 GiB aliases a lower one**: its PPN is 0x100005, and the answer is 0x5000. -/
theorem high_page_aliases :
    ¬ Automata.Along MmuOp.loggedStep DenotesSv32 ({}, Logged.start (wideBus 0x400014cf))
      [wideLoad] := by
  rintro ⟨denotes, -⟩
  have answered : TranslationResult.physicalAddress 0x5000 ∈
      wideLoad.logged.answer ({}, Logged.start (wideBus 0x400014cf)) := by decide +kernel
  obtain ⟨read, hread, pte, hpte, level, hlevel, heq⟩ :=
    (denotes.answer _ rfl (by decide +kernel) _ answered).of_read
  have hnone : ((wideLoad.loggedStep ({}, Logged.start (wideBus 0x400014cf))).2.reads.all fun read =>
      read.2.all (fun pte => decide ((0x5000 : Address) ≠ sv32LeafAddress 0x1000 0 pte ∧
        (0x5000 : Address) ≠ sv32LeafAddress 0x1000 1 pte))) = true := by decide +kernel
  have h := List.all_eq_true.1 hnone read hread
  rw [Option.mem_def.mp hpte, Option.all_some, decide_eq_true_eq] at h
  interval_cases level
  · exact h.1 heq
  · exact h.2 heq

end RvSim
