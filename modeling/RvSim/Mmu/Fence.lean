import RvSim.Mmu.Reads
import RvSim.System.WordBus

/-!
# Translations after a fence

`flush_fence` removes the entries that the fence matches from the TLB. A walk in progress is left
alone: it may have read a PTE before the fence, and goes on with it when its request comes again.

## Main definitions

* `TranslationFence.Covers`: the requests in the scope of a fence
* `AnswersAfter`: the answers of covered requests come from PTEs read after the fence
* `SafeFence`: no walk in progress has read a PTE of a mapping that the fence matches

## Main results

* `fence_answersAfter`: after a safe fence every covered request is answered so, in every run
-/

namespace RvSim

/-! ## The scope of a fence -/

/-- The page of the request, and its address space, are in the scope of the fence. -/
structure TranslationFence.Covers (fence : TranslationFence) (request : TranslationRequest) :
    Prop where
  page : ∀ va ∈ fence.virtualAddress,
    va &&& ~~~pageOffsetMask = request.virtualAddress &&& ~~~pageOffsetMask
  asid : ∀ asid ∈ fence.asid, satpAsid request.satp = asid

/-- The entry is of a leaf that follows from the words. -/
def TlbEntry.FollowsFrom (entry : TlbEntry) (words : U32 → U32 → Prop) : Prop :=
  ∃ (state : WalkState) (pte physicalAddress flags : U32),
    Reached words state.request state.level state.pteAddress ∧ words state.pteAddress pte ∧
    pteStep state.request state.level pte = .leaf physicalAddress ∧
    (flags = pteFlags pte ∨ flags = state.request.updatedFlags (pteFlags pte)) ∧
    entry = state.entry flags physicalAddress

namespace WalkState

/-- The walk has read a PTE. -/
def hasRead (state : WalkState) : Bool := state.level == 0 || state.phase != .readPte

/-- The flags of the leaf, where the walk has found it. -/
def knownFlags (state : WalkState) : U32 :=
  match state.phase with
  | .readPte => 0
  | .writeLeaf _ flags _ => flags

/-- The entry the walk is to leave, as far as it is known. -/
def pendingEntry (state : WalkState) : TlbEntry := state.entry state.knownFlags 0

end WalkState

/-- **Where the answer of a covered request comes from**, for a walker that was `before` at the start
of the call and is `after` at its end: from the words read, and the accesses refused, since the fence. A global mapping may have
been read for another address space, and is not in the scope of a fence that names an address
space. -/
inductive AnsweredAfter (fence : TranslationFence) (before after : PageWalker)
    (words : U32 → U32 → Prop) (refused : U32 → MemoryAccess → Prop) (request : TranslationRequest)
    (answer : TranslationResult) : Prop
  | walk (follows : Follows words refused request answer)
  | globalEntry {entry : TlbEntry} (holds : after.Holds entry)
      (isGlobal : entry.globalMapping = true) (found : entry.matches request = true)
      (read : entry.FollowsFrom words ∨ fence.asid.isSome = true)
      (gives : entry.Gives request answer)
  | globalWalk {state : WalkState} (named : fence.asid.isSome = true)
      (active : before.active = some state) (same : state.request = request)
      (isGlobal : state.pendingEntry.globalMapping = true)

variable {β : Type} [Bus β]

/-- The answer of a covered request comes from PTEs read after the fence, with which the log
starts. -/
def AnswersAfter (fence : TranslationFence) (s : PageWalker × Logged β) (op : MmuOp β) : Prop :=
  ∀ request ∈ op.request, fence.Covers request →
    translationEnabled request.satp request.privilege = true → ∀ answer ∈ op.logged.answer s,
      AnsweredAfter fence s.1 (op.loggedStep s).1 (op.loggedStep s).2.Has (op.loggedStep s).2.Refused
        request answer

/-- No walk in progress has read a PTE of a mapping that the fence matches. -/
def SafeFence (fence : TranslationFence) (walker : PageWalker) : Prop :=
  ∀ state ∈ walker.active, state.hasRead = true → fence.matchesEntry state.pendingEntry = false

instance (fence : TranslationFence) (walker : PageWalker) : Decidable (SafeFence fence walker) :=
  inferInstanceAs (Decidable (∀ state ∈ (_ : Option _), _))

/-! ## Reachable walkers -/

/-- What every reachable walker has: entries of pages of the two levels, and a walk that has read
nothing yet starts at its root table. -/
structure PageWalker.WellFormed (walker : PageWalker) : Prop where
  masks : ∀ entry, walker.Holds entry → ∃ level ≤ 1, entry.pageMask = levelMask level
  walk : ∀ state, walker.active = some state → state.level ≤ 1 ∧
    (state.hasRead = false → state.pteAddress = state.request.rootPteAddress)

theorem PageWalker.wellFormed_new : ({} : PageWalker).WellFormed where
  masks entry h := absurd h (not_holds_new entry)
  walk state h := by cases h

namespace PageWalker.WellFormed

variable {walker w : PageWalker} {bus b : β} {state : WalkState} {drainOnly : Bool}
  {result : StepResult}

omit [Bus β] in
theorem filled (wf : walker.WellFormed) (hlevel : state.level ≤ 1) (flags physicalAddress : U32) :
    (walker.filled drainOnly state flags physicalAddress).WellFormed where
  masks entry h := by
    rcases holds_filled h with hold | ⟨-, rfl⟩
    · exact wf.masks entry hold
    · exact ⟨_, hlevel, rfl⟩
  walk state h := by cases h

omit [Bus β] in
theorem withActive (wf : walker.WellFormed) {active : Option WalkState}
    (hactive : ∀ state, active = some state → state.level ≤ 1 ∧
      (state.hasRead = false → state.pteAddress = state.request.rootPteAddress)) :
    ({ walker with active } : PageWalker).WellFormed :=
  ⟨wf.masks, hactive⟩

theorem leafWrite {physicalAddress flags value : U32} (wf : walker.WellFormed)
    (hlevel : state.level ≤ 1)
    (h : LeafWrite walker bus state physicalAddress flags value drainOnly result w b) :
    w.WellFormed := by
  cases h with
  | done => exact wf.filled hlevel _ _
  | busy => exact wf
  | failed => exact wf.withActive (by simp)

/-- Every step of a walk keeps it. -/
theorem walkStep (wf : walker.WellFormed) (hactive : walker.active = some state)
    (h : WalkStep walker bus state drainOnly result w b) : w.WellFormed := by
  obtain ⟨hlevel, -⟩ := wf.walk state hactive
  cases h with
  | write _ leaf => exact wf.leafWrite hlevel leaf
  | busy => exact wf
  | failed => exact wf.withActive (by simp)
  | fault => exact wf.withActive (by simp)
  | @table b pte pteAddress phase load meaning =>
    refine wf.withActive fun state' h => ?_
    obtain rfl := Option.some.inj h
    have hone : state.level = 1 := by
      have := level_of_table meaning
      omega
    simp [WalkState.descend, WalkState.hasRead, hone]
  | leaf => exact wf.filled hlevel _ _
  | @update _ _ pte physicalAddress _ _ _ _ _ _ leaf =>
    have hlevel' : (state.writing physicalAddress pte).level ≤ 1 := hlevel
    refine (wf.withActive fun state' h => ?_).leafWrite hlevel' leaf
    obtain rfl := Option.some.inj h
    exact ⟨hlevel, by simp [WalkState.hasRead, WalkState.writing]⟩

/-- Every call of `translate` keeps it. -/
theorem translate (wf : walker.WellFormed) (csrs : CsrFile) (privilege : PrivilegeMode)
    (virtualAddress : U32) (access : MemoryAccess) :
    (walker.translate bus csrs privilege virtualAddress access).2.1.WellFormed := by
  refine (PageWalker.translateLoop_rule (I := fun w (_ : β) => w.WellFormed)
    (A := fun _ _ _ => True) ?_ ?_ ?_ ?_ ?_ _ wf).1
  · rintro w b state result w' b' wf hactive step
    exact wf.walkStep hactive step
  · exact fun _ _ _ _ _ _ _ _ _ _ _ _ _ => trivial
  · rintro w b wf - - -
    refine wf.withActive fun state h => ?_
    obtain rfl := Option.some.inj h
    exact ⟨le_refl 1, fun _ => rfl⟩
  · exact fun _ _ _ _ _ _ _ => trivial
  · exact fun _ _ _ _ _ => trivial

theorem step {s : PageWalker × β} (wf : s.1.WellFormed) (op : MmuOp β) :
    (op.step s).1.WellFormed := by
  cases op with
  | translate csrs privilege virtualAddress access => exact wf.translate _ _ _ _
  | flushFence fence =>
    refine ⟨fun entry h => wf.masks entry (holds_flushFence h).1, fun state h => wf.walk state ?_⟩
    exact flushFence_active s.1 fence ▸ h
  | tick => exact wf

end PageWalker.WellFormed

/-! ## What the fence leaves -/

section AfterFence

variable {fence : TranslationFence} {request : TranslationRequest} {state : WalkState}
  {entry : TlbEntry} {flags pa pte : U32}

theorem TranslationFence.matchesAsid_eq (fence : TranslationFence) (entry : TlbEntry) :
    fence.matchesAsid entry =
      match fence.asid with
      | none => true
      | some asid => !entry.globalMapping && satpAsid entry.satp == asid := by
  unfold matchesAsid
  rcases fence.asid with _ | asid
  · rfl
  · rcases entry.globalMapping with _ | _ <;> rfl

/-- The flags of an entry can only take it out of the scope of a fence. -/
theorem matchesEntry_pending (h : fence.matchesEntry (state.entry 0 pa) = false) (flags pa' : U32) :
    fence.matchesEntry (state.entry flags pa') = false := by
  rw [TranslationFence.matchesEntry, Bool.and_eq_false_iff] at h ⊢
  refine h.imp (fun hasid => ?_) id
  rw [TranslationFence.matchesAsid_eq] at hasid ⊢
  generalize fence.asid = scope at hasid ⊢
  rcases scope with _ | asid
  · exact hasid
  · simp only [WalkState.entry, Bool.and_eq_false_iff, Bool.not_eq_false', Bool.or_eq_true] at hasid ⊢
    refine hasid.imp (fun hglobal => .inl ?_) id
    refine hglobal.resolve_right ?_
    decide

/-- An entry that serves a covered request is matched by the fence, unless its mapping is global and
the fence names an address space. -/
theorem TranslationFence.Covers.global_of_unmatched (covers : fence.Covers request)
    (hmask : ∃ level ≤ 1, entry.pageMask = levelMask level) (found : entry.matches request = true)
    (unmatched : fence.matchesEntry entry = false) :
    fence.asid.isSome = true ∧ entry.globalMapping = true := by
  unfold TlbEntry.matches at found
  rw [Bool.and_eq_true, beq_iff_eq] at found
  obtain ⟨hspace, hbase⟩ := found
  have hva : fence.matchesVirtualAddress entry = true := by
    unfold matchesVirtualAddress
    rcases hv : fence.virtualAddress with _ | va
    · rfl
    · obtain ⟨level, hlevel, hmask⟩ := hmask
      have hpage := covers.page va hv
      rw [← hbase, hmask]
      dsimp only
      rw [beq_iff_eq]
      rcases level with _ | level
      · exact hpage
      · exact superpage_of_page (show va &&& ~~~levelMask 0 = _ from hpage)
  rw [matchesEntry, hva, Bool.and_true, matchesAsid_eq] at unmatched
  rcases ha : fence.asid with _ | asid
  · simp [ha] at unmatched
  · refine ⟨rfl, ?_⟩
    by_contra hlocal
    rw [Bool.not_eq_true] at hlocal
    rw [hlocal, Bool.false_or, beq_iff_eq] at hspace
    simp [ha, hlocal, hspace, covers.asid asid ha] at unmatched

/-- A walk that reads nothing but the words. -/
structure WalkState.Current (state : WalkState) (words : U32 → U32 → Prop) : Prop where
  reached : Reached words state.request state.level state.pteAddress
  leaf : ∀ physicalAddress flags value, state.phase = .writeLeaf physicalAddress flags value →
    ∃ pte, words state.pteAddress pte ∧
      pteStep state.request state.level pte = .leaf physicalAddress ∧
      flags = state.request.updatedFlags (pteFlags pte)

/-- A walk that has read a PTE before the fence, outside its scope. -/
structure WalkState.Beyond (state : WalkState) (fence : TranslationFence) : Prop where
  hasRead : state.hasRead = true
  unmatched : fence.matchesEntry state.pendingEntry = false

/-- Where a walk comes from. `G` keeps what is known of the requests that are beyond the fence. -/
def Traced (fence : TranslationFence) (G : TranslationRequest → Prop)
    (words : U32 → U32 → Prop) (state : WalkState) : Prop :=
  state.Current words ∨ (state.Beyond fence ∧ G state.request)

/-- The walker after a fence: its entries and its walk come from the words, or are not in the scope
of the fence. -/
structure AfterFence (fence : TranslationFence) (G : TranslationRequest → Prop)
    (walker : PageWalker) (words : U32 → U32 → Prop) : Prop where
  wellFormed : walker.WellFormed
  entries : ∀ entry, walker.Holds entry →
    fence.matchesEntry entry = false ∨ entry.FollowsFrom words
  walk : ∀ state, walker.active = some state → Traced fence G words state

variable {G : TranslationRequest → Prop} {words words' : U32 → U32 → Prop}

theorem TlbEntry.FollowsFrom.mono (hwords : ∀ a pte, words a pte → words' a pte)
    (h : entry.FollowsFrom words) : entry.FollowsFrom words' := by
  obtain ⟨state, pte, pa, flags, reached, word, meaning, hflags, rfl⟩ := h
  exact ⟨state, pte, pa, flags, reached.mono hwords, hwords _ _ word, meaning, hflags, rfl⟩

theorem Traced.mono (hwords : ∀ a pte, words a pte → words' a pte)
    (h : Traced fence G words state) : Traced fence G words' state := by
  refine h.imp_left fun current => ⟨current.reached.mono hwords, fun pa flags value phase => ?_⟩
  obtain ⟨pte, word, meaning⟩ := current.leaf pa flags value phase
  exact ⟨pte, hwords _ _ word, meaning⟩

theorem AfterFence.mono {walker : PageWalker} (hwords : ∀ a pte, words a pte → words' a pte)
    (h : AfterFence fence G walker words) : AfterFence fence G walker words' where
  wellFormed := h.wellFormed
  entries entry hold := (h.entries entry hold).imp_right (·.mono hwords)
  walk state hactive := Traced.mono hwords (h.walk state hactive)

/-- A walk that has read nothing before the fence starts at its root table. -/
theorem Traced.level_eq_zero (h : state.Beyond fence) (phase : state.phase = .readPte) :
    state.level = 0 := by
  simpa [WalkState.hasRead, phase] using h.hasRead

/-- The entry of a walk that has just read its leaf. -/
theorem Traced.entry_of_leaf (h : Traced fence G words state) (phase : state.phase = .readPte)
    (word : words state.pteAddress pte)
    (meaning : pteStep state.request state.level pte = .leaf pa) :
    fence.matchesEntry (state.entry (pteFlags pte) pa) = false ∨
      (state.entry (pteFlags pte) pa).FollowsFrom words := by
  rcases h with current | ⟨beyond, -⟩
  · exact .inr ⟨state, pte, pa, _, current.reached, word, meaning, .inl rfl, rfl⟩
  · left
    have hpending : state.pendingEntry = state.entry 0 0 := by
      simp [WalkState.pendingEntry, WalkState.knownFlags, phase]
    exact matchesEntry_pending (hpending ▸ beyond.unmatched) _ _

/-- The entry of a walk that has found its leaf before. -/
theorem Traced.entry_of_write {value : U32} (h : Traced fence G words state)
    (phase : state.phase = .writeLeaf pa flags value) :
    fence.matchesEntry (state.entry flags pa) = false ∨
      (state.entry flags pa).FollowsFrom words := by
  rcases h with current | ⟨beyond, -⟩
  · obtain ⟨pte, word, meaning, hflags⟩ := current.leaf pa flags value phase
    exact .inr ⟨state, pte, pa, flags, current.reached, word, meaning, .inr hflags, rfl⟩
  · left
    have hpending : state.pendingEntry = state.entry flags 0 := by
      simp [WalkState.pendingEntry, WalkState.knownFlags, phase]
    have hunmatched := beyond.unmatched
    rw [hpending] at hunmatched
    exact hunmatched

/-- A walk that has found its leaf comes from where it came before. -/
theorem Traced.writing (h : Traced fence G words state) (phase : state.phase = .readPte)
    (word : words state.pteAddress pte)
    (meaning : pteStep state.request state.level pte = .leaf pa) :
    Traced fence G words (state.writing pa pte) := by
  rcases h with current | ⟨beyond, hG⟩
  · refine .inl ⟨current.reached, fun pa' flags value h => ?_⟩
    obtain ⟨rfl, rfl, -⟩ := WalkPhase.writeLeaf.inj h
    exact ⟨pte, word, meaning, rfl⟩
  · refine .inr ⟨⟨by simp [WalkState.hasRead, WalkState.writing], ?_⟩, hG⟩
    have hpending : state.pendingEntry = state.entry 0 0 := by
      simp [WalkState.pendingEntry, WalkState.knownFlags, phase]
    exact matchesEntry_pending (hpending ▸ beyond.unmatched) _ _

end AfterFence

namespace AfterFence

variable {fence : TranslationFence} {G : TranslationRequest → Prop} {walker w : PageWalker}
  {l b : Logged β} {state : WalkState} {drainOnly : Bool} {result : StepResult}
  {words : U32 → U32 → Prop}

omit [Bus β] in
theorem filled {flags pa : U32} (inv : AfterFence fence G walker words) (hlevel : state.level ≤ 1)
    (hentry : fence.matchesEntry (state.entry flags pa) = false ∨
      (state.entry flags pa).FollowsFrom words) :
    AfterFence fence G (walker.filled drainOnly state flags pa) words where
  wellFormed := inv.wellFormed.filled hlevel _ _
  entries entry hold := by
    rcases PageWalker.holds_filled hold with hold | ⟨-, rfl⟩
    · exact inv.entries entry hold
    · exact hentry
  walk state h := by cases h

omit [Bus β] in
theorem ended (inv : AfterFence fence G walker words) :
    AfterFence fence G { walker with active := none } words where
  wellFormed := inv.wellFormed.withActive (by simp)
  entries := inv.entries
  walk state h := by cases h

theorem leafWrite {pa flags value : U32} (inv : AfterFence fence G walker l.Has)
    (hlevel : state.level ≤ 1)
    (hentry : fence.matchesEntry (state.entry flags pa) = false ∨
      (state.entry flags pa).FollowsFrom l.Has)
    (h : PageWalker.LeafWrite walker l state pa flags value drainOnly result w b) :
    AfterFence fence G w b.Has := by
  have hreads : b.Has = l.Has := by
    unfold Logged.Has
    rw [h.reads_eq]
  rw [hreads]
  cases h with
  | done => exact inv.filled hlevel hentry
  | busy => exact inv
  | failed => exact inv.ended

/-- **Every step of a walk keeps it.** -/
theorem walkStep (inv : AfterFence fence G walker l.Has) (hactive : walker.active = some state)
    (h : PageWalker.WalkStep walker l state drainOnly result w b) :
    AfterFence fence G w b.Has := by
  have wf := inv.wellFormed.walkStep hactive h
  obtain ⟨hlevel, -⟩ := inv.wellFormed.walk state hactive
  have traced := inv.walk state hactive
  cases h with
  | write phase leaf => exact inv.leafWrite hlevel (traced.entry_of_write phase) leaf
  | busy _ load => exact inv.mono (Logged.has_mono_of_load32 load)
  | failed _ _ load => exact (inv.mono (Logged.has_mono_of_load32 load)).ended
  | fault _ load => exact (inv.mono (Logged.has_mono_of_load32 load)).ended
  | @table b pte pteAddress phase load meaning =>
    refine ⟨wf, (inv.mono (Logged.has_mono_of_load32 load)).entries, fun state' h => .inl ?_⟩
    obtain rfl := Option.some.inj h
    -- the walk has read nothing before the fence, and now the PTE of the root table
    rcases traced with current | ⟨beyond, -⟩
    · have reached := current.reached.mono (Logged.has_mono_of_load32 load)
      exact ⟨reached.table (Logged.has_of_load32 load) meaning, by simp [WalkState.descend]⟩
    · exact absurd (Traced.level_eq_zero beyond phase) (level_of_table meaning)
  | leaf phase load meaning =>
    have inv' := inv.mono (Logged.has_mono_of_load32 load)
    exact inv'.filled hlevel ((inv'.walk state hactive).entry_of_leaf phase
      (Logged.has_of_load32 load) meaning)
  | @update b₁ b pte pa result w phase load meaning needed leaf =>
    have inv' := inv.mono (Logged.has_mono_of_load32 load)
    have word := Logged.has_of_load32 load
    have traced' : Traced fence G b₁.Has (state.writing pa pte) :=
      (inv'.walk state hactive).writing phase word meaning
    have hlevel' : (state.writing pa pte).level ≤ 1 := hlevel
    have inv'' : AfterFence fence G { walker with active := some (state.writing pa pte) }
        b₁.Has := by
      refine ⟨inv'.wellFormed.withActive fun state' h => ?_, inv'.entries, fun state' h => ?_⟩
      · obtain rfl := Option.some.inj h
        exact ⟨hlevel, by simp [WalkState.hasRead, WalkState.writing]⟩
      · obtain rfl := Option.some.inj h
        exact traced'
    exact inv''.leafWrite hlevel' (traced'.entry_of_write rfl) leaf

/-- What a step of its own walk answers a request follows from the words, if the walk does. -/
theorem follows_of_walkStep (current : state.Current l.Has)
    (h : PageWalker.WalkStep walker l state false result w b) {answer : TranslationResult}
    (hanswer : answer ∈ result.answer) : Follows b.Has b.Refused state.request answer := by
  -- the write of a leaf that follows from the words
  have write : ∀ {walker : PageWalker} {l b : Logged β} {state : WalkState} {pa flags value : U32},
      PageWalker.LeafWrite walker l state pa flags value false result w b →
      (∃ pte, l.Has state.pteAddress pte ∧ pteStep state.request state.level pte = .leaf pa) →
      Reached l.Has state.request state.level state.pteAddress →
      Follows b.Has b.Refused state.request answer := by
    rintro walker l b state pa flags value leaf ⟨pte, word, meaning⟩ reached
    have hreads : b.Has = l.Has := by
      unfold Logged.Has
      rw [leaf.reads_eq]
    rw [hreads]
    cases leaf with
    | done =>
      obtain rfl := Option.some.inj hanswer
      exact .leaf reached word meaning
    | busy => cases hanswer
    | failed notBusy store =>
      obtain rfl := Option.some.inj hanswer
      exact .refusedWrite reached word meaning (Logged.refused_of_store32 notBusy store)
  cases h with
  | write phase leaf =>
    obtain ⟨pte, word, meaning, -⟩ := current.leaf _ _ _ phase
    exact write leaf ⟨pte, word, meaning⟩ current.reached
  | busy => cases hanswer
  | failed _ notBusy load =>
    obtain rfl := Option.some.inj hanswer
    exact .refusedRead (current.reached.mono (Logged.has_mono_of_load32 load))
      (Logged.refused_of_load32 notBusy load)
  | fault _ load meaning =>
    obtain rfl := Option.some.inj hanswer
    exact .fault (current.reached.mono (Logged.has_mono_of_load32 load)) (Logged.has_of_load32 load) meaning
  | table => cases hanswer
  | leaf _ load meaning =>
    obtain rfl := Option.some.inj hanswer
    exact .leaf (current.reached.mono (Logged.has_mono_of_load32 load)) (Logged.has_of_load32 load) meaning
  | update _ load meaning _ leaf =>
    have h := write leaf ⟨_, Logged.has_of_load32 load, meaning⟩
      (current.reached.mono (Logged.has_mono_of_load32 load))
    exact h

omit [Bus β] in
/-- What an entry answers a covered request comes from the words, or from a global mapping. -/
theorem answeredAfter_of_entry {request : TranslationRequest} {entry : TlbEntry}
    {before : PageWalker} {answer : TranslationResult} (refused : U32 → MemoryAccess → Prop)
    (inv : AfterFence fence G walker words) (covers : fence.Covers request)
    (hold : walker.Holds entry) (found : entry.matches request = true)
    (gives : entry.Gives request answer) :
    AnsweredAfter fence before walker words refused request answer := by
  rcases inv.entries entry hold with unmatched | follows
  · obtain ⟨named, isGlobal⟩ :=
      covers.global_of_unmatched (inv.wellFormed.masks entry hold) found unmatched
    exact .globalEntry hold isGlobal found (.inr named) gives
  · rcases isGlobal : entry.globalMapping with _ | _
    · -- the entry is of the address space of the request, and of its page
      obtain ⟨state, pte, pa, flags, reached, word, meaning, hflags, rfl⟩ := follows
      have same := entry_matches found isGlobal
      obtain ⟨hleaf, -⟩ := leafAddress_of_pteStep meaning
      have hleaf' : leafAddress request.virtualAddress state.level pte =
          some ((state.entry flags pa).translate request) := entry_translate hleaf
      have hstep := pteStep_of_leaf meaning hleaf'
      have hallow : request.permissionsAllow (state.entry flags pa).flags =
          request.permissionsAllow (pteFlags pte) := by
        rcases hflags with rfl | rfl
        · rfl
        · exact permissionsAllow_updatedFlags _ _ _
      have reached' := reached.of_samePage same
      refine .walk ?_
      rcases gives with ⟨allowed, -, rfl⟩ | ⟨denied, rfl⟩
      · rw [← hallow, allowed, if_pos rfl] at hstep
        exact .leaf reached' word hstep
      · rw [← hallow, denied, if_neg Bool.false_ne_true] at hstep
        exact .fault reached' word hstep
    · exact .globalEntry hold isGlobal found (.inl follows) gives

/-- **A call of `translate` keeps it, and answers a covered request from the words.** -/
theorem translate (inv : AfterFence fence (fun _ => True) walker l.Has) (csrs : CsrFile)
    (privilege : PrivilegeMode) (virtualAddress : U32) (access : MemoryAccess) :
    PageWalker.Answers (fun w b => AfterFence fence (fun _ => True) w b.Has)
      (fun answer w b => fence.Covers (.of csrs privilege virtualAddress access) →
        translationEnabled (csrs.read .satp) (effectivePrivilege csrs privilege access) = true →
        AnsweredAfter fence walker w b.Has b.Refused (.of csrs privilege virtualAddress access) answer)
      (walker.translate l csrs privilege virtualAddress access) := by
  generalize hrequest : TranslationRequest.of csrs privilege virtualAddress access = request
  -- what is known of a walk of this request that has begun before the fence
  let G : TranslationRequest → Prop := fun r => r = request → fence.Covers request →
    ∃ state, fence.asid.isSome = true ∧ walker.active = some state ∧ state.request = request ∧
      state.pendingEntry.globalMapping = true
  have start : AfterFence fence G walker l.Has := by
    refine ⟨inv.wellFormed, inv.entries, fun state hactive => ?_⟩
    refine (inv.walk state hactive).imp_right fun h => ⟨h.1, fun hsame covers => ?_⟩
    have hfound : state.pendingEntry.matches request = true := by
      simp [TlbEntry.matches, WalkState.pendingEntry, WalkState.entry, hsame]
    obtain ⟨named, isGlobal⟩ := covers.global_of_unmatched
      ⟨_, (inv.wellFormed.walk state hactive).1, rfl⟩ hfound h.1.unmatched
    exact ⟨state, named, hactive, hsame, isGlobal⟩
  have called : PageWalker.Answers (fun w (b : Logged β) => AfterFence fence G w b.Has)
      (fun answer w b => fence.Covers request →
        translationEnabled request.satp request.privilege = true →
        AnsweredAfter fence walker w b.Has b.Refused request answer)
      (PageWalker.translateLoop request walker.walkFuel walker l) := by
    refine PageWalker.translateLoop_rule ?_ ?_ ?_ ?_ ?_ _ start
    · rintro w b state result w' b' inv hactive step
      exact inv.walkStep hactive step
    · rintro w b state result w' b' inv hactive rfl - step answer hanswer covers -
      rcases inv.walk state hactive with current | ⟨-, hG⟩
      · exact .walk (follows_of_walkStep current step hanswer)
      · obtain ⟨state', named, hactive', hsame, isGlobal⟩ := hG rfl covers
        exact .globalWalk named hactive' hsame isGlobal
    · rintro w b inv - - -
      refine ⟨inv.wellFormed.withActive fun state h => ?_, inv.entries, fun state h => ?_⟩
      · obtain rfl := Option.some.inj h
        exact ⟨le_refl 1, fun _ => rfl⟩
      · obtain rfl := Option.some.inj h
        exact .inl ⟨rfl, by simp [TranslationRequest.start]⟩
    · rintro w b answer inv - - hlookup covers -
      obtain ⟨entry, hold, found, gives⟩ := PageWalker.lookupTlb_gives hlookup
      exact answeredAfter_of_entry b.Refused inv covers hold found gives
    · rintro w b - - hdisabled - henabled
      exact absurd (hdisabled.symm.trans henabled) Bool.false_ne_true
  obtain ⟨inv', answers⟩ := called
  subst hrequest
  refine ⟨⟨inv'.wellFormed, inv'.entries, fun state hactive => ?_⟩, answers⟩
  exact (inv'.walk state hactive).imp_right fun h => ⟨h.1, trivial⟩

omit [Bus β] in
/-- A fence keeps what an earlier one has left. -/
theorem flushFence (inv : AfterFence fence G walker words) (later : TranslationFence) :
    AfterFence fence G (walker.flushFence later) words := by
  have hactive := walker.flushFence_active later
  refine ⟨⟨fun entry h => ?_, fun state h => ?_⟩, fun entry h => ?_, fun state h => ?_⟩
  · exact inv.wellFormed.masks entry (PageWalker.holds_flushFence h).1
  · exact inv.wellFormed.walk state (hactive ▸ h)
  · exact inv.entries entry (PageWalker.holds_flushFence h).1
  · exact inv.walk state (hactive ▸ h)

omit [Bus β] in
/-- A safe fence leaves nothing in its scope. -/
theorem of_safeFence (wf : walker.WellFormed) (safe : SafeFence fence walker)
    (words : U32 → U32 → Prop) :
    AfterFence fence (fun _ => True) (walker.flushFence fence) words := by
  have hactive := walker.flushFence_active fence
  refine ⟨⟨fun entry h => ?_, fun state h => ?_⟩, fun entry h => ?_, fun state h => ?_⟩
  · exact wf.masks entry (PageWalker.holds_flushFence h).1
  · exact wf.walk state (hactive ▸ h)
  · exact .inl (PageWalker.holds_flushFence h).2
  · rw [hactive] at h
    obtain ⟨hlevel, hroot⟩ := wf.walk state h
    rcases hread : state.hasRead with _ | _
    · -- the walk has read nothing yet
      simp only [WalkState.hasRead, Bool.or_eq_false_iff, beq_eq_false_iff_ne,
        bne_eq_false_iff_eq] at hread
      have hone : state.level = 1 := by omega
      refine .inl ⟨?_, by simp [hread.2]⟩
      rw [hone]
      exact hroot (by simp [WalkState.hasRead, hread])
    · exact .inr ⟨⟨hread, safe state h hread⟩, trivial⟩

/-- Every step of a run keeps it and answers the covered requests from the words. -/
theorem step {s : PageWalker × Logged β} (inv : AfterFence fence (fun _ => True) s.1 s.2.Has)
    (op : MmuOp β) :
    AnswersAfter fence s op ∧
      AfterFence fence (fun _ => True) (op.loggedStep s).1 (op.loggedStep s).2.Has := by
  cases op with
  | translate csrs privilege virtualAddress access =>
    obtain ⟨inv', answers⟩ := inv.translate csrs privilege virtualAddress access
    refine ⟨fun request hrequest covers henabled answer hanswer => ?_, inv'⟩
    obtain rfl := Option.some.inj hrequest
    obtain ⟨hanswer, hstall⟩ := MmuOp.translate_of_answer hanswer
    exact answers answer hanswer hstall covers henabled
  | flushFence later => exact ⟨by simp [AnswersAfter, MmuOp.request], inv.flushFence later⟩
  | tick => exact ⟨by simp [AnswersAfter, MmuOp.request], inv⟩

end AfterFence

/-- **After a safe fence every covered request is answered from PTEs read after the fence**: for every
walker that any calls, fences and changes of the bus have led to, and whatever calls, fences and
changes of the bus come later. -/
theorem fence_answersAfter {earlier : List (MmuOp β)} {bus : β} {fence : TranslationFence}
    (safe : SafeFence fence (Automata.run MmuOp.step ({}, bus) earlier).1) (later : List (MmuOp β)) :
    let (walker, bus) := Automata.run MmuOp.step ({}, bus) earlier
    Automata.Along MmuOp.loggedStep (AnswersAfter fence)
      (walker.flushFence fence, Logged.start bus) later := by
  have wf : (Automata.run MmuOp.step ({}, bus) earlier).1.WellFormed :=
    (Automata.Along.trivial_of (({} : PageWalker), bus) earlier).run_invariant
      (I := fun s : PageWalker × β => s.1.WellFormed) PageWalker.wellFormed_new
      fun s op wf _ => wf.step op
  refine (Automata.Along.trivial_of _ later).of_invariant
    (I := fun s : PageWalker × Logged β => AfterFence fence (fun _ => True) s.1 s.2.Has)
    (AfterFence.of_safeFence wf safe _) fun s op inv _ => inv.step op

/-- The root table is at zero and points to itself; the page at 0x1000 is mapped by its second word. -/
def fencedBus (busyAt : List Address) : WordBus 4 0 := { words := #v[0x1, 0x14cf, 0, 0], busyAt }

/-- A supervisor load from that page. -/
def fencedLoad : MmuOp (WordBus 4 0) :=
  .translate (({} : CsrFile).write .satp 0x80000000) .supervisor 0x1000 .load

/-- The page is translated, then mapped elsewhere; after the fence it is translated again. -/
theorem fence_answersAfter_rewritten :
    let (walker, bus) := Automata.run MmuOp.step ({}, fencedBus [])
      [fencedLoad, .tick (WordBus.setWord 1 0x18cf)]
    Automata.Along MmuOp.loggedStep (AnswersAfter .all) (walker.flushFence .all, Logged.start bus)
      [fencedLoad] := by
  have safe : SafeFence .all (Automata.run MmuOp.step ({}, fencedBus [])
      [fencedLoad, .tick (WordBus.setWord 1 0x18cf)]).1 := by decide +kernel
  exact fence_answersAfter safe [fencedLoad]

/-! ## A walk that goes on across a fence -/

omit [Bus β] in
/-- Without global mappings an address comes from a walk that has read its root table. -/
theorem AnsweredAfter.root_read {fence : TranslationFence} {before after : PageWalker}
    {l : Logged β} {request : TranslationRequest} {pa : U32}
    (h : AnsweredAfter fence before after l.Has l.Refused request (.physicalAddress pa))
    (unnamed : fence.asid = none)
    (hlocal : ∀ slot ∈ after.tlb.toList, slot.all (!·.globalMapping) = true) :
    ∃ read ∈ l.reads, read.1 = request.rootPteAddress.setWidth 64 := by
  cases h with
  | walk follows =>
    cases follows with
    | @leaf level pteAddress pte _ reached word meaning =>
      match level, reached with
      | 0, ⟨pte, word, _⟩ => exact ⟨_, word, rfl⟩
      | 1, reached => exact ⟨_, word, by rw [show pteAddress = _ from reached]⟩
  | globalEntry holds isGlobal =>
    have h := hlocal _ (Vector.mem_toList_iff.mpr holds)
    simp [isGlobal] at h
  | globalWalk named => simp [unnamed] at named

/-- The request of that load. -/
def fencedRequest : TranslationRequest :=
  .of (({} : CsrFile).write .satp 0x80000000) .supervisor 0x1000 .load

/-- The bus is busy when the walk comes to the second level; then the root table loses the page. -/
def suspendedWalk : PageWalker × WordBus 4 0 :=
  Automata.run MmuOp.step (.default, fencedBus [4]) [fencedLoad, .tick (WordBus.setWord 0 0)]

/-- After the fence the bus is free. -/
def resumedWalk : PageWalker × Logged (WordBus 4 0) :=
  MmuOp.loggedStep (suspendedWalk.1.flushFence .all, Logged.start suspendedWalk.2)
    (.tick (WordBus.setBusyAt []))

/-- **A walk goes on across a fence**: it has read the root table before the fence, and answers after
the fence with the page that the table has lost. -/
theorem walk_survives_fence :
    ¬ Automata.Along MmuOp.loggedStep (AnswersAfter .all)
      (suspendedWalk.1.flushFence .all, Logged.start suspendedWalk.2)
      [.tick (WordBus.setBusyAt []), fencedLoad] := by
  rw [Automata.along_cons, Automata.along_cons]
  rintro ⟨-, hanswers, -⟩
  have hanswers : AnswersAfter .all resumedWalk fencedLoad := hanswers
  have answered : TranslationResult.physicalAddress 0x5000 ∈ fencedLoad.logged.answer resumedWalk := by
    decide +kernel
  have covers : TranslationFence.all.Covers fencedRequest :=
    ⟨by simp [TranslationFence.all], by simp [TranslationFence.all]⟩
  have hanswer := hanswers fencedRequest rfl covers (by decide +kernel) _ answered
  have hlocal : ∀ slot ∈ (fencedLoad.loggedStep resumedWalk).1.tlb.toList,
      slot.all (!·.globalMapping) = true := by decide +kernel
  obtain ⟨read, hread, hroot⟩ := hanswer.root_read rfl hlocal
  have hnone : ((fencedLoad.loggedStep resumedWalk).2.reads.all
      fun read => read.1 != fencedRequest.rootPteAddress.setWidth 64) = true := by decide +kernel
  exact bne_iff_ne.1 (List.all_eq_true.1 hnone read hread) hroot

end RvSim
