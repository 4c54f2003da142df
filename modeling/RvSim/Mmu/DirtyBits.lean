import RvSim.Mmu.Fresh

/-!
# Who marks a page as dirty

A store marks the leaf of its page as dirty. A walk that is drained, because a request came that is not
its own, drops its answer and its TLB entry, but it still starts the write of a leaf that it comes to.

## Main definitions

* `WalkHistory`: a walker and its bus, and whether the pending PTE write was issued by a call of its own
  request
* `MarkedByOwner`: a page becomes dirty for a store that gets its address, or by a write that had been
  issued before its walk was abandoned
* `ReadsLeaf`: the leaf to which the reads of a walk come that the bus answers
* `DrainsNoCleanLeaf`: no abandoned store still has to read a leaf that is not dirty

## Main results

* `marks_of_walkStep`: what a step of a walk changes in memory
* `dirty_by_owner`: along runs in which nothing else writes the memory, pages become dirty for their
  stores
-/

namespace RvSim

open PageWalker

/-! ## Leaves and their D bits -/

/-- The D bit of a PTE is set. -/
def pteDirty (pte : U32) : Bool := (pteFlags pte &&& pteD) != 0

section Memory

variable {β : Type} [Bus β] [WordMemory β]

/-- The PTE at an address is the leaf that maps the page of a request, to this address. -/
def LeafOf (bus : β) (request : TranslationRequest) (pteAddress physicalAddress : U32) : Prop :=
  ∃ level, Reached (TableWords bus) request level pteAddress ∧
    pteStep request level (pteWord bus pteAddress) = .leaf physicalAddress

/-- The D bit of the PTE at an address is clear in `bus` and set in `b`. -/
def Dirties (bus b : β) (pteAddress : U32) : Prop :=
  pteDirty (pteWord bus pteAddress) = false ∧ pteDirty (pteWord b pteAddress) = true

instance (bus b : β) (pteAddress : U32) : Decidable (Dirties bus b pteAddress) :=
  inferInstanceAs (Decidable (_ ∧ _))

/-- The reads of a walk that the bus answers come to the leaf `pte` at `pteAddress`. -/
inductive ReadsLeaf : β → WalkState → U32 → U32 → Prop
  | leaf {bus b : β} {state : WalkState} {pte physicalAddress : U32}
      (load : Bus.load32 bus (state.pteAddress.setWidth 64) = (.ok pte, b))
      (meaning : pteStep state.request state.level pte = .leaf physicalAddress) :
      ReadsLeaf bus state state.pteAddress pte
  | table {bus b : β} {state : WalkState} {pte next pteAddress leaf : U32}
      (load : Bus.load32 bus (state.pteAddress.setWidth 64) = (.ok pte, b))
      (meaning : pteStep state.request state.level pte = .table next)
      (below : ReadsLeaf b (state.descend pte next) pteAddress leaf) :
      ReadsLeaf bus state pteAddress leaf

end Memory

/-! ## Runs, and who has issued the pending write -/

/-- The walk has found its leaf, and its write is pending. -/
def WalkState.isWriting (state : WalkState) : Bool := state.phase != .readPte

/-- A walker and its bus. The PTE write of the walk in progress is `issued` if a call of its own request
has made it, and the bus was busy. -/
structure WalkHistory (β : Type) where
  walker : PageWalker := .default
  bus : β
  issued : Bool := false
  deriving DecidableEq

namespace WalkHistory

variable {β : Type} [Bus β]

def state (h : WalkHistory β) : PageWalker × β := (h.walker, h.bus)

/-- Whether the pending write was issued by a call of its own request, after a call for `request`. -/
def issuedAfter (h : WalkHistory β) (request : TranslationRequest) (walker : PageWalker) : Bool :=
  match walker.active with
  | none => false
  | some walk =>
    if walk.request = request then walk.isWriting else h.issued && h.walker.active == some walk

def step (h : WalkHistory β) (op : MmuOp β) : WalkHistory β where
  walker := (op.step h.state).1
  bus := (op.step h.state).2
  issued :=
    match op.request with
    | some request => h.issuedAfter request (op.step h.state).1
    | none => h.issued

end WalkHistory

section Ownership

variable {β : Type} [Bus β] [WordMemory β]

/-- A walk that was abandoned after its own call had issued its write, to this PTE. -/
def IssuedBefore (h : WalkHistory β) (request : TranslationRequest) (pteAddress : U32) : Prop :=
  h.issued = true ∧ ∃ walk ∈ h.walker.active, walk.request ≠ request ∧
    walk.request.access = .store ∧ walk.pteAddress = pteAddress

/-- **A page becomes dirty for its stores**: where a call sets the D bit of a PTE, the call is one for a
store to its page and returns the address, or the write had been issued before its walk was abandoned. -/
def MarkedByOwner (h : WalkHistory β) (op : MmuOp β) : Prop :=
  ∀ request ∈ op.request, ∀ a, a % 4 = 0 → Dirties h.bus (op.step h.state).2 a →
    (request.access = .store ∧ ∃ pa, .physicalAddress pa ∈ op.answer h.state ∧
      LeafOf (op.step h.state).2 request a pa) ∨
    IssuedBefore h request a

/-- No store is abandoned that still has to read its leaf, if the bus then answers these reads and the
leaf is not dirty. -/
def DrainsNoCleanLeaf (h : WalkHistory β) (op : MmuOp β) : Prop :=
  ∀ request ∈ op.request, ∀ walk ∈ h.walker.active, walk.request ≠ request →
    walk.request.access = .store → walk.phase = .readPte →
    ∀ a pte, ReadsLeaf h.bus walk a pte → pteWritable β a = true → pteDirty pte = true

/-- Nothing but the walker writes the memory; the bus is busy as it likes. -/
def OnlyBusy (h : WalkHistory β) (op : MmuOp β) : Prop :=
  ∀ change, op = .tick change → ∀ a, pteWord (change h.bus) a = pteWord h.bus a

end Ownership

/-! ## What a walk changes in memory -/

section Marks

variable {β : Type} [Bus β] [WordMemory β] {bus b c : β} {state : WalkState} {pa : U32}

/-- The walk is as far as the tables in memory say, and a pending write is that of its leaf. -/
structure WalkState.OnTables (state : WalkState) (bus : β) : Prop where
  reached : Reached (TableWords bus) state.request state.level state.pteAddress
  write : ∀ pa flags value, state.phase = .writeLeaf pa flags value →
    pteStep state.request state.level (pteWord bus state.pteAddress) = .leaf pa ∧
      value = TranslationRequest.updatedPte (pteWord bus state.pteAddress) state.request

theorem WalkState.OnTables.congr (h : state.OnTables bus) (hword : pteWord b = pteWord bus) :
    state.OnTables b := by
  have htable : TableWords b = TableWords bus := by
    unfold TableWords
    rw [hword]
  exact ⟨htable ▸ h.reached, fun pa flags value phase => hword ▸ h.write pa flags value phase⟩

theorem WalkState.onTables_start (request : TranslationRequest) (bus : β) :
    request.start.OnTables bus := ⟨rfl, nofun⟩

/-- The walk has written the access bits of its leaf. -/
structure Marks (bus b : β) (state : WalkState) (pa : U32) : Prop where
  writable : pteWritable β state.pteAddress = true
  aligned : state.pteAddress % 4 = 0
  meaning : pteStep state.request state.level (pteWord bus state.pteAddress) = .leaf pa
  word : ∀ a, a % 4 = 0 → pteWord b a =
    if a = state.pteAddress then TranslationRequest.updatedPte (pteWord bus a) state.request
    else pteWord bus a

/-- Access bits that do not mark a store leave the D bit. -/
theorem pteDirty_updatedPte {request : TranslationRequest} (h : request.access ≠ .store) (pte : U32) :
    pteDirty (TranslationRequest.updatedPte pte request) = pteDirty pte := by
  have hbits : request.accessBitsFor &&& pteD = 0 := by
    rw [TranslationRequest.accessBitsFor, if_neg h]
    decide
  rw [pteDirty, pteDirty, pteFlags_updatedPte, TranslationRequest.updatedFlags,
    BitVec.and_or_distrib_right, hbits]
  exact congrArg (· != 0) BitVec.or_zero

/-- What is dirty behind the write was dirty, or the write is that of a store to this leaf. -/
theorem Marks.dirties (h : Marks b c state pa) {a : U32} (ha : a % 4 = 0) (hdirty : Dirties bus c a) :
    Dirties bus b a ∨ (a = state.pteAddress ∧ state.request.access = .store ∧
      pteDirty (pteWord b a) = false) := by
  obtain ⟨hclean, hset⟩ := hdirty
  rw [h.word a ha] at hset
  by_cases hsame : a = state.pteAddress
  · rw [if_pos hsame] at hset
    rcases hbefore : pteDirty (pteWord b a)
    · refine .inr ⟨hsame, ?_, rfl⟩
      by_contra hstore
      rw [pteDirty_updatedPte hstore, hbefore] at hset
      cases hset
    · exact .inl ⟨hclean, hbefore⟩
  · rw [if_neg hsame] at hset
    exact .inl ⟨hclean, hset⟩

/-- The tables only change by access bits of leaves. -/
theorem Marks.evolves (h : Marks bus b state pa) : Evolves (fun _ => True) bus b := by
  intro a _ ha
  rw [h.word a ha]
  by_cases hsame : a = state.pteAddress
  · subst hsame
    rw [if_pos rfl]
    exact .inr ⟨h.writable, isLeaf_of_leaf h.meaning, _, accessBitsFor_accessBits state.request, rfl⟩
  · exact .inl (if_neg hsame)

/-- The leaf of the walk maps its page, also after the write. -/
theorem Marks.leafOf (h : Marks bus b state pa) (onTables : state.OnTables bus) :
    LeafOf b state.request state.pteAddress pa := by
  have rooted : Rooted (fun _ => True) bus state.request := ⟨trivial, fun _ _ => trivial⟩
  refine ⟨state.level, rooted.reached_evolve h.evolves onTables.reached, ?_⟩
  rw [h.evolves.pteStep_eq trivial h.aligned]
  exact h.meaning

variable {walker w : PageWalker} {drainOnly : Bool} {result : StepResult}

/-- The write of a leaf that the walk has found marks it, or nothing has happened to memory. -/
theorem marks_of_leafWrite {flags value : U32} (haligned : state.pteAddress % 4 = 0)
    (meaning : pteStep state.request state.level (pteWord bus state.pteAddress) = .leaf pa)
    (hvalue : value = TranslationRequest.updatedPte (pteWord bus state.pteAddress) state.request)
    (h : LeafWrite walker bus state pa flags value drainOnly result w b) :
    (pteWord b = pteWord bus ∧
        (w.active = none ∨ result = .stall ∧ w.active = walker.active)) ∨
      (Marks bus b state pa ∧ w.active = none ∧ result = ended drainOnly (.ready pa)) := by
  cases h with
  | done store =>
    obtain ⟨hwritable, hword⟩ := pteWord_of_store haligned store
    refine .inr ⟨⟨hwritable, haligned, meaning, fun a ha => ?_⟩, rfl, rfl⟩
    rw [hword a ha, hvalue]
    by_cases hsame : a = state.pteAddress
    · rw [if_pos hsame, if_pos hsame, hsame]
    · rw [if_neg hsame, if_neg hsame]
  | busy store => exact .inl ⟨(pteWord_of_store_error haligned store).1, .inr ⟨rfl, rfl⟩⟩
  | failed _ store => exact .inl ⟨(pteWord_of_store_error haligned store).1, .inl rfl⟩

/-- The walk `next` is what a step makes of `state`, unless the walk has ended. -/
inductive GoesOn (bus b : β) (state : WalkState) (result : StepResult) (next : WalkState) : Prop
  | same (busy : result = .stall) (eq : next = state)
  | writing {pte pa : U32} (phase : state.phase = .readPte) (busy : result = .stall)
      (eq : next = state.writing pa pte) (read : ReadsLeaf bus state state.pteAddress pte)
      (word : pteWord bus state.pteAddress = pte)
  | descended {pte pteAddress : U32} (phase : state.phase = .readPte)
      (eq : next = state.descend pte pteAddress)
      (read : ∀ a leaf, ReadsLeaf b next a leaf → ReadsLeaf bus state a leaf)

/-- **What a step of a walk changes in memory**: the access bits of its leaf, as its last step, or
nothing. -/
theorem marks_of_walkStep (h : state.OnTables bus) (hactive : walker.active = some state)
    (step : WalkStep walker bus state drainOnly result w b) :
    (pteWord b = pteWord bus ∧
        ∀ next, w.active = some next → next.OnTables b ∧ GoesOn bus b state result next) ∨
      ∃ pa, Marks bus b state pa ∧ w.active = none ∧ result = ended drainOnly (.ready pa) ∧
        (state.phase = .readPte →
          ReadsLeaf bus state state.pteAddress (pteWord bus state.pteAddress)) := by
  have haligned := reached_aligned h.reached
  -- a step that ends the walk without a write
  have finished : ∀ {result : StepResult} {w : PageWalker} {b : β}, pteWord b = pteWord bus →
      w.active = none → pteWord b = pteWord bus ∧
        ∀ next, w.active = some next → next.OnTables b ∧ GoesOn bus b state result next := by
    intro result w b hword hnone
    refine ⟨hword, fun next hnext => ?_⟩
    rw [hnone] at hnext
    cases hnext
  cases step with
  | @write pa flags value _ _ _ phase leaf =>
    -- the write that was pending: nothing, the same again, or the access bits
    obtain ⟨meaning, hvalue⟩ := h.write _ _ _ phase
    rcases marks_of_leafWrite haligned meaning hvalue leaf with
      ⟨hword, hnone | ⟨hstall, hsame⟩⟩ | ⟨marks, hnone, hready⟩
    · exact .inl (finished hword hnone)
    · refine .inl ⟨hword, fun next hnext => ?_⟩
      obtain rfl := Option.some.inj (hnext.symm.trans (hsame.trans hactive))
      exact ⟨h.congr hword, .same hstall rfl⟩
    · refine .inr ⟨pa, marks, hnone, hready, fun hread => ?_⟩
      rw [hread] at phase
      cases phase
  | busy _ load =>
    have hword := pteWord_of_load haligned load
    refine .inl ⟨hword, fun next hnext => ?_⟩
    obtain rfl := Option.some.inj (hnext.symm.trans hactive)
    exact ⟨h.congr hword, .same rfl rfl⟩
  | failed _ _ load => exact .inl (finished (pteWord_of_load haligned load) rfl)
  | fault _ load => exact .inl (finished (pteWord_of_load haligned load) rfl)
  | leaf _ load => exact .inl (finished (pteWord_of_load haligned load) rfl)
  | @table _ pte pteAddress phase load meaning =>
    have hword := pteWord_of_load haligned load
    obtain ⟨-, hpte⟩ := pte_of_load haligned load
    refine .inl ⟨hword, fun next hnext => ?_⟩
    obtain rfl := Option.some.inj hnext
    exact ⟨⟨(h.congr hword).reached.table (by rw [TableWords, hword, hpte]) meaning, nofun⟩,
      .descended phase rfl fun a leaf below => .table load meaning below⟩
  | @update b₁ _ pte pa _ _ phase load meaning _ leaf =>
    have hword := pteWord_of_load haligned load
    obtain ⟨-, hpte⟩ := pte_of_load haligned load
    have hpte' : pteWord b₁ state.pteAddress = pte := by rw [hword, hpte]
    have hread : ReadsLeaf bus state state.pteAddress pte := .leaf load meaning
    -- the write begins in this step, and the PTE it has read is still there
    have haligned' : (state.writing pa pte).pteAddress % 4 = 0 := haligned
    have meaning' : pteStep state.request state.level (pteWord b₁ state.pteAddress) = .leaf pa := by
      rw [hpte']
      exact meaning
    rcases marks_of_leafWrite haligned' meaning' (by rw [← hpte']; rfl) leaf with
      ⟨hword', hnone | ⟨hstall, hsame⟩⟩ | ⟨marks, hnone, hready⟩
    · exact .inl (finished (hword'.trans hword) hnone)
    · refine .inl ⟨hword'.trans hword, fun next hnext => ?_⟩
      obtain rfl := Option.some.inj (hnext.symm.trans hsame)
      have onTables := h.congr (hword'.trans hword)
      refine ⟨⟨onTables.reached, fun pa' flags value phase' => ?_⟩, .writing phase hstall rfl hread hpte⟩
      obtain ⟨rfl, rfl, rfl⟩ := WalkPhase.writeLeaf.inj phase'
      have hpte'' : pteWord b state.pteAddress = pte := by rw [hword', hpte']
      exact ⟨hpte''.symm ▸ meaning, congrArg (TranslationRequest.updatedPte · state.request)
        hpte''.symm⟩
    · refine .inr ⟨pa, ⟨marks.writable, haligned, ?_, fun a ha => ?_⟩, hnone, hready, fun _ => ?_⟩
      · rw [hpte]
        exact meaning
      · rw [marks.word a ha, hword]
        rfl
      · rw [hpte]
        exact hread

end Marks

/-! ## Calls -/

section Calls

variable {β : Type} [Bus β] [WordMemory β] {h : WalkHistory β} {request : TranslationRequest}
  {owns : U32 → Prop} {walker w : PageWalker} {bus b : β} {state : WalkState}

/-- How far a call for `request` has come: what is dirty now is owned, or had been issued before, and a
pending write of an abandoned store had been issued before, or makes nothing dirty. -/
structure Called (h : WalkHistory β) (request : TranslationRequest) (owns : U32 → Prop)
    (walker : PageWalker) (bus : β) : Prop where
  onTables : ∀ walk, walker.active = some walk → walk.OnTables bus
  abandoned : ∀ walk, walker.active = some walk → walk.request ≠ request →
    walk.request.access = .store → walk.phase ≠ .readPte →
    (h.issued = true ∧ h.walker.active = some walk) ∨
      (pteWritable β walk.pteAddress = true → pteDirty (pteWord bus walk.pteAddress) = true)
  marked : ∀ a, a % 4 = 0 → Dirties h.bus bus a → owns a ∨ IssuedBefore h request a

/-- A call that goes on: a store that it drains does not read a leaf that is not dirty. -/
structure Running (h : WalkHistory β) (request : TranslationRequest) (walker : PageWalker)
    (bus : β) : Prop extends Called h request (fun _ => False) walker bus where
  reads : ∀ walk, walker.active = some walk → walk.request ≠ request →
    walk.request.access = .store → walk.phase = .readPte →
    ∀ a pte, ReadsLeaf bus walk a pte → pteWritable β a = true → pteDirty pte = true

/-- The step of a walk that marks its leaf for the call, or for a walk whose write had been issued. -/
theorem Running.marked_of_marks {pa : U32} (r : Running h request walker bus)
    (hactive : walker.active = some state) (marks : Marks bus b state pa)
    (hread : state.phase = .readPte →
      ReadsLeaf bus state state.pteAddress (pteWord bus state.pteAddress))
    {a : U32} (ha : a % 4 = 0) (hdirty : Dirties h.bus b a) :
    (state.request = request ∧ state.request.access = .store ∧ a = state.pteAddress) ∨
      IssuedBefore h request a := by
  rcases marks.dirties ha hdirty with hbefore | ⟨rfl, hstore, hclean⟩
  · rcases r.marked a ha hbefore with hfalse | hissued
    · cases hfalse
    · exact .inr hissued
  · by_cases hown : state.request = request
    · exact .inl ⟨hown, hstore, rfl⟩
    · right
      by_cases hphase : state.phase = .readPte
      · have hset := r.reads state hactive hown hstore hphase _ _ (hread hphase) marks.writable
        rw [hclean] at hset
        cases hset
      · rcases r.abandoned state hactive hown hstore hphase with ⟨hissued, hsame⟩ | hset
        · exact ⟨hissued, state, hsame, hown, hstore, rfl⟩
        · have hset := hset marks.writable
          rw [hclean] at hset
          cases hset

/-- A step of an abandoned walk, or one of the own walk that does not answer. -/
theorem Running.walkStep {result : StepResult} (r : Running h request walker bus)
    (hactive : walker.active = some state)
    (step : WalkStep walker bus state (decide (state.request ≠ request)) result w b)
    (hnone : result.answer = none) : Called h request (fun _ => False) w b := by
  rcases marks_of_walkStep (r.onTables state hactive) hactive step with
    ⟨hword, next⟩ | ⟨pa, marks, hended, hready, hread⟩
  · refine ⟨fun walk hwalk => (next walk hwalk).1, fun walk hwalk hother hstore hphase => ?_,
      fun a ha hdirty => r.marked a ha ?_⟩
    -- nothing was written: what has been read of the abandoned walk is still there
    · cases (next walk hwalk).2 with
      | same _ eq =>
        subst eq
        rw [hword]
        exact r.abandoned walk hactive hother hstore hphase
      | writing phase _ eq read hpte =>
        subst eq
        refine .inr fun hwritable => ?_
        rw [hword]
        exact (congrArg pteDirty hpte).trans
          (r.reads state hactive hother hstore phase _ _ read hwritable)
      | descended _ eq => exact absurd (eq ▸ rfl) hphase
    · rwa [Dirties, hword] at hdirty
  · refine ⟨fun walk hwalk => ?_, fun walk hwalk => ?_, fun a ha hdirty => ?_⟩
    · rw [hended] at hwalk
      cases hwalk
    · rw [hended] at hwalk
      cases hwalk
    · rcases r.marked_of_marks hactive marks hread ha hdirty with ⟨hown, -⟩ | hissued
      · -- the own walk would answer with the address
        rw [hready, hown] at hnone
        simp [ended, StepResult.answer] at hnone
      · exact .inr hissued

/-- After such a step the call goes on with the reads that were left. -/
theorem Running.goesOn (r : Running h request walker bus) (hactive : walker.active = some state)
    (step : WalkStep walker bus state (decide (state.request ≠ request)) .drained w b) :
    Running h request w b := by
  refine ⟨r.walkStep hactive step rfl, fun walk hwalk hother hstore hphase a pte hread => ?_⟩
  rcases marks_of_walkStep (r.onTables state hactive) hactive step with
    ⟨-, next⟩ | ⟨-, -, hended, -⟩
  · cases (next walk hwalk).2 with
    | same busy => cases busy
    | writing _ busy => cases busy
    | descended phase eq read =>
      subst eq
      exact r.reads state hactive hother hstore phase a pte (read a pte hread)
  · rw [hended] at hwalk
    cases hwalk

/-- What an answer leaves: what is dirty then is owned by the call, or had been issued before. -/
def AnsweredWith (h : WalkHistory β) (request : TranslationRequest) (answer : TranslationResult) :
    PageWalker → β → Prop :=
  fun walker bus => Called h request (fun a => request.access = .store ∧
    ∃ pa, answer = .physicalAddress pa ∧ LeafOf bus request a pa) walker bus

theorem Running.answered (r : Running h request walker bus) (answer : TranslationResult) :
    AnsweredWith h request answer walker bus :=
  ⟨r.onTables, r.abandoned, fun a ha hdirty => (r.marked a ha hdirty).imp_left False.elim⟩

/-- An answer of the own walk. -/
theorem Running.answered_walkStep {result : StepResult} (r : Running h request walker bus)
    (hactive : walker.active = some state) (hown : state.request = request)
    (step : WalkStep walker bus state false result w b) {answer : TranslationResult}
    (hanswer : answer ∈ result.answer) : AnsweredWith h request answer w b := by
  rcases marks_of_walkStep (r.onTables state hactive) hactive step with
    ⟨hword, next⟩ | ⟨pa, marks, hended, hready, hread⟩
  · refine ⟨fun walk hwalk => (next walk hwalk).1, fun walk hwalk hother => ?_,
      fun a ha hdirty => ?_⟩
    · exact absurd ((step.request_eq hactive hwalk).trans hown) hother
    · rw [Dirties, hword] at hdirty
      exact (r.marked a ha hdirty).imp_left False.elim
  · refine ⟨fun walk hwalk => ?_, fun walk hwalk => ?_, fun a ha hdirty => ?_⟩
    · rw [hended] at hwalk
      cases hwalk
    · rw [hended] at hwalk
      cases hwalk
    · refine (r.marked_of_marks hactive marks hread ha hdirty).imp_left ?_
      rintro ⟨-, hstore, rfl⟩
      rw [hready] at hanswer
      have hpa : answer = .physicalAddress pa := (Option.some.inj hanswer).symm
      exact ⟨hown ▸ hstore, pa, hpa, hown ▸ marks.leafOf (r.onTables state hactive)⟩

/-- **What a call of `translate` does.** -/
theorem Running.translateLoop (r : Running h request walker bus) (fuel : Nat) :
    Outcome (Called h request fun _ => False) (AnsweredWith h request)
      (translateLoop request fuel walker bus) := by
  refine translateLoop_outcome (I := Running h request) ?_ ?_ ?_ ?_ ?_ ?_ ?_ fuel r
  · exact fun w b state w' b' r hactive step => r.goesOn hactive step
  · exact fun w b state w' b' r hactive step => r.walkStep hactive step rfl
  · exact fun w b state result w' b' r hactive hown _ step answer hanswer =>
      r.answered_walkStep hactive hown step hanswer
  · intro w b r hidle _ _
    refine ⟨⟨fun walk hwalk => ?_, fun walk hwalk hother => ?_, r.marked⟩,
      fun walk hwalk hother => ?_⟩
    all_goals obtain rfl := Option.some.inj hwalk
    · exact WalkState.onTables_start request b
    · exact absurd rfl hother
    · exact absurd rfl hother
  · exact fun w b answer r _ _ _ => r.answered answer
  · exact fun w b r _ _ => r.answered _
  · exact fun w b r => r.toCalled

end Calls

/-! ## Runs -/

section Runs

variable {β : Type} [Bus β] [WordMemory β] {h : WalkHistory β}

/-- The walk in progress is as far as the tables say; a store's write that its own call has not issued
makes nothing dirty. -/
structure WalkHistory.Sound (h : WalkHistory β) : Prop where
  onTables : ∀ walk, h.walker.active = some walk → walk.OnTables h.bus
  issued : ∀ walk, h.walker.active = some walk → walk.request.access = .store →
    walk.phase ≠ .readPte → h.issued = false → pteWritable β walk.pteAddress = true →
    pteDirty (pteWord h.bus walk.pteAddress) = true

theorem WalkHistory.Sound.running (s : h.Sound) {request : TranslationRequest}
    (hdrains : ∀ walk ∈ h.walker.active, walk.request ≠ request → walk.request.access = .store →
      walk.phase = .readPte → ∀ a pte, ReadsLeaf h.bus walk a pte → pteWritable β a = true →
      pteDirty pte = true) : Running h request h.walker h.bus := by
  refine ⟨⟨s.onTables, fun walk hwalk hother hstore hphase => ?_, fun a _ hdirty => ?_⟩, hdrains⟩
  · rcases hissued : h.issued
    · exact .inr (s.issued walk hwalk hstore hphase hissued)
    · exact .inl ⟨rfl, hwalk⟩
  · exact absurd (hdirty.1.symm.trans hdirty.2) Bool.false_ne_true

/-- What a call leaves is sound again. -/
theorem Called.sound {request : TranslationRequest} {owns : U32 → Prop} {walker : PageWalker}
    {bus : β} (c : Called h request owns walker bus) :
    ({ walker, bus, issued := h.issuedAfter request walker } : WalkHistory β).Sound := by
  refine ⟨c.onTables, fun walk hwalk hstore hphase hissued => ?_⟩
  change walker.active = some walk at hwalk
  simp only [WalkHistory.issuedAfter, hwalk] at hissued
  split at hissued
  · simp [WalkState.isWriting, hphase] at hissued
  · next hother =>
    rcases c.abandoned walk hwalk hother hstore hphase with ⟨h1, h2⟩ | hdirty
    · simp [h1, h2] at hissued
    · exact hdirty

/-- One step of a run. -/
theorem WalkHistory.Sound.step (s : h.Sound) {op : MmuOp β} (honly : OnlyBusy h op)
    (hdrains : DrainsNoCleanLeaf h op) : MarkedByOwner h op ∧ (h.step op).Sound := by
  cases op with
  | translate csrs privilege virtualAddress access =>
    obtain ⟨answer, hanswer, hstall, hother⟩ :=
      (s.running (hdrains _ rfl)).translateLoop h.walker.walkFuel
    have heq : (h.walker.translate h.bus csrs privilege virtualAddress access).1 = .ok answer :=
      hanswer
    -- a call that stalls owes nothing; one that answers with an address may have made its page dirty
    by_cases hne : answer = .stall
    · have called := hstall hne
      refine ⟨fun request hrequest a ha hdirty => ?_, called.sound⟩
      obtain rfl := Option.some.inj hrequest
      exact (called.marked a ha hdirty).imp_left False.elim
    · have called := hother hne
      refine ⟨fun request hrequest a ha hdirty => ?_, called.sound⟩
      obtain rfl := Option.some.inj hrequest
      refine (called.marked a ha hdirty).imp_left ?_
      rintro ⟨hstore, pa, rfl, hleaf⟩
      refine ⟨hstore, pa, ?_, hleaf⟩
      simp only [MmuOp.answer, MmuOp.called, WalkHistory.state, heq, Option.bind_some,
        Except.toOption]
      rfl
  | flushFence fence =>
    refine ⟨fun _ h => (by cases h), fun walk hwalk => ?_, fun walk hwalk => ?_⟩
    · exact s.onTables walk ((h.walker.flushFence_active fence).symm.trans hwalk)
    · exact s.issued walk ((h.walker.flushFence_active fence).symm.trans hwalk)
  -- the bus changes, but not its words
  | tick change =>
    have hword : pteWord (change h.bus) = pteWord h.bus := funext (honly change rfl)
    refine ⟨fun _ h => (by cases h), fun walk hwalk => (s.onTables walk hwalk).congr hword,
      fun walk hwalk hstore hphase hissued hwritable => ?_⟩
    exact (congrFun (congrArg (pteDirty ∘ ·) hword) _).trans
      (s.issued walk hwalk hstore hphase hissued hwritable)

end Runs

/-- **Pages become dirty for their stores**, in every run of calls on a bus that is busy as it likes in
which no store is abandoned whose reads then come to a leaf that is not dirty. -/
theorem dirty_by_owner {β : Type} [Bus β] [WordMemory β] {bus : β} {ops : List (MmuOp β)}
    (honly : Automata.Along WalkHistory.step OnlyBusy { bus } ops)
    (hdrains : Automata.Along WalkHistory.step DrainsNoCleanLeaf { bus } ops) :
    Automata.Along WalkHistory.step MarkedByOwner { bus } ops :=
  (honly.and hdrains).of_invariant (I := WalkHistory.Sound) ⟨nofun, nofun⟩
    fun _ _ s both => s.step both.1 both.2

theorem drainsNoCleanLeaf_of_own {β : Type} [Bus β] [WordMemory β] {h : WalkHistory β} {op : MmuOp β}
    (hown : (h.walker.active.all fun walk => op.request.all (· == walk.request)) = true) :
    DrainsNoCleanLeaf h op := by
  intro request hrequest walk hwalk hother
  rw [Option.mem_def.mp hwalk, Option.all_some, Option.mem_def.mp hrequest, Option.all_some] at hown
  exact absurd (eq_of_beq hown).symm hother

theorem onlyBusy_setBusyAt {size readOnly : Nat} {h : WalkHistory (WordBus size readOnly)}
    (busyAt : List Address) : OnlyBusy h (.tick (WordBus.setBusyAt busyAt)) := by
  rintro change hchange a
  obtain rfl := MmuOp.tick.inj hchange
  rfl

/-- A store may be abandoned at a leaf that is dirty already. -/
theorem drainsNoCleanLeaf_of_dirty {β : Type} [Bus β] [WordMemory β] {h : WalkHistory β} {op : MmuOp β}
    (leaf : U32) (hdirty : pteDirty leaf = true)
    (hleaf : ∀ walk ∈ h.walker.active, (Bus.load32 h.bus (walk.pteAddress.setWidth 64)).1 = .ok leaf ∧
      pteStep walk.request walk.level leaf matches .leaf _) :
    DrainsNoCleanLeaf h op := by
  intro request _ walk hwalk _ _ _ a pte hreads _
  obtain ⟨hload, hmeaning⟩ := hleaf walk hwalk
  cases hreads with
  | leaf load =>
    rw [load] at hload
    cases hload
    exact hdirty
  | table load meaning =>
    rw [load] at hload
    cases hload
    rw [meaning] at hmeaning
    cases hmeaning

/-- A store to the page, and behind a fence another one that is suspended at the leaf and abandoned for a
load: the page is dirty already. -/
theorem dirty_by_owner_suspended :
    Automata.Along WalkHistory.step MarkedByOwner { bus := freshBus }
      [freshAccess .store, .flushFence ⟨none, none⟩, .tick (WordBus.setBusyAt [4]), freshAccess .store,
        .tick (WordBus.setBusyAt []), freshAccess .load] :=
  dirty_by_owner
    ⟨nofun, nofun, onlyBusy_setBusyAt _, nofun, onlyBusy_setBusyAt _, nofun, trivial⟩
    ⟨drainsNoCleanLeaf_of_own (by decide +kernel), drainsNoCleanLeaf_of_own (by decide +kernel),
      drainsNoCleanLeaf_of_own (by decide +kernel), drainsNoCleanLeaf_of_own (by decide +kernel),
      drainsNoCleanLeaf_of_own (by decide +kernel),
      drainsNoCleanLeaf_of_dirty 0x14cf (by decide) (by decide +kernel), trivial⟩

/-- A store is suspended at its leaf, and a load comes that is no longer suspended: the store is never
made, and its page is dirty. -/
theorem dirty_without_store :
    let ops := [.tick (WordBus.setBusyAt [4]), freshAccess .store, .tick (WordBus.setBusyAt []),
      freshAccess .load]
    Automata.Along WalkHistory.step OnlyBusy { bus := freshBus } ops ∧
      ¬ Automata.Along WalkHistory.step MarkedByOwner { bus := freshBus } ops := by
  refine ⟨⟨onlyBusy_setBusyAt _, nofun, onlyBusy_setBusyAt _, nofun, trivial⟩, ?_⟩
  rintro ⟨-, -, -, hload, -⟩
  rcases hload _ rfl 4 (by decide) (by decide +kernel) with ⟨hstore, -⟩ | ⟨hissued, -⟩
  · cases hstore
  · exact absurd hissued (by decide +kernel)

end RvSim
