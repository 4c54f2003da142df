import RvSim.Mmu

/-!
# What the page walker can do

A call of `translate` is a sequence of bus accesses: steps of the walk it finds in progress, and steps
of its own walk. Here every way an access can go is one constructor of `WalkStep`, and a property of a
call follows from what these keep.

## Main definitions

* `PteStep`, `pteStep`: what a PTE says at a level of a walk
* `LeafWrite`, `WalkStep`: the ways the accesses of a walk can go

## Main results

* `PageWalker.step_cases`: every step of a walk is a `WalkStep`
* `PageWalker.translateLoop_outcome`, `PageWalker.translateLoop_rule`: the rules of `translate`
-/

namespace RvSim

/-! ## What a PTE says -/

/-- The physical address a leaf gives to a virtual address; a superpage is aligned. -/
def leafAddress (virtualAddress : U32) (level : Nat) (pte : U32) : Option U32 :=
  let offset := virtualAddress &&& pageOffsetMask
  let ppn1 := ptePpn pte >>> 10
  let ppn0 := ptePpn pte &&& ptePpn0Mask
  match level with
  | 1 =>
    if ppn0 ≠ 0 then none
    else some ((((ppn1 <<< 10) ||| vpn virtualAddress 0) <<< pageShift) ||| offset)
  | 0 => some ((((ppn1 <<< 10) ||| ppn0) <<< pageShift) ||| offset)
  | _ => none

theorem translateLeaf_eq (state : WalkState) (pte : U32) :
    translateLeaf state pte = leafAddress state.request.virtualAddress state.level pte := rfl

/-- What a PTE means for a request at a level of its walk. -/
inductive PteStep
  /-- A page fault. -/
  | fault
  /-- The page is found, and the request is allowed. -/
  | leaf (physicalAddress : U32)
  /-- The walk goes on at this PTE of the next level. -/
  | table (pteAddress : U32)
  deriving DecidableEq, Repr

def pteStep (request : TranslationRequest) (level : Nat) (pte : U32) : PteStep :=
  let flags := pteFlags pte
  if flags &&& pteV = 0 ∨ (flags &&& pteR = 0 ∧ flags &&& pteW ≠ 0) then .fault
  else if flags &&& (pteR ||| pteX) ≠ 0 then
    match leafAddress request.virtualAddress level pte with
    | none => .fault
    | some physicalAddress =>
      if request.permissionsAllow flags then .leaf physicalAddress else .fault
  else if nonleafFlagsValid flags then
    match level with
    | 0 => .fault
    | nextLevel + 1 =>
      .table ((ptePpn pte <<< pageShift) + vpn request.virtualAddress nextLevel * 4)
  else .fault

/-- A walk goes on at a table only from the upper level. -/
theorem level_of_table {r : TranslationRequest} {level : Nat} {pte a : U32}
    (h : pteStep r level pte = .table a) : level ≠ 0 := by
  rintro rfl
  unfold pteStep at h
  dsimp only at h
  repeat' split at h
  all_goals cases h

theorem eq_of_table {r : TranslationRequest} {pte a : U32} (h : pteStep r 1 pte = .table a) :
    a = (ptePpn pte <<< pageShift) + vpn r.virtualAddress 0 * 4 := by
  unfold pteStep at h
  dsimp only at h
  split at h
  · cases h
  · split at h
    · split at h
      · cases h
      · split at h <;> cases h
    · split at h
      · exact (PteStep.table.inj h).symm
      · cases h

/-- A walk that has found a leaf whose access bits it has to write. -/
def WalkState.writing (state : WalkState) (physicalAddress pte : U32) : WalkState :=
  { state with
    phase := .writeLeaf physicalAddress (state.request.updatedFlags (pteFlags pte))
      (TranslationRequest.updatedPte pte state.request) }

/-- A walk that goes on at the next level. -/
def WalkState.descend (state : WalkState) (pte pteAddress : U32) : WalkState where
  request := state.request
  level := state.level - 1
  pteAddress := pteAddress
  globalMapping := state.globalMapping || pteIsGlobal (pteFlags pte)
  phase := .readPte

/-- The walk `translate` starts for a request. -/
def TranslationRequest.start (request : TranslationRequest) : WalkState where
  request := request
  level := 1
  pteAddress := request.rootPteAddress
  globalMapping := false
  phase := .readPte

/-- What a step of its own walk gives a call. -/
def StepResult.answer : StepResult → Option TranslationResult
  | .ready physicalAddress => some (.physicalAddress physicalAddress)
  | .fault trap => some (.fault trap)
  | _ => none

namespace PageWalker

variable {β : Type} [Bus β]

/-- The walker after a walk has ended with a leaf; a drained walk leaves nothing in the TLB. -/
def filled (walker : PageWalker) (drainOnly : Bool) (state : WalkState)
    (flags physicalAddress : U32) : PageWalker :=
  { (if drainOnly then walker else walker.insertTlb state flags physicalAddress) with
    active := none }

/-- What a step reads off a PTE decides how it goes on. -/
theorem stepPte_eq (walker : PageWalker) (bus : β) (state : WalkState) (pte : U32)
    (drainOnly : Bool) :
    walker.stepPte bus state pte drainOnly =
      match pteStep state.request state.level pte with
      | .fault => walker.finish bus drainOnly (.fault state.request.pageFault)
      | .leaf physicalAddress =>
        if state.request.needsAccessBitUpdate (pteFlags pte) then
          { walker with active := some (state.writing physicalAddress pte) }.finishLeafUpdate bus
            (state.writing physicalAddress pte) physicalAddress
            (state.request.updatedFlags (pteFlags pte))
            (TranslationRequest.updatedPte pte state.request) drainOnly
        else
          (.ok (if drainOnly then .drained else .ready physicalAddress),
            walker.filled drainOnly state (pteFlags pte) physicalAddress, bus)
      | .table pteAddress =>
        (.ok .drained, { walker with active := some (state.descend pte pteAddress) }, bus) := by
  unfold stepPte pteStep
  dsimp only
  rw [translateLeaf_eq]
  split
  · rfl
  · split
    · rcases leafAddress state.request.virtualAddress state.level pte with _ | physicalAddress
      · rfl
      · dsimp only
        rcases state.request.permissionsAllow (pteFlags pte)
        · rfl
        · simp only [Bool.not_true, Bool.false_eq_true, if_false, if_true]
          split <;> rfl
    · rcases nonleafFlagsValid (pteFlags pte)
      · rfl
      · rcases hlevel : state.level with _ | nextLevel
        · rfl
        · simp [WalkState.descend, hlevel]

/-! ## The steps of a walk -/

/-- The result of a walk that ends; a drained one has no answer. -/
def ended (drainOnly : Bool) (result : StepResult) : StepResult :=
  if drainOnly then .drained else result

/-- The write of the access bits of a leaf, in a walker whose walk `state` has found it. -/
inductive LeafWrite (walker : PageWalker) (bus : β) (state : WalkState)
    (physicalAddress flags value : U32) (drainOnly : Bool) : StepResult → PageWalker → β → Prop
  | done {b : β} (store : Bus.store32 bus (state.pteAddress.setWidth 64) value = (.ok (), b)) :
      LeafWrite walker bus state physicalAddress flags value drainOnly
        (ended drainOnly (.ready physicalAddress))
        (walker.filled drainOnly state flags physicalAddress) b
  | busy {b : β} {n : U32}
      (store : Bus.store32 bus (state.pteAddress.setWidth 64) value = (.error (.busy n), b)) :
      LeafWrite walker bus state physicalAddress flags value drainOnly .stall walker b
  | failed {b : β} {error : BusError} (notBusy : error.isBusy = false)
      (store : Bus.store32 bus (state.pteAddress.setWidth 64) value = (.error error, b)) :
      LeafWrite walker bus state physicalAddress flags value drainOnly
        (ended drainOnly (.fault state.request.accessFault)) { walker with active := none } b

theorem finishLeafUpdate_cases (walker : PageWalker) (bus : β) (state : WalkState)
    (physicalAddress flags value : U32) (drainOnly : Bool) :
    ∃ result w b, walker.finishLeafUpdate bus state physicalAddress flags value drainOnly =
        (.ok result, w, b) ∧
      LeafWrite walker bus state physicalAddress flags value drainOnly result w b := by
  unfold finishLeafUpdate
  rcases hstore : Bus.store32 bus (state.pteAddress.setWidth 64) value with ⟨error | _, b⟩
  · cases error with
    | busy n => exact ⟨_, _, _, rfl, .busy hstore⟩
    | _ => exact ⟨_, _, _, rfl, .failed rfl hstore⟩
  · exact ⟨_, _, _, rfl, .done hstore⟩

/-- One step of the walk `state`: it reads a PTE, or writes the leaf it has found, or both. -/
inductive WalkStep (walker : PageWalker) (bus : β) (state : WalkState) (drainOnly : Bool) :
    StepResult → PageWalker → β → Prop
  | write {physicalAddress flags value : U32} {result : StepResult} {w : PageWalker} {b : β}
      (phase : state.phase = .writeLeaf physicalAddress flags value)
      (leaf : LeafWrite walker bus state physicalAddress flags value drainOnly result w b) :
      WalkStep walker bus state drainOnly result w b
  | busy {b : β} {n : U32} (phase : state.phase = .readPte)
      (load : Bus.load32 bus (state.pteAddress.setWidth 64) = (.error (.busy n), b)) :
      WalkStep walker bus state drainOnly .stall walker b
  | failed {b : β} {error : BusError} (phase : state.phase = .readPte)
      (notBusy : error.isBusy = false)
      (load : Bus.load32 bus (state.pteAddress.setWidth 64) = (.error error, b)) :
      WalkStep walker bus state drainOnly (ended drainOnly (.fault state.request.accessFault))
        { walker with active := none } b
  | fault {b : β} {pte : U32} (phase : state.phase = .readPte)
      (load : Bus.load32 bus (state.pteAddress.setWidth 64) = (.ok pte, b))
      (meaning : pteStep state.request state.level pte = .fault) :
      WalkStep walker bus state drainOnly (ended drainOnly (.fault state.request.pageFault))
        { walker with active := none } b
  | table {b : β} {pte pteAddress : U32} (phase : state.phase = .readPte)
      (load : Bus.load32 bus (state.pteAddress.setWidth 64) = (.ok pte, b))
      (meaning : pteStep state.request state.level pte = .table pteAddress) :
      WalkStep walker bus state drainOnly .drained
        { walker with active := some (state.descend pte pteAddress) } b
  | leaf {b : β} {pte physicalAddress : U32} (phase : state.phase = .readPte)
      (load : Bus.load32 bus (state.pteAddress.setWidth 64) = (.ok pte, b))
      (meaning : pteStep state.request state.level pte = .leaf physicalAddress)
      (accessed : state.request.needsAccessBitUpdate (pteFlags pte) = false) :
      WalkStep walker bus state drainOnly (ended drainOnly (.ready physicalAddress))
        (walker.filled drainOnly state (pteFlags pte) physicalAddress) b
  | update {b b' : β} {pte physicalAddress : U32} {result : StepResult} {w : PageWalker}
      (phase : state.phase = .readPte)
      (load : Bus.load32 bus (state.pteAddress.setWidth 64) = (.ok pte, b))
      (meaning : pteStep state.request state.level pte = .leaf physicalAddress)
      (needed : state.request.needsAccessBitUpdate (pteFlags pte) = true)
      (leaf : LeafWrite { walker with active := some (state.writing physicalAddress pte) } b
        (state.writing physicalAddress pte) physicalAddress
        (state.request.updatedFlags (pteFlags pte))
        (TranslationRequest.updatedPte pte state.request) drainOnly result w b') :
      WalkStep walker bus state drainOnly result w b'

/-- **The cases of a step.** -/
theorem step_cases (walker : PageWalker) (bus : β) (state : WalkState) (drainOnly : Bool) :
    ∃ result w b, walker.step bus state drainOnly = (.ok result, w, b) ∧
      WalkStep walker bus state drainOnly result w b := by
  unfold step
  rcases hphase : state.phase with _ | ⟨physicalAddress, flags, value⟩
  · dsimp only
    rcases hload : Bus.load32 bus (state.pteAddress.setWidth 64) with ⟨error | pte, b⟩
    · cases error with
      | busy n => exact ⟨_, _, _, rfl, .busy hphase hload⟩
      | _ => exact ⟨_, _, _, rfl, .failed hphase rfl hload⟩
    · simp only [stepPte_eq]
      rcases hmeaning : pteStep state.request state.level pte with _ | physicalAddress | pteAddress
      · exact ⟨_, _, _, rfl, .fault hphase hload hmeaning⟩
      · dsimp only
        split
        · next hneeded =>
          obtain ⟨result, w, b', heq, hleaf⟩ := finishLeafUpdate_cases
            { walker with active := some (state.writing physicalAddress pte) } b
            (state.writing physicalAddress pte) physicalAddress
            (state.request.updatedFlags (pteFlags pte))
            (TranslationRequest.updatedPte pte state.request) drainOnly
          exact ⟨result, w, b', heq, .update hphase hload hmeaning hneeded hleaf⟩
        · next hneeded =>
          exact ⟨_, _, _, rfl, .leaf hphase hload hmeaning (by simpa using hneeded)⟩
      · exact ⟨_, _, _, rfl, .table hphase hload hmeaning⟩
  · obtain ⟨result, w, b, heq, hleaf⟩ :=
      walker.finishLeafUpdate_cases bus state physicalAddress flags value drainOnly
    exact ⟨result, w, b, heq, .write hphase hleaf⟩

section

variable {walker w : PageWalker} {bus b : β} {state : WalkState} {drainOnly : Bool}
  {result : StepResult}

/-- A walk stays with its request. -/
theorem WalkStep.request_eq (h : WalkStep walker bus state drainOnly result w b)
    (hactive : walker.active = some state) {state' : WalkState} (hactive' : w.active = some state') :
    state'.request = state.request := by
  have same : walker.active = some state' → state'.request = state.request := by
    intro hsame
    rw [Option.some.inj (hactive.symm.trans hsame)]
  -- a leaf write ends the walk, or leaves it
  have write : ∀ {walker w : PageWalker} {bus b : β} {s : WalkState} {pa flags value : U32},
      LeafWrite walker bus s pa flags value drainOnly result w b → w.active = some state' →
      walker.active = some state' := by
    intro walker w bus b s pa flags value leaf hactive'
    cases leaf with
    | done => cases hactive'
    | busy => exact hactive'
    | failed => cases hactive'
  cases h with
  | write _ leaf => exact same (write leaf hactive')
  | busy => exact same hactive'
  | failed => cases hactive'
  | fault => cases hactive'
  | table =>
    obtain rfl := Option.some.inj hactive'
    rfl
  | leaf => cases hactive'
  | update _ _ _ _ leaf =>
    obtain rfl := Option.some.inj (write leaf hactive')
    rfl

/-- A drained walk has no answer. -/
theorem WalkStep.answer_of_drain (h : WalkStep walker bus state true result w b) :
    result.answer = none := by
  have write : ∀ {walker w : PageWalker} {bus b : β} {s : WalkState} {pa flags value : U32},
      LeafWrite walker bus s pa flags value true result w b → result.answer = none := by
    intro walker w bus b s pa flags value leaf
    cases leaf <;> rfl
  cases h with
  | write _ leaf => exact write leaf
  | update _ _ _ _ leaf => exact write leaf
  | _ => rfl

/-- A drained walk leaves the TLB alone. -/
theorem WalkStep.tlb_of_drain (h : WalkStep walker bus state true result w b) :
    w.tlb = walker.tlb := by
  have write : ∀ {walker w : PageWalker} {bus b : β} {s : WalkState} {pa flags value : U32},
      LeafWrite walker bus s pa flags value true result w b → w.tlb = walker.tlb := by
    intro walker w bus b s pa flags value leaf
    cases leaf <;> rfl
  cases h with
  | write _ leaf => exact write leaf
  | update _ _ _ _ leaf => have h := write leaf; exact h
  | _ => rfl

end

/-! ## The calls of the walker -/

section Rule

variable {request : TranslationRequest} {I S : PageWalker → β → Prop}
  {A : TranslationResult → PageWalker → β → Prop}

/-- What a call leads to: `S` after a stall, and `A` with any other answer. -/
def Outcome (S : PageWalker → β → Prop) (A : TranslationResult → PageWalker → β → Prop)
    (called : Except BusError TranslationResult × PageWalker × β) : Prop :=
  ∃ answer, called.1 = .ok answer ∧ (answer = .stall → S called.2.1 called.2.2) ∧
    (answer ≠ .stall → A answer called.2.1 called.2.2)

omit [Bus β] in
theorem outcome_continueWalk
    {retry : PageWalker → β → Except BusError TranslationResult × PageWalker × β}
    {result : StepResult} {w : PageWalker} {b : β}
    (hretry : result = .drained → Outcome S A (retry w b)) (hstall : result = .stall → S w b)
    (hA : ∀ answer ∈ result.answer, A answer w b) :
    Outcome S A (continueWalk retry (.ok result, w, b)) := by
  cases result with
  | stall => exact ⟨.stall, rfl, fun _ => hstall rfl, fun h => absurd rfl h⟩
  | drained => exact hretry rfl
  | ready physicalAddress => exact ⟨_, rfl, nofun, fun _ => hA _ rfl⟩
  | fault trap => exact ⟨_, rfl, nofun, fun _ => hA _ rfl⟩

omit [Bus β] in
theorem outcome_continueDrain
    {retry : PageWalker → β → Except BusError TranslationResult × PageWalker × β}
    {result : StepResult} {w : PageWalker} {b : β}
    (hretry : result = .drained → Outcome S A (retry w b)) (hstall : result = .stall → S w b)
    (hnone : result.answer = none) : Outcome S A (continueDrain retry (.ok result, w, b)) := by
  cases result with
  | drained => exact hretry rfl
  | stall => exact ⟨.stall, rfl, fun _ => hstall rfl, fun h => absurd rfl h⟩
  | ready physicalAddress => cases hnone
  | fault trap => cases hnone

/-- **The rule of `translate`**: `I` is kept by every step after which the call goes on and by the start
of a new walk, a stall has the property `S`, and every other answer has the property `A`. -/
theorem translateLoop_outcome
    (hstep : ∀ w b state w' b', I w b → w.active = some state →
      WalkStep w b state (decide (state.request ≠ request)) .drained w' b' → I w' b')
    (hstall : ∀ w b state w' b', I w b → w.active = some state →
      WalkStep w b state (decide (state.request ≠ request)) .stall w' b' → S w' b')
    (hanswer : ∀ w b state result w' b', I w b → w.active = some state → state.request = request →
      translationEnabled request.satp request.privilege = true →
      WalkStep w b state false result w' b' → ∀ answer ∈ result.answer, A answer w' b')
    (hstart : ∀ w b, I w b → w.active = none →
      translationEnabled request.satp request.privilege = true → w.lookupTlb request = none →
      I { w with active := some request.start } b)
    (hlookup : ∀ w b answer, I w b → w.active = none →
      translationEnabled request.satp request.privilege = true →
      w.lookupTlb request = some answer → A answer w b)
    (hdisabled : ∀ w b, I w b → (∀ state, w.active = some state → state.request = request) →
      translationEnabled request.satp request.privilege = false →
      A (.physicalAddress request.virtualAddress) w b)
    (hlast : ∀ w b, I w b → S w b) (fuel : Nat) {walker : PageWalker} {bus : β}
    (hI : I walker bus) : Outcome S A (translateLoop request fuel walker bus) := by
  -- the steps of the own walk, and what follows them
  have own : ∀ {fuel : Nat} {w : PageWalker} {b : β} {state : WalkState},
      (∀ {w b}, I w b → Outcome S A (translateLoop request fuel w b)) → I w b →
      w.active = some state → state.request = request →
      translationEnabled request.satp request.privilege = true →
      Outcome S A (continueWalk (translateLoop request fuel) (w.step b state false)) := by
    intro fuel w b state ih hI hactive hrequest henabled
    obtain ⟨result, w', b', heq, step⟩ := w.step_cases b state false
    rw [heq]
    refine outcome_continueWalk ?_ ?_ (hanswer _ _ _ _ _ _ hI hactive hrequest henabled step)
    · rintro rfl
      exact ih (hstep _ _ _ _ _ hI hactive (by simpa [hrequest] using step))
    · rintro rfl
      exact hstall _ _ _ _ _ hI hactive (by simpa [hrequest] using step)
  induction fuel generalizing walker bus with
  | zero => exact ⟨.stall, rfl, fun _ => hlast _ _ hI, fun h => absurd rfl h⟩
  | succ fuel ih =>
    unfold translateLoop
    rcases hactive : walker.active with _ | state
    · dsimp only
      rcases henabled : translationEnabled request.satp request.privilege
      · exact ⟨_, rfl, fun h => (by cases h), fun _ => hdisabled _ _ hI (by simp [hactive]) henabled⟩
      · rcases hlookup' : walker.lookupTlb request with _ | answer
        · exact own ih (hstart _ _ hI hactive henabled hlookup') rfl rfl henabled
        · exact ⟨_, rfl, fun _ => hlast _ _ hI, fun _ => hlookup _ _ _ hI hactive henabled hlookup'⟩
    · dsimp only
      split
      · next hother =>
        obtain ⟨result, w', b', heq, step⟩ := walker.step_cases bus state true
        rw [heq]
        refine outcome_continueDrain ?_ ?_ step.answer_of_drain
        · rintro rfl
          exact ih (hstep _ _ _ _ _ hI hactive (by simpa [hother] using step))
        · rintro rfl
          exact hstall _ _ _ _ _ hI hactive (by simpa [hother] using step)
      · next hsame =>
        rcases henabled : translationEnabled request.satp request.privilege
        · refine ⟨_, rfl, fun h => (by cases h),
            fun _ => hdisabled _ _ hI (fun state' hactive' => ?_) henabled⟩
          rw [← Option.some.inj (hactive.symm.trans hactive')]
          exact not_not.mp hsame
        · exact own ih hI hactive (not_not.mp hsame) henabled

/-- A call keeps `I`, and its answer has the property `A` unless it is a stall. -/
def Answers (I : PageWalker → β → Prop) (A : TranslationResult → PageWalker → β → Prop)
    (called : Except BusError TranslationResult × PageWalker × β) : Prop :=
  I called.2.1 called.2.2 ∧
    ∀ answer, called.1 = .ok answer → answer ≠ .stall → A answer called.2.1 called.2.2

omit [Bus β] in
/-- A call that keeps `I` whatever it answers. -/
theorem Outcome.answers {called : Except BusError TranslationResult × PageWalker × β}
    (h : Outcome I (fun answer w b => I w b ∧ A answer w b) called) : Answers I A called := by
  obtain ⟨answer, heq, hstall, hanswer⟩ := h
  refine ⟨?_, fun answer' heq' hne => ?_⟩
  · by_cases hne : answer = .stall
    · exact hstall hne
    · exact (hanswer hne).1
  · obtain rfl := Except.ok.inj (heq.symm.trans heq')
    exact (hanswer hne).2

/-- **The invariant rule of `translate`**: `I` is kept by every step of a walk and by the start of a
new one, and every answer but a stall has the property `A`. -/
theorem translateLoop_rule
    (hstep : ∀ w b state result w' b', I w b → w.active = some state →
      WalkStep w b state (decide (state.request ≠ request)) result w' b' → I w' b')
    (hanswer : ∀ w b state result w' b', I w b → w.active = some state → state.request = request →
      translationEnabled request.satp request.privilege = true →
      WalkStep w b state false result w' b' → ∀ answer ∈ result.answer, A answer w' b')
    (hstart : ∀ w b, I w b → w.active = none →
      translationEnabled request.satp request.privilege = true → w.lookupTlb request = none →
      I { w with active := some request.start } b)
    (hlookup : ∀ w b answer, I w b → w.active = none →
      translationEnabled request.satp request.privilege = true →
      w.lookupTlb request = some answer → A answer w b)
    (hdisabled : ∀ w b, I w b → (∀ state, w.active = some state → state.request = request) →
      translationEnabled request.satp request.privilege = false →
      A (.physicalAddress request.virtualAddress) w b)
    (fuel : Nat) {walker : PageWalker} {bus : β} (hI : I walker bus) :
    Answers I A (translateLoop request fuel walker bus) := by
  refine (translateLoop_outcome (fun w b state w' b' => hstep w b state _ w' b')
    (fun w b state w' b' => hstep w b state _ w' b') ?_ hstart ?_ ?_ (fun _ _ h => h) fuel hI).answers
  · intro w b state result w' b' hI hactive hrequest henabled step answer hanswer'
    exact ⟨hstep _ _ _ _ _ _ hI hactive (by simpa [hrequest] using step),
      hanswer _ _ _ _ _ _ hI hactive hrequest henabled step answer hanswer'⟩
  · exact fun w b answer hI hactive henabled h => ⟨hI, hlookup w b answer hI hactive henabled h⟩
  · exact fun w b hI hactive hdisabled' => ⟨hI, hdisabled w b hI hactive hdisabled'⟩

end Rule

/-- Every call answers: a failed access of a walk is a fault. -/
theorem translateLoop_ok (request : TranslationRequest) (fuel : Nat) (walker : PageWalker) (bus : β) :
    ∃ answer, (translateLoop request fuel walker bus).1 = .ok answer := by
  obtain ⟨answer, h, -⟩ : Outcome (fun _ _ => True) (fun _ _ _ => True)
      (translateLoop request fuel walker bus) :=
    translateLoop_outcome (I := fun _ _ => True) (by simp) (by simp) (by simp) (by simp) (by simp)
      (by simp) (by simp) fuel trivial
  exact ⟨answer, h⟩

theorem translate_ok (walker : PageWalker) (bus : β) (csrs : CsrFile) (privilege : PrivilegeMode)
    (virtualAddress : U32) (access : MemoryAccess) :
    ∃ answer, (walker.translate bus csrs privilege virtualAddress access).1 = .ok answer :=
  translateLoop_ok _ _ _ _

end PageWalker

end RvSim
