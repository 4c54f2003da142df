import RvSim.Mmu.Entry
import RvSim.System.Scheduled

/-!
# Translations that are resumed

A call that the bus suspends is made again with the walker it has left. Whatever the busy answers, the
calls together do what one call does on a bus that is never busy; and a call that has found an address
finds it again, without any access.

## Main definitions

* `PageWalker.Missed`: a walk in progress is one that the TLB could not answer
* `PageWalker.Serves`: the walker answers a request without any access
* `need`: the rounds of `translate` that suffice

## Main results

* `translate_resumes`: a suspended call goes on as a call on the calm bus
* `Serves.translate`: a call that has found an address finds it again
-/

namespace RvSim

namespace PageWalker

section Loop

variable {β : Type} [Bus β] {request : TranslationRequest} {walker w : PageWalker} {bus b : β}
  {state : WalkState} {drainOnly : Bool} {result : StepResult} {fuel : Nat}

/-! ## The rounds of a call -/

theorem translateLoop_other (hactive : walker.active = some state) (h : state.request ≠ request) :
    translateLoop request (fuel + 1) walker bus =
      continueDrain (translateLoop request fuel) (walker.step bus state true) := by
  simp [translateLoop, hactive, h]

theorem translateLoop_own (hactive : walker.active = some state) (h : state.request = request)
    (henabled : translationEnabled request.satp request.privilege = true) :
    translateLoop request (fuel + 1) walker bus =
      continueWalk (translateLoop request fuel) (walker.step bus state false) := by
  simp [translateLoop, hactive, h, henabled]

theorem translateLoop_start (hactive : walker.active = none)
    (henabled : translationEnabled request.satp request.privilege = true)
    (hlookup : walker.lookupTlb request = none) :
    translateLoop request (fuel + 1) walker bus =
      continueWalk (translateLoop request fuel)
        ({ walker with active := some request.start }.step bus request.start false) := by
  simp only [translateLoop, hactive, henabled, hlookup]
  rfl

theorem translateLoop_hit {answer : TranslationResult} (hactive : walker.active = none)
    (henabled : translationEnabled request.satp request.privilege = true)
    (hlookup : walker.lookupTlb request = some answer) :
    translateLoop request (fuel + 1) walker bus = (.ok answer, walker, bus) := by
  simp [translateLoop, hactive, henabled, hlookup]

theorem translateLoop_disabled
    (hactive : ∀ state, walker.active = some state → state.request = request)
    (hdisabled : translationEnabled request.satp request.privilege = false) :
    translateLoop request (fuel + 1) walker bus =
      (.ok (.physicalAddress request.virtualAddress), walker, bus) := by
  rcases h : walker.active with _ | state
  · simp [translateLoop, h, hdisabled]
  · simp [translateLoop, h, hdisabled, hactive state h]

/-- The rounds that a call needs. -/
def need (request : TranslationRequest) (walker : PageWalker) : Nat :=
  match walker.active with
  | none => 2
  | some state => if state.request = request then state.level + 1 else state.level + 3

theorem need_of_none (h : walker.active = none) : need request walker = 2 := by
  simp [need, h]

theorem need_of_own (h : walker.active = some state) (hown : state.request = request) :
    need request walker = state.level + 1 := by
  simp [need, h, hown]

theorem need_of_other (h : walker.active = some state) (hother : state.request ≠ request) :
    need request walker = state.level + 3 := by
  simp [need, h, hother]

theorem need_pos (request : TranslationRequest) (walker : PageWalker) : 0 < need request walker := by
  unfold need
  split
  · omega
  · split <;> omega

theorem need_le_walkFuel (request : TranslationRequest) (walker : PageWalker) :
    need request walker ≤ walker.walkFuel := by
  unfold need walkFuel
  split
  · next h => simp [h]
  · next h => split <;> simp [h]

/-- A step that does not end a walk of its own comes to the next level. -/
theorem WalkStep.drained_own (h : WalkStep walker bus state false .drained w b) :
    ∃ state', w.active = some state' ∧ state'.request = state.request ∧
      state'.level + 1 = state.level := by
  have write : ∀ {walker w : PageWalker} {bus b : β} {s : WalkState} {pa flags value : U32},
      ¬ LeafWrite walker bus s pa flags value false .drained w b := by
    intro walker w bus b s pa flags value leaf
    cases leaf
  cases h with
  | write _ leaf => exact absurd leaf write
  | @table _ pte a _ _ meaning =>
    refine ⟨_, rfl, rfl, ?_⟩
    have := level_of_table meaning
    show state.level - 1 + 1 = state.level
    omega
  | update _ _ _ _ leaf => exact absurd leaf write

/-- A step that drains a walk ends it or comes to the next level. -/
theorem WalkStep.drained_other (h : WalkStep walker bus state true .drained w b) :
    w.active = none ∨ ∃ state', w.active = some state' ∧ state'.request = state.request ∧
      state'.level + 1 = state.level := by
  have write : ∀ {walker w : PageWalker} {bus b : β} {s : WalkState} {pa flags value : U32},
      LeafWrite walker bus s pa flags value true .drained w b → w.active = none := by
    intro walker w bus b s pa flags value leaf
    cases leaf <;> rfl
  cases h with
  | write _ leaf => exact .inl (write leaf)
  | @table _ pte a _ _ meaning =>
    refine .inr ⟨_, rfl, rfl, ?_⟩
    have := level_of_table meaning
    show state.level - 1 + 1 = state.level
    omega
  | update _ _ _ _ leaf => exact .inl (write leaf)
  | _ => exact .inl rfl

/-- A drained walk has no answer. -/
theorem WalkStep.result_of_drain (h : WalkStep walker bus state true result w b) :
    result = .stall ∨ result = .drained := by
  have write : ∀ {walker w : PageWalker} {bus b : β} {s : WalkState} {pa flags value : U32},
      LeafWrite walker bus s pa flags value true result w b → result = .stall ∨ result = .drained := by
    intro walker w bus b s pa flags value leaf
    cases leaf with
    | busy => exact .inl rfl
    | _ => exact .inr rfl
  cases h with
  | write _ leaf => exact write leaf
  | busy => exact .inl rfl
  | update _ _ _ _ leaf => exact write leaf
  | _ => exact .inr rfl

theorem need_of_drained_own (h : WalkStep walker bus state false .drained w b)
    (hown : state.request = request) : need request w + 1 = state.level + 1 := by
  obtain ⟨state', hactive, hrequest, hlevel⟩ := h.drained_own
  rw [need_of_own hactive (hrequest.trans hown)]
  omega

theorem need_of_drained_other (h : WalkStep walker bus state true .drained w b)
    (hother : state.request ≠ request) : need request w < state.level + 3 := by
  rcases h.drained_other with hnone | ⟨state', hactive, hrequest, hlevel⟩
  · rw [need_of_none hnone]
    omega
  · rw [need_of_other hactive (hrequest ▸ hother)]
    omega

/-- **More rounds than needed do not matter.** -/
theorem translateLoop_fuel (n : Nat) (hneed : need request walker ≤ n) {fuel fuel' : Nat}
    (hfuel : n ≤ fuel) (hfuel' : n ≤ fuel') :
    translateLoop request fuel walker bus = translateLoop request fuel' walker bus := by
  induction n generalizing walker bus fuel fuel' with
  | zero =>
    have := need_pos request walker
    omega
  | succ n ih =>
    obtain ⟨fuel, rfl⟩ : ∃ f, fuel = f + 1 := ⟨fuel - 1, by omega⟩
    obtain ⟨fuel', rfl⟩ : ∃ f, fuel' = f + 1 := ⟨fuel' - 1, by omega⟩
    -- a walk of the request itself, started before or now
    have own : ∀ {walker : PageWalker} {state : WalkState}, state.request = request →
        state.level ≤ n →
        continueWalk (translateLoop request fuel) (walker.step bus state false) =
          continueWalk (translateLoop request fuel') (walker.step bus state false) := by
      intro walker state hown hlevel
      obtain ⟨result, w, b, heq, step⟩ := walker.step_cases bus state false
      rw [heq]
      cases result with
      | drained =>
        have := need_of_drained_own step hown
        exact ih (by omega) (by omega) (by omega)
      | _ => rfl
    rcases hactive : walker.active with _ | state
    · rw [need_of_none hactive] at hneed
      rcases henabled : translationEnabled request.satp request.privilege with _ | _
      · rw [translateLoop_disabled (by simp [hactive]) henabled,
          translateLoop_disabled (by simp [hactive]) henabled]
      · rcases hlookup : walker.lookupTlb request with _ | answer
        · rw [translateLoop_start hactive henabled hlookup,
            translateLoop_start hactive henabled hlookup]
          exact own rfl (by simp [TranslationRequest.start]; omega)
        · rw [translateLoop_hit hactive henabled hlookup, translateLoop_hit hactive henabled hlookup]
    · by_cases hown : state.request = request
      · rw [need_of_own hactive hown] at hneed
        rcases henabled : translationEnabled request.satp request.privilege with _ | _
        · have hsame : ∀ s, walker.active = some s → s.request = request := fun s hs => by
            rw [← Option.some.inj (hactive.symm.trans hs)]
            exact hown
          rw [translateLoop_disabled hsame henabled, translateLoop_disabled hsame henabled]
        · rw [translateLoop_own hactive hown henabled, translateLoop_own hactive hown henabled]
          exact own hown (by omega)
      · rw [need_of_other hactive hown] at hneed
        rw [translateLoop_other hactive hown, translateLoop_other hactive hown]
        obtain ⟨result, w, b, heq, step⟩ := walker.step_cases bus state true
        rw [heq]
        rcases step.result_of_drain with rfl | rfl
        · rfl
        · have := need_of_drained_other step hown
          exact ih (by omega) (by omega) (by omega)

theorem translate_eq_loop {csrs : CsrFile} {privilege : PrivilegeMode} {virtualAddress : U32}
    {access : MemoryAccess}
    (hfuel : need (.of csrs privilege virtualAddress access) walker ≤ fuel) :
    walker.translate bus csrs privilege virtualAddress access =
      translateLoop (.of csrs privilege virtualAddress access) fuel walker bus :=
  translateLoop_fuel _ le_rfl (need_le_walkFuel _ _) hfuel

end Loop

/-! ## Calls on a scheduled bus -/

section Scheduled

variable {M : Type} [Bus M] [NeverBusy M] {request : TranslationRequest} {walker w : PageWalker}
  {b b' : Scheduled M} {state : WalkState} {drainOnly : Bool} {result : StepResult}

/-- A step on a bus that has been suspended and would go on as the calm bus does, or has been made as on
the calm bus. -/
inductive StepAttempt (walker : PageWalker) (b : Scheduled M) (state : WalkState) (drainOnly : Bool) :
    Except BusError StepResult × PageWalker × Scheduled M → Prop
  | suspended {w : PageWalker} {b' : Scheduled M} {state' : WalkState}
      (active : w.active = some state') (same : state'.request = state.request)
      (level : state'.level = state.level) (tlb : w.tlb = walker.tlb)
      (resumes : w.step b'.calm state' drainOnly = walker.step b.calm state drainOnly)
      (grows : b.log <+: b'.log) (less : b'.log = b.log → b'.busy < b.busy) :
      StepAttempt walker b state drainOnly (.ok .stall, w, b')
  | done {result : StepResult} {w : PageWalker} {b' : Scheduled M} (settled : result ≠ .stall)
      (eq : walker.step b.calm state drainOnly = (.ok result, w, b'.calm))
      (grows : b.Grows b') : StepAttempt walker b state drainOnly (.ok result, w, b')

theorem ended_ne_stall (h : result ≠ .stall) : ended drainOnly result ≠ .stall := by
  unfold ended
  split
  · simp
  · exact h

/-- The write of a leaf is suspended, or made as on the calm bus. -/
theorem finishLeafUpdate_attempt (walker : PageWalker) (b : Scheduled M) (state : WalkState)
    (pa flags value : U32) (drainOnly : Bool) :
    (∃ b', walker.finishLeafUpdate b state pa flags value drainOnly = (.ok .stall, walker, b') ∧
      b'.calm = b.calm ∧ b'.busy < b.busy) ∨
    (∃ result w b', walker.finishLeafUpdate b state pa flags value drainOnly = (.ok result, w, b') ∧
      result ≠ .stall ∧
      walker.finishLeafUpdate b.calm state pa flags value drainOnly = (.ok result, w, b'.calm) ∧
      b.Grows b') := by
  have attempt := b.attempts_store32 (state.pteAddress.setWidth 64) value
  unfold finishLeafUpdate
  rcases hstore : Bus.store32 b (state.pteAddress.setWidth 64) value with ⟨answer, b'⟩
  rw [hstore] at attempt
  cases attempt with
  | busy same less => exact .inl ⟨b', rfl, same, less⟩
  | done settled eq logged =>
    right
    rw [eq]
    rcases answer with error | _
    · cases error with
      | busy n => exact absurd rfl (settled n)
      | _ => exact ⟨_, _, _, rfl, ended_ne_stall (by simp), rfl, logged⟩
    · exact ⟨_, _, _, rfl, ended_ne_stall (by simp), rfl, logged⟩

/-- What the answer to the read of an entry leads to. -/
def afterRead (walker : PageWalker) (state : WalkState) (drainOnly : Bool) :
    Except BusError U32 × Scheduled M → Except BusError StepResult × PageWalker × Scheduled M
  | (.ok pte, b) => walker.stepPte b state pte drainOnly
  | (.error (.busy _), b) => (.ok .stall, walker, b)
  | (.error _, b) => walker.finish b drainOnly (.fault state.request.accessFault)

/-- **A step is suspended, or made as on the calm bus.** -/
theorem step_attempt (hactive : walker.active = some state) (b : Scheduled M) (drainOnly : Bool) :
    StepAttempt walker b state drainOnly (walker.step b state drainOnly) := by
  rcases hphase : state.phase with _ | ⟨pa, flags, value⟩
  · have attempt := b.attempts_load32 (state.pteAddress.setWidth 64)
    have hstep : ∀ b : Scheduled M, walker.step b state drainOnly =
        walker.afterRead state drainOnly (Bus.load32 b (state.pteAddress.setWidth 64)) := by
      intro b
      simp only [step, hphase]
      rcases Bus.load32 b (state.pteAddress.setWidth 64) with ⟨error | pte, b⟩
      · cases error <;> rfl
      · rfl
    rcases hload : Bus.load32 b (state.pteAddress.setWidth 64) with ⟨answer, b'⟩
    rw [hload] at attempt
    rw [hstep b, hload]
    cases attempt with
    | busy same less =>
      refine .suspended hactive rfl rfl rfl (by rw [same]) ?_ fun _ => less
      rw [← b'.calm_log, same]
      exact List.prefix_refl _
    | done settled eq grows =>
      have hcalm := hstep b.calm
      rw [eq] at hcalm
      rcases answer with error | pte
      · cases error with
        | busy n => exact absurd rfl (settled n)
        | _ => exact .done (ended_ne_stall (by simp)) hcalm grows
      · dsimp only [afterRead] at hcalm ⊢
        rw [stepPte_eq] at hcalm ⊢
        rcases hmeaning : pteStep state.request state.level pte with _ | pa | a
        · rw [hmeaning] at hcalm
          exact .done (ended_ne_stall (by simp)) hcalm grows
        · rw [hmeaning] at hcalm
          dsimp only at hcalm ⊢
          split
          · next needed =>
            rw [if_pos needed] at hcalm
            -- the leaf is found, and its access bits are written
            rcases finishLeafUpdate_attempt { walker with active := some (state.writing pa pte) } b'
                (state.writing pa pte) pa (state.request.updatedFlags (pteFlags pte))
                (TranslationRequest.updatedPte pte state.request) drainOnly with
              ⟨b₂, heq, same, less⟩ | ⟨result, w, b₂, heq, hresult, heq', grows'⟩
            · rw [heq]
              refine .suspended rfl rfl rfl rfl ?_ ?_ fun h => ?_
              · rw [same, hcalm]
                rfl
              · rw [← b₂.calm_log, same]
                exact grows.logPrefix
              · have := grows.length_lt
                rw [← b₂.calm_log, same, b'.calm_log] at h
                rw [h] at this
                omega
            · rw [heq]
              rw [heq'] at hcalm
              exact .done hresult hcalm (grows.trans_prefix grows'.logPrefix)
          · next accessed =>
            rw [if_neg accessed] at hcalm
            exact .done (ended_ne_stall (by simp)) hcalm grows
        · rw [hmeaning] at hcalm
          exact .done (by simp) hcalm grows
  · have hstep : ∀ b : Scheduled M, walker.step b state drainOnly =
        walker.finishLeafUpdate b state pa flags value drainOnly := by
      intro b
      simp only [step, hphase]
    rw [hstep b]
    rcases finishLeafUpdate_attempt walker b state pa flags value drainOnly with
      ⟨b', heq, same, less⟩ | ⟨result, w, b', heq, hresult, heq', grows⟩
    · rw [heq]
      refine .suspended hactive rfl rfl rfl (by rw [same]) ?_ fun _ => less
      rw [← b'.calm_log, same]
      exact List.prefix_refl _
    · rw [heq]
      exact .done hresult ((hstep b.calm).trans heq') grows

/-- What `translate` answers when the bus is busy. -/
def IsStall (answer : Except BusError TranslationResult) : Prop := answer = .ok .stall

/-- A call of `n` rounds has been suspended and goes on as on the calm bus, or has been made as on the
calm bus. -/
structure CallResumes (request : TranslationRequest) (n : Nat) (b : Scheduled M)
    (calmly out : Except BusError TranslationResult × PageWalker × Scheduled M) : Prop where
  done : ¬ IsStall out.1 → calmly = (out.1, out.2.1, out.2.2.calm)
  resumes : IsStall out.1 → need request out.2.1 ≤ n ∧
    translateLoop request n out.2.1 out.2.2.calm = calmly
  less : IsStall out.1 → out.2.2.log = b.log → out.2.2.busy < b.busy
  same : ¬ IsStall out.1 → out.2.2.log = b.log → out.2.2 = b
  grows : b.log <+: out.2.2.log

omit [NeverBusy M] in
theorem CallResumes.of_done {n : Nat} {answer : Except BusError TranslationResult}
    {calmly : Except BusError TranslationResult × PageWalker × Scheduled M}
    (h : ¬ IsStall answer) (heq : calmly = (answer, w, b'.calm)) (grows : b.Grows b') :
    CallResumes request n b calmly (answer, w, b') := by
  refine ⟨fun _ => heq, fun hstall => absurd hstall h, fun hstall => absurd hstall h,
    fun _ hlog => ?_, grows.logPrefix⟩
  have hlength := congrArg List.length hlog
  exact absurd hlength grows.length_lt.ne'

omit [NeverBusy M] in
/-- A call that has come a round further. -/
theorem CallResumes.after {n : Nat}
    {calmly out : Except BusError TranslationResult × PageWalker × Scheduled M}
    (h : CallResumes request n b' calmly out) (grows : b.Grows b') :
    CallResumes request (n + 1) b calmly out where
  done := h.done
  resumes hstall := by
    obtain ⟨hneed, heq⟩ := h.resumes hstall
    exact ⟨by omega, (translateLoop_fuel n hneed (by omega) le_rfl).trans heq⟩
  less hstall hlog := by
    have := (grows.trans_prefix h.grows).length_lt
    rw [hlog] at this
    omega
  same hstall hlog := by
    have := (grows.trans_prefix h.grows).length_lt
    rw [hlog] at this
    omega
  grows := (grows.trans_prefix h.grows).logPrefix

/-- A round of a walk of the request itself. -/
theorem callResumes_own {n : Nat} (hactive : walker.active = some state)
    (hown : state.request = request)
    (henabled : translationEnabled request.satp request.privilege = true) (hlevel : state.level ≤ n)
    (ih : ∀ (walker : PageWalker) (b : Scheduled M), need request walker ≤ n → CallResumes request n
      b (translateLoop request n walker b.calm) (translateLoop request n walker b))
    (b : Scheduled M) :
    CallResumes request (n + 1) b
      (continueWalk (translateLoop request n) (walker.step b.calm state false))
      (continueWalk (translateLoop request n) (walker.step b state false)) := by
  have attempt := step_attempt hactive b false
  obtain ⟨result, w, b', hstep, step⟩ := walker.step_cases b state false
  rw [hstep] at attempt ⊢
  cases attempt with
  | suspended active same level tlb resumes grows less =>
    refine ⟨fun hstall => absurd rfl hstall, fun _ => ⟨?_, ?_⟩, fun _ => less,
      fun hstall => absurd rfl hstall, grows⟩
    · show need request w ≤ n + 1
      rw [need_of_own active (same.trans hown)]
      omega
    · show translateLoop request (n + 1) w b'.calm = _
      rw [translateLoop_own active (same.trans hown) henabled, resumes]
  | done settled eq grows =>
    rw [eq]
    cases result with
    | stall => exact absurd rfl settled
    | drained =>
      have := need_of_drained_own step hown
      exact (ih w b' (by omega)).after grows
    | ready pa => exact .of_done (by simp [IsStall]) rfl grows
    | fault trap => exact .of_done (by simp [IsStall]) rfl grows

/-- **A suspended call goes on as on the calm bus.** -/
theorem translateLoop_resumes (n : Nat) (walker : PageWalker) (b : Scheduled M)
    (hneed : need request walker ≤ n) :
    CallResumes request n b (translateLoop request n walker b.calm)
      (translateLoop request n walker b) := by
  induction n generalizing walker b with
  | zero =>
    have := need_pos request walker
    omega
  | succ n ih =>
    -- a call that answers without a step answers the same on the calm bus
    have answered : ∀ {answer : Except BusError TranslationResult}, ¬ IsStall answer →
        translateLoop request (n + 1) walker b.calm = (answer, walker, b.calm) →
        translateLoop request (n + 1) walker b = (answer, walker, b) →
        CallResumes request (n + 1) b (translateLoop request (n + 1) walker b.calm)
          (translateLoop request (n + 1) walker b) := by
      intro answer hanswer hcalm hout
      rw [hcalm, hout]
      exact ⟨fun _ => rfl, fun hstall => absurd hstall hanswer, fun hstall => absurd hstall hanswer,
        fun _ _ => rfl, List.prefix_refl _⟩
    rcases hactive : walker.active with _ | state
    · rw [need_of_none hactive] at hneed
      rcases henabled : translationEnabled request.satp request.privilege with _ | _
      · exact answered (by simp [IsStall]) (translateLoop_disabled (by simp [hactive]) henabled)
          (translateLoop_disabled (by simp [hactive]) henabled)
      · rcases hlookup : walker.lookupTlb request with _ | answer
        · rw [translateLoop_start hactive henabled hlookup,
            translateLoop_start hactive henabled hlookup]
          have hlevel : request.start.level ≤ n := by
            show 1 ≤ n
            omega
          exact callResumes_own rfl rfl henabled hlevel ih b
        · refine answered ?_ (translateLoop_hit hactive henabled hlookup)
            (translateLoop_hit hactive henabled hlookup)
          obtain ⟨entry, -, -, gives⟩ := lookupTlb_gives hlookup
          rcases gives with ⟨-, -, rfl⟩ | ⟨-, rfl⟩ <;> simp [IsStall]
    · by_cases hown : state.request = request
      · rw [need_of_own hactive hown] at hneed
        rcases henabled : translationEnabled request.satp request.privilege with _ | _
        · have hsame : ∀ s, walker.active = some s → s.request = request := fun s hs => by
            rw [← Option.some.inj (hactive.symm.trans hs)]
            exact hown
          exact answered (by simp [IsStall]) (translateLoop_disabled hsame henabled)
            (translateLoop_disabled hsame henabled)
        · rw [translateLoop_own hactive hown henabled, translateLoop_own hactive hown henabled]
          exact callResumes_own hactive hown henabled (by omega) ih b
      -- the walk of another request is drained first
      · rw [need_of_other hactive hown] at hneed
        rw [translateLoop_other hactive hown, translateLoop_other hactive hown]
        have attempt := step_attempt hactive b true
        obtain ⟨result, w, b', hstep, step⟩ := walker.step_cases b state true
        rw [hstep] at attempt ⊢
        cases attempt with
        | suspended active same level tlb resumes grows less =>
          refine ⟨fun hstall => absurd rfl hstall, fun _ => ⟨?_, ?_⟩, fun _ => less,
            fun hstall => absurd rfl hstall, grows⟩
          · show need request w ≤ n + 1
            rw [need_of_other active (same ▸ hown)]
            omega
          · show translateLoop request (n + 1) w b'.calm = _
            rw [translateLoop_other active (same ▸ hown), resumes]
        | done settled eq grows =>
          rw [eq]
          rcases step.result_of_drain with rfl | rfl
          · exact absurd rfl settled
          · have := need_of_drained_other step hown
            exact (ih w b' (by omega)).after grows

end Scheduled

/-! ## Addresses that are found again -/

section Serves

variable {β : Type} [Bus β] {request : TranslationRequest} {walker w : PageWalker} {bus b : β}
  {state : WalkState} {drainOnly : Bool} {result : StepResult} {pa flags : U32}

/-- The entry answers the request of the walk with the address. -/
structure Answering (state : WalkState) (pa flags : U32) : Prop where
  allowed : state.request.permissionsAllow flags = true
  accessed : state.request.needsAccessBitUpdate flags = false
  translate : (state.entry flags pa).translate state.request = pa

/-- What every walker has: the walk in progress is of a request that the TLB could not answer, and a
leaf it has found answers it. -/
structure Missed (walker : PageWalker) : Prop where
  level : ∀ state, walker.active = some state → state.level ≤ 1
  enabled : ∀ state, walker.active = some state →
    translationEnabled state.request.satp state.request.privilege = true
  lookup : ∀ state, walker.active = some state → walker.lookupTlb state.request = none
  leaf : ∀ state pa flags value, walker.active = some state →
    state.phase = .writeLeaf pa flags value → Answering state pa flags

/-- The walker answers the request with the address, without any access. -/
structure Serves (walker : PageWalker) (request : TranslationRequest) (pa : U32) : Prop where
  idle : walker.active = none
  hit : translationEnabled request.satp request.privilege = true →
    walker.lookupTlb request = some (.physicalAddress pa)
  identity : translationEnabled request.satp request.privilege = false → pa = request.virtualAddress

theorem Serves.translateLoop (h : Serves walker request pa) (fuel : Nat) :
    translateLoop request (fuel + 1) walker bus = (.ok (.physicalAddress pa), walker, bus) := by
  rcases henabled : translationEnabled request.satp request.privilege with _ | _
  · rw [translateLoop_disabled (by simp [h.idle]) henabled, h.identity henabled]
  · exact translateLoop_hit h.idle henabled (h.hit henabled)

theorem Missed.of_idle (h : walker.active = none) : walker.Missed := by
  constructor <;> simp [h]

/-- What a leaf gives answers the request of its walk. -/
theorem Answering.of_leaf {pte : U32} (meaning : pteStep state.request state.level pte = .leaf pa)
    (hallow : state.request.permissionsAllow flags = state.request.permissionsAllow (pteFlags pte))
    (accessed : state.request.needsAccessBitUpdate flags = false) : Answering state pa flags := by
  obtain ⟨hleaf, hallowed⟩ := leafAddress_of_pteStep meaning
  refine ⟨hallow.trans hallowed, accessed, ?_⟩
  have heq : leafAddress state.request.virtualAddress state.level pte =
      some ((state.entry flags pa).translate state.request) := entry_translate hleaf
  rw [hleaf] at heq
  exact (Option.some.inj heq).symm

/-- A request the TLB cannot answer has only entries whose access bits have to be written. -/
theorem lookupEntries_eq_none {slots : List (Option TlbEntry)} {saw : Bool}
    (h : lookupEntries request slots saw = none) : saw = false ∧ ∀ entry, some entry ∈ slots →
      entry.matches request = true → request.permissionsAllow entry.flags = true ∧
        request.needsAccessBitUpdate entry.flags = true := by
  induction slots generalizing saw with
  | nil =>
    unfold lookupEntries at h
    rcases saw with _ | _
    · exact ⟨rfl, by simp⟩
    · cases h
  | cons slot slots ih =>
    rcases slot with _ | entry
    · unfold lookupEntries at h
      obtain ⟨hsaw, hslots⟩ := ih h
      exact ⟨hsaw, by simpa using hslots⟩
    · unfold lookupEntries at h
      split at h
      · next hmatch =>
        obtain ⟨hsaw, hslots⟩ := ih h
        refine ⟨hsaw, fun entry' hmem hmatch' => ?_⟩
        rcases List.mem_cons.mp hmem with heq | hmem
        · obtain rfl := Option.some.inj heq
          simp [hmatch'] at hmatch
        · exact hslots entry' hmem hmatch'
      · split at h
        · exact absurd (ih h).1 (by simp)
        · next hallowed =>
          split at h
          · next hneeds =>
            obtain ⟨hsaw, hslots⟩ := ih h
            refine ⟨hsaw, fun entry' hmem hmatch' => ?_⟩
            rcases List.mem_cons.mp hmem with heq | hmem
            · obtain rfl := Option.some.inj heq
              exact ⟨by simpa using hallowed, hneeds⟩
            · exact hslots entry' hmem hmatch'
          · cases h

theorem lookupEntries_none_of {slots : List (Option TlbEntry)}
    (h : ∀ entry, some entry ∈ slots → entry.matches request = true →
      request.permissionsAllow entry.flags = true ∧
        request.needsAccessBitUpdate entry.flags = true) :
    lookupEntries request slots false = none := by
  induction slots with
  | nil => rfl
  | cons slot slots ih =>
    have later := ih fun entry hmem => h entry (List.mem_cons_of_mem _ hmem)
    rcases slot with _ | entry
    · exact later
    · unfold lookupEntries
      rcases hmatch : entry.matches request with _ | _
      · exact later
      · obtain ⟨hallowed, hneeds⟩ := h entry List.mem_cons_self hmatch
        simpa [hallowed, hneeds] using later

/-- One entry that answers is enough, if the others that match have to be written. -/
theorem lookupEntries_eq_some {slots : List (Option TlbEntry)} {saw : Bool}
    (hslots : ∀ entry, some entry ∈ slots → entry.matches request = true →
      request.permissionsAllow entry.flags = true ∧
        (request.needsAccessBitUpdate entry.flags = false → entry.translate request = pa))
    (hhit : ∃ entry, some entry ∈ slots ∧ entry.matches request = true ∧
      request.needsAccessBitUpdate entry.flags = false) :
    lookupEntries request slots saw = some (.physicalAddress pa) := by
  induction slots generalizing saw with
  | nil =>
    obtain ⟨entry, hmem, -⟩ := hhit
    cases hmem
  | cons slot slots ih =>
    have later : (slot = none ∨ ∃ entry, slot = some entry ∧ (entry.matches request = false ∨
        request.needsAccessBitUpdate entry.flags = true)) →
        ∀ saw, lookupEntries request slots saw = some (.physicalAddress pa) := by
      intro hslot saw
      refine ih (fun entry hmem => hslots entry (List.mem_cons_of_mem _ hmem)) ?_
      obtain ⟨entry, hmem, hmatch, haccessed⟩ := hhit
      rcases List.mem_cons.mp hmem with heq | hmem
      · subst heq
        rcases hslot with hnone | ⟨entry', heq', hmiss⟩
        · cases hnone
        · obtain rfl := Option.some.inj heq'
          rcases hmiss with hmiss | hmiss
          · simp [hmatch] at hmiss
          · simp [haccessed] at hmiss
      · exact ⟨entry, hmem, hmatch, haccessed⟩
    rcases slot with _ | entry
    · exact later (.inl rfl) saw
    · unfold lookupEntries
      rcases hmatch : entry.matches request with _ | _
      · exact later (.inr ⟨entry, rfl, .inl hmatch⟩) saw
      · obtain ⟨hallowed, htranslate⟩ := hslots entry List.mem_cons_self hmatch
        rcases hneeds : request.needsAccessBitUpdate entry.flags with _ | _
        · simp [hallowed, htranslate hneeds]
        · simpa [hallowed] using later (.inr ⟨entry, rfl, .inr hneeds⟩) saw

/-- The entry that a walk leaves answers its request. -/
theorem lookupTlb_filled (hlevel : state.level ≤ 1) (hlookup : walker.lookupTlb state.request = none)
    (h : Answering state pa flags) :
    (walker.filled false state flags pa).lookupTlb state.request = some (.physicalAddress pa) := by
  obtain ⟨-, hslots⟩ := lookupEntries_eq_none hlookup
  refine lookupEntries_eq_some (fun entry hmem hmatch => ?_)
    ⟨state.entry flags pa, ?_, ?_, h.accessed⟩
  · rcases holds_filled (Vector.mem_toList_iff.mp hmem) with hold | ⟨-, rfl⟩
    · obtain ⟨hallowed, hneeds⟩ := hslots entry (Vector.mem_toList_iff.mpr hold) hmatch
      exact ⟨hallowed, fun haccessed => by simp [hneeds] at haccessed⟩
    · exact ⟨h.allowed, fun _ => h.translate⟩
  · have hset : (walker.filled false state flags pa).tlb =
        walker.tlb.set walker.nextTlbEntry (some (state.entry flags pa)) := by
      unfold filled
      rw [if_neg Bool.false_ne_true, walker.insertTlb_eq hlevel]
    rw [Vector.mem_toList_iff, hset]
    exact Vector.mem_set _
  · simp [TlbEntry.matches, WalkState.entry]

theorem Answering.writing {pte : U32} (meaning : pteStep state.request state.level pte = .leaf pa) :
    Answering state pa (state.request.updatedFlags (pteFlags pte)) :=
  .of_leaf meaning (permissionsAllow_updatedFlags _ _ _) (needsAccessBitUpdate_updatedFlags _ _)

/-- **Every step of a walk keeps it.** -/
theorem Missed.walkStep (h : walker.Missed) (hactive : walker.active = some state)
    (step : WalkStep walker bus state drainOnly result w b) : w.Missed := by
  have write : ∀ {walker : PageWalker} {bus b : β} {s : WalkState} {pa flags value : U32},
      walker.Missed → LeafWrite walker bus s pa flags value drainOnly result w b → w.Missed := by
    intro walker bus b s pa flags value h leaf
    cases leaf with
    | busy => exact h
    | _ => exact .of_idle rfl
  cases step with
  | write _ leaf => exact write h leaf
  | busy => exact h
  | @table _ pte a _ _ _ =>
    refine ⟨fun s hs => ?_, fun s hs => ?_, fun s hs => ?_, fun s pa flags value hs phase => ?_⟩
    all_goals obtain rfl := Option.some.inj hs
    · have hlevel : state.level - 1 ≤ 1 := by
        have := h.level state hactive
        omega
      exact hlevel
    · exact h.enabled state hactive
    · exact h.lookup state hactive
    · cases phase
  | @update _ _ pte pa _ _ _ _ meaning _ leaf =>
    have h' : ({ walker with active := some (state.writing pa pte) } : PageWalker).Missed := by
      refine ⟨fun s hs => ?_, fun s hs => ?_, fun s hs => ?_, fun s pa flags value hs phase => ?_⟩
      all_goals obtain rfl := Option.some.inj hs
      · exact h.level state hactive
      · exact h.enabled state hactive
      · exact h.lookup state hactive
      · obtain ⟨rfl, rfl, -⟩ := WalkPhase.writeLeaf.inj phase
        have answering := Answering.writing meaning
        exact ⟨answering.allowed, answering.accessed, answering.translate⟩
    exact write h' leaf
  | _ => exact .of_idle rfl

/-- A walk that answers leaves an entry that answers, too. -/
theorem Missed.serves_of_walkStep (h : walker.Missed) (hactive : walker.active = some state)
    (step : WalkStep walker bus state false result w b)
    (hanswer : .physicalAddress pa ∈ result.answer) : w.Serves state.request pa := by
  have henabled := h.enabled state hactive
  have filled : ∀ {walker : PageWalker} {s : WalkState} {pa flags : U32}, s.level ≤ 1 →
      s.request = state.request → walker.lookupTlb s.request = none → Answering s pa flags →
      (walker.filled false s flags pa).Serves state.request pa := by
    intro walker s pa flags hlevel hrequest hlookup answering
    refine ⟨rfl, fun _ => ?_, fun hdisabled => ?_⟩
    · rw [← hrequest]
      exact lookupTlb_filled hlevel hlookup answering
    · exact absurd (hdisabled.symm.trans henabled) Bool.false_ne_true
  -- a leaf that is written serves its request from the TLB
  have write : ∀ {walker : PageWalker} {bus b : β} {s : WalkState} {pa' flags value : U32},
      s.level ≤ 1 → s.request = state.request → walker.lookupTlb s.request = none →
      Answering s pa' flags → LeafWrite walker bus s pa' flags value false result w b →
      w.Serves state.request pa := by
    intro walker bus b s pa' flags value hlevel hrequest hlookup answering leaf
    cases leaf with
    | done =>
      obtain rfl := TranslationResult.physicalAddress.inj (Option.some.inj hanswer)
      exact filled hlevel hrequest hlookup answering
    | busy => cases hanswer
    | failed => cases hanswer
  cases step with
  | write phase leaf =>
    exact write (h.level state hactive) rfl (h.lookup state hactive)
      (h.leaf state _ _ _ hactive phase) leaf
  | busy => cases hanswer
  | failed => cases hanswer
  | fault => cases hanswer
  | table => cases hanswer
  | leaf _ _ meaning accessed =>
    obtain rfl := TranslationResult.physicalAddress.inj (Option.some.inj hanswer)
    exact filled (h.level state hactive) rfl (h.lookup state hactive) (.of_leaf meaning rfl accessed)
  | @update _ _ pte pa' _ _ _ _ meaning _ leaf =>
    have answering := Answering.writing meaning
    have answering' : Answering (state.writing pa' pte) pa'
        (state.request.updatedFlags (pteFlags pte)) :=
      ⟨answering.allowed, answering.accessed, answering.translate⟩
    have hlevel : (state.writing pa' pte).level ≤ 1 := h.level state hactive
    have hlookup : ({ walker with active := some (state.writing pa' pte) } : PageWalker).lookupTlb
        (state.writing pa' pte).request = none := h.lookup state hactive
    exact write hlevel rfl hlookup answering' leaf

/-- **A call keeps it, and an address it has found is served without any access.** -/
theorem Missed.translate (h : walker.Missed) (csrs : CsrFile) (privilege : PrivilegeMode)
    (virtualAddress : U32) (access : MemoryAccess) :
    Answers (fun w (_ : β) => w.Missed)
      (fun answer w _ => ∀ pa, answer = .physicalAddress pa →
        w.Serves (.of csrs privilege virtualAddress access) pa)
      (walker.translate bus csrs privilege virtualAddress access) := by
  refine translateLoop_rule ?_ ?_ ?_ ?_ ?_ _ h
  · rintro w b state result w' b' h hactive step
    exact h.walkStep hactive step
  · rintro w b state result w' b' h hactive hown - step answer hanswer pa rfl
    rw [← hown]
    exact h.serves_of_walkStep hactive step hanswer
  · rintro w b h - henabled hlookup
    refine ⟨fun s hs => ?_, fun s hs => ?_, fun s hs => ?_, fun s pa flags value hs phase => ?_⟩
    all_goals obtain rfl := Option.some.inj hs
    · exact le_refl 1
    · exact henabled
    · exact hlookup
    · cases phase
  · rintro w b answer h hidle henabled hlookup pa rfl
    refine ⟨hidle, fun _ => hlookup, fun hdisabled => ?_⟩
    exact absurd (hdisabled.symm.trans henabled) Bool.false_ne_true
  · rintro w b h hown hdisabled pa hpa
    refine ⟨?_, fun henabled => ?_, fun _ => (TranslationResult.physicalAddress.inj hpa).symm⟩
    · rcases hactive : w.active with _ | state
      · rfl
      · have henabled := h.enabled state hactive
        rw [hown state hactive] at henabled
        exact absurd (hdisabled.symm.trans henabled) Bool.false_ne_true
    · exact absurd (hdisabled.symm.trans henabled) Bool.false_ne_true

/-- A fence keeps it. -/
theorem Missed.flushFence (h : walker.Missed) (fence : TranslationFence) :
    (walker.flushFence fence).Missed := by
  have hactive := walker.flushFence_active fence
  refine ⟨fun s hs => h.level s (hactive ▸ hs), fun s hs => h.enabled s (hactive ▸ hs),
    fun s hs => ?_, fun s pa flags value hs phase => h.leaf s pa flags value (hactive ▸ hs) phase⟩
  obtain ⟨-, hslots⟩ := lookupEntries_eq_none (h.lookup s (hactive ▸ hs))
  refine lookupEntries_none_of fun entry hmem => hslots entry ?_
  exact Vector.mem_toList_iff.mpr (holds_flushFence (Vector.mem_toList_iff.mp hmem)).1

end Serves

end PageWalker

/-! ## Computations that are resumed -/

section Resumes

variable {M : Type} [Bus M] {α γ : Type}

/-- A computation that the bus can suspend, from a walker and a bus: made again, it goes on as on the
calm bus. -/
structure Resumes (Stalls : α → Prop) (f : PageWalker → Scheduled M → α × PageWalker × Scheduled M)
    (walker : PageWalker) (b : Scheduled M) : Prop where
  done : ¬ Stalls (f walker b).1 →
    f walker b.calm = ((f walker b).1, (f walker b).2.1, (f walker b).2.2.calm)
  resumes : Stalls (f walker b).1 → f (f walker b).2.1 (f walker b).2.2.calm = f walker b.calm
  less : Stalls (f walker b).1 → (f walker b).2.2.log = b.log → (f walker b).2.2.busy < b.busy
  same : ¬ Stalls (f walker b).1 → (f walker b).2.2.log = b.log → (f walker b).2.2 = b
  grows : b.log <+: (f walker b).2.2.log
  missed : (f walker b).2.1.Missed

variable {Stalls : α → Prop} {f : PageWalker → Scheduled M → α × PageWalker × Scheduled M}
  {walker : PageWalker}

omit [Bus M] in
/-- The calm bus does not suspend it. -/
theorem Resumes.calm_settled (h : ∀ walker b, walker.Missed → Resumes Stalls f walker b)
    (missed : walker.Missed) (b : Scheduled M) : ¬ Stalls (f walker b.calm).1 := by
  intro hstall
  have calm := h walker b.calm missed
  -- it would be suspended again, and again on the calm bus
  have again := h _ (f walker b.calm).2.2.calm calm.missed
  have heq := calm.resumes hstall
  rw [Scheduled.calm_calm] at heq
  have less := again.less
  rw [heq] at less
  exact absurd (less hstall rfl) (Nat.not_lt_zero _)

variable [NeverBusy M]

/-- **A suspended translation goes on as on the calm bus.** -/
theorem translate_resumes (csrs : CsrFile) (privilege : PrivilegeMode) (virtualAddress : U32)
    (access : MemoryAccess) (walker : PageWalker) (b : Scheduled M) (missed : walker.Missed) :
    Resumes PageWalker.IsStall
      (fun walker b => walker.translate b csrs privilege virtualAddress access) walker b := by
  have loop := PageWalker.translateLoop_resumes walker.walkFuel walker b
    (PageWalker.need_le_walkFuel (.of csrs privilege virtualAddress access) walker)
  refine ⟨loop.done, fun hstall => ?_, loop.less, loop.same, loop.grows,
    (missed.translate csrs privilege virtualAddress access).1⟩
  obtain ⟨hneed, heq⟩ := loop.resumes hstall
  exact (PageWalker.translate_eq_loop hneed).trans heq

omit [NeverBusy M] in
/-- An address that has been found is found again, without any access. -/
theorem translate_serves {csrs : CsrFile} {privilege : PrivilegeMode} {virtualAddress pa : U32}
    {access : MemoryAccess} {b : Scheduled M} (missed : walker.Missed)
    (h : (walker.translate b csrs privilege virtualAddress access).1 = .ok (.physicalAddress pa))
    (b' : Scheduled M) :
    (walker.translate b csrs privilege virtualAddress access).2.1.translate b' csrs privilege
        virtualAddress access =
      (.ok (.physicalAddress pa), (walker.translate b csrs privilege virtualAddress access).2.1,
        b') := by
  have serves := (missed.translate csrs privilege virtualAddress access).2 _ h (by simp) pa rfl
  exact serves.translateLoop _

/-- An access through the page walker, with what follows from each answer. -/
def accessThrough (csrs : CsrFile) (privilege : PrivilegeMode) (virtualAddress : U32)
    (kind : MemoryAccess) (access : U32 → Scheduled M → Except BusError γ × Scheduled M)
    (answered : Except BusError γ → α) (stalled : α) (faulted : Trap → α) (failed : BusError → α)
    (walker : PageWalker) (b : Scheduled M) : α × PageWalker × Scheduled M :=
  match walker.translate b csrs privilege virtualAddress kind with
  | (.ok (.physicalAddress pa), walker, b) =>
    (answered (access pa b).1, walker, (access pa b).2)
  | (.ok .stall, walker, b) => (stalled, walker, b)
  | (.ok (.fault trap), walker, b) => (faulted trap, walker, b)
  | (.error error, walker, b) => (failed error, walker, b)

omit [NeverBusy M] in
/-- What every answer of it has: the page walker never fails. -/
theorem accessThrough_answer {csrs : CsrFile} {privilege : PrivilegeMode} {virtualAddress : U32}
    {kind : MemoryAccess} {access : U32 → Scheduled M → Except BusError γ × Scheduled M}
    {answered : Except BusError γ → α} {stalled : α} {faulted : Trap → α} {failed : BusError → α}
    {P : α → Prop} (hstalled : P stalled) (hanswered : ∀ answer, P (answered answer))
    (hfaulted : ∀ trap, P (faulted trap)) (walker : PageWalker) (b : Scheduled M) :
    P (accessThrough csrs privilege virtualAddress kind access answered stalled faulted failed walker
      b).1 := by
  obtain ⟨answer, hanswer⟩ := walker.translate_ok b csrs privilege virtualAddress kind
  unfold accessThrough
  rcases ht : walker.translate b csrs privilege virtualAddress kind with ⟨r, w, b₁⟩
  rw [ht] at hanswer
  obtain rfl := hanswer
  rcases answer with pa | _ | trap
  · exact hanswered _
  · exact hstalled
  · exact hfaulted trap

/-- **A suspended access goes on as on the calm bus**, in whatever part of it the bus was busy. -/
theorem accessThrough_resumes {csrs : CsrFile} {privilege : PrivilegeMode} {virtualAddress : U32}
    {kind : MemoryAccess} {access : U32 → Scheduled M → Except BusError γ × Scheduled M}
    {answered : Except BusError γ → α} {stalled : α} {faulted : Trap → α} {failed : BusError → α}
    (hstalled : Stalls stalled) (hbusy : ∀ n, Stalls (answered (.error (.busy n))))
    (hanswered : ∀ answer, Settled answer → ¬ Stalls (answered answer))
    (hfaulted : ∀ trap, ¬ Stalls (faulted trap)) (hfailed : ∀ error, ¬ Stalls (failed error))
    (attempts : ∀ pa b, Scheduled.Attempts b (access pa b.calm) (access pa b))
    (walker : PageWalker) (b : Scheduled M) (missed : walker.Missed) :
    Resumes Stalls (accessThrough csrs privilege virtualAddress kind access answered stalled faulted
      failed) walker b := by
  have t := translate_resumes csrs privilege virtualAddress kind walker b missed
  have serves := @translate_serves M _ walker csrs privilege virtualAddress
  rcases ht : walker.translate b csrs privilege virtualAddress kind with ⟨r, w, b₁⟩
  -- an access that ends behind the translation, with an answer of its own
  have ended : ∀ {answer : α}, ¬ PageWalker.IsStall r → ¬ Stalls answer →
      accessThrough csrs privilege virtualAddress kind access answered stalled faulted failed walker
        b = (answer, w, b₁) →
      accessThrough csrs privilege virtualAddress kind access answered stalled faulted failed walker
        b.calm = (answer, w, b₁.calm) →
      Resumes Stalls (accessThrough csrs privilege virtualAddress kind access answered stalled faulted
        failed) walker b := by
    intro answer hr hanswer heq hcalm
    have hsame := t.same
    have hgrows := t.grows
    have hmissed := t.missed
    rw [ht] at hsame hgrows hmissed
    exact ⟨by rw [heq, hcalm]; exact fun _ => rfl, by rw [heq]; exact fun h => absurd h hanswer,
      by rw [heq]; exact fun h => absurd h hanswer, by rw [heq]; exact fun _ => hsame hr,
      by rw [heq]; exact hgrows, by rw [heq]; exact hmissed⟩
  rcases r with error | ⟨pa | _ | trap⟩
  -- the bus of the page table fails
  · have hcalm := t.done (by rw [ht]; simp [PageWalker.IsStall])
    rw [ht] at hcalm
    refine ended (by simp [PageWalker.IsStall]) (hfailed error) ?_ ?_
    · simp only [accessThrough, ht]
    · simp only [accessThrough, hcalm]
  · -- the address is found; it is found again when the access is made again
    have hcalm := t.done (by rw [ht]; simp [PageWalker.IsStall])
    have hsame := t.same (by rw [ht]; simp [PageWalker.IsStall])
    have hgrows := t.grows
    have hmissed := t.missed
    have hagain := serves missed (by rw [ht])
    rw [ht] at hcalm hsame hgrows hmissed hagain
    dsimp only at hcalm hsame hgrows hmissed hagain
    have attempt := attempts pa b₁
    rcases haccess : access pa b₁ with ⟨answer, b₂⟩
    have heq : accessThrough csrs privilege virtualAddress kind access answered stalled faulted failed
        walker b = (answered answer, w, b₂) := by simp only [accessThrough, ht, haccess]
    rw [haccess] at attempt
    cases attempt with
    | @busy n _ same less =>
      -- a busy access leaves the log, so that only the translation can have come further
      have hlog : b₂.log = b₁.log := by rw [← b₂.calm_log, same, b₁.calm_log]
      refine ⟨?_, fun _ => ?_, fun _ h => ?_, ?_, ?_, ?_⟩
      · rw [heq]
        exact fun h => absurd (hbusy n) h
      · rw [heq]
        simp only [accessThrough, hcalm, same, hagain b₁.calm]
      · rw [heq] at h ⊢
        have hb : b₁ = b := hsame (hlog.symm.trans h)
        exact hb ▸ less
      · rw [heq]
        exact fun h => absurd (hbusy n) h
      · rw [heq]
        exact hlog ▸ hgrows
      · rw [heq]
        exact hmissed
    | done settled eq grows =>
      refine ⟨fun _ => ?_, ?_, ?_, fun _ h => ?_, ?_, ?_⟩
      · rw [heq]
        simp only [accessThrough, hcalm, eq]
      · rw [heq]
        exact fun h => absurd h (hanswered _ settled)
      · rw [heq]
        exact fun h => absurd h (hanswered _ settled)
      · rw [heq] at h
        have hlength := congrArg List.length h
        have := hgrows.length_le
        exact absurd hlength (by
          have := grows.length_lt
          show b₂.log.length ≠ b.log.length
          omega)
      · rw [heq]
        exact hgrows.trans grows.logPrefix
      · rw [heq]
        exact hmissed
  -- the translation itself is suspended, and so is the access
  · have heq : accessThrough csrs privilege virtualAddress kind access answered stalled faulted failed
        walker b = (stalled, w, b₁) := by simp only [accessThrough, ht]
    have hresumes := t.resumes (by rw [ht]; rfl)
    have hless := t.less (by rw [ht]; rfl)
    have hgrows := t.grows
    have hmissed := t.missed
    rw [ht] at hresumes hless hgrows hmissed
    refine ⟨?_, fun _ => ?_, ?_, ?_, ?_, ?_⟩
    · rw [heq]
      exact fun h => absurd hstalled h
    · rw [heq]
      simp only [accessThrough, hresumes]
    · rw [heq]
      exact fun _ => hless
    · rw [heq]
      exact fun h => absurd hstalled h
    · rw [heq]
      exact hgrows
    · rw [heq]
      exact hmissed
  · have hcalm := t.done (by rw [ht]; simp [PageWalker.IsStall])
    rw [ht] at hcalm
    refine ended (by simp [PageWalker.IsStall]) (hfaulted trap) ?_ ?_
    · simp only [accessThrough, ht]
    · simp only [accessThrough, hcalm]

end Resumes

end RvSim
