import RvSim.Mmu.Reads
import RvSim.Mmu.Resume

/-!
# Translations end

`translate` is a loop around `step`, which calls itself once it has found a leaf. Here both are written
with the ways they could go wrong: the `expect` of `step`, the `unreachable!()` behind a drained walk,
and a loop without an end. None of them is reached, whatever the page tables hold and the bus answers.

## Main definitions

* `WalkPanic`, `PageWalker.stepActive`, `PageWalker.round`, `PageWalker.loop`: the loop of the source
* `PageWalker.RoundCase`: everything a round can do
* `PageWalker.Walking`: the walk in progress is at level 0 or 1, for a request that is translated
* `Counted`: a bus with the number of its accesses

## Main results

* `PageWalker.round_cases`: no round fails to return
* `PageWalker.loop_eq_translateLoop`: the loop is that of `translate`
* `PageWalker.translate_ends`: a call ends within four rounds and six accesses
-/

namespace RvSim

/-- What keeps a call from returning. -/
inductive WalkPanic
  /-- `step` expects an active walk -/
  | noActive
  /-- a drained walk has no answer -/
  | unreachable
  /-- the loop, or the calls of `step`, are not at their end -/
  | diverges
  deriving DecidableEq, Repr

/-- The end of a round behind a step. -/
def StepResult.ending : StepResult → Option TranslationResult
  | .drained => none
  | .stall => some .stall
  | .ready physicalAddress => some (.physicalAddress physicalAddress)
  | .fault trap => some (.fault trap)

theorem StepResult.answer_of_ending {result : StepResult} {answer : TranslationResult}
    (h : result.ending = some answer) (hne : answer ≠ .stall) : result.answer = some answer := by
  cases result with
  | stall => exact absurd (Option.some.inj h).symm hne
  | drained => cases h
  | ready => exact h
  | fault => exact h

theorem StepResult.eq_drained_of_ending {result : StepResult} (h : result.ending = none) :
    result = .drained := by
  cases result with
  | drained => rfl
  | _ => cases h

namespace PageWalker

section Loop

variable {β : Type} [Bus β]

/-! ## The loop of the source -/

/-- `step`: it reads the active walk, and calls itself once it has to write a leaf. -/
def stepActive (drainOnly : Bool) :
    Nat → PageWalker → β → Except WalkPanic (Except BusError StepResult) × PageWalker × β
  | 0, walker, bus => (.error .diverges, walker, bus)
  | calls + 1, walker, bus =>
    match walker.active with
    | none => (.error .noActive, walker, bus)
    | some state =>
      match state.phase with
      | .writeLeaf physicalAddress flags value =>
        let out := walker.finishLeafUpdate bus state physicalAddress flags value drainOnly
        (.ok out.1, out.2)
      | .readPte =>
        match Bus.load32 bus (state.pteAddress.setWidth 64) with
        | (.ok pte, bus) =>
          match pteStep state.request state.level pte with
          | .leaf physicalAddress =>
            if state.request.needsAccessBitUpdate (pteFlags pte) then
              stepActive drainOnly calls
                { walker with active := some (state.writing physicalAddress pte) } bus
            else
              let out := walker.stepPte bus state pte drainOnly
              (.ok out.1, out.2)
          | _ =>
            let out := walker.stepPte bus state pte drainOnly
            (.ok out.1, out.2)
        | (.error (.busy _), bus) => (.ok (.ok .stall), walker, bus)
        | (.error _, bus) =>
          let out := walker.finish bus drainOnly (.fault state.request.accessFault)
          (.ok out.1, out.2)

/-- A round that has made a step of the walk of another request. -/
def roundOfDrain : Except WalkPanic (Except BusError StepResult) × PageWalker × β →
    Except WalkPanic (Option (Except BusError TranslationResult)) × PageWalker × β
  | (.ok (.ok .stall), walker, bus) => (.ok (some (.ok .stall)), walker, bus)
  | (.ok (.ok .drained), walker, bus) => (.ok none, walker, bus)
  | (.ok (.ok _), walker, bus) => (.error .unreachable, walker, bus)
  | (.ok (.error error), walker, bus) => (.ok (some (.error error)), walker, bus)
  | (.error panic, walker, bus) => (.error panic, walker, bus)

/-- A round that has made a step of the walk of its own request. -/
def roundOfWalk : Except WalkPanic (Except BusError StepResult) × PageWalker × β →
    Except WalkPanic (Option (Except BusError TranslationResult)) × PageWalker × β
  | (.ok (.ok result), walker, bus) => (.ok (result.ending.map .ok), walker, bus)
  | (.ok (.error error), walker, bus) => (.ok (some (.error error)), walker, bus)
  | (.error panic, walker, bus) => (.error panic, walker, bus)

/-- A round of the loop: the answer of the call, if it returns. -/
def round (request : TranslationRequest) (walker : PageWalker) (bus : β) :
    Except WalkPanic (Option (Except BusError TranslationResult)) × PageWalker × β :=
  if walker.active.any (·.request ≠ request) then roundOfDrain (stepActive true 2 walker bus)
  else if !translationEnabled request.satp request.privilege then
    (.ok (some (.ok (.physicalAddress request.virtualAddress))), walker, bus)
  else if walker.active.isNone then
    match walker.lookupTlb request with
    | some result => (.ok (some (.ok result)), walker, bus)
    | none => roundOfWalk (stepActive false 2 { walker with active := some request.start } bus)
  else roundOfWalk (stepActive false 2 walker bus)

/-- The loop, for so many rounds. -/
def loop (request : TranslationRequest) :
    Nat → PageWalker → β → Except WalkPanic (Except BusError TranslationResult) × PageWalker × β
  | 0, walker, bus => (.error .diverges, walker, bus)
  | rounds + 1, walker, bus =>
    match round request walker bus with
    | (.ok none, walker, bus) => loop request rounds walker bus
    | (.ok (some answer), walker, bus) => (.ok answer, walker, bus)
    | (.error panic, walker, bus) => (.error panic, walker, bus)

/-- The walkers at the heads of the loop. -/
def loopHeads (request : TranslationRequest) : Nat → PageWalker → β → List PageWalker
  | 0, _, _ => []
  | rounds + 1, walker, bus =>
    walker ::
      match round request walker bus with
      | (.ok none, walker, bus) => loopHeads request rounds walker bus
      | _ => []

/-! ## The cases of a round -/

variable {request : TranslationRequest} {walker w : PageWalker} {bus b : β} {state : WalkState}
  {drainOnly : Bool} {result : StepResult}

/-- `step` finds the active walk, and calls itself at most once. -/
theorem stepActive_eq (hactive : walker.active = some state) (bus : β) (drainOnly : Bool) :
    stepActive drainOnly 2 walker bus =
      (.ok (walker.step bus state drainOnly).1, (walker.step bus state drainOnly).2) := by
  rcases hphase : state.phase with _ | ⟨physicalAddress, flags, value⟩
  · simp only [stepActive, step, hactive, hphase]
    rcases Bus.load32 bus (state.pteAddress.setWidth 64) with ⟨error | pte, b⟩
    · cases error <;> rfl
    · dsimp only
      rcases hmeaning : pteStep state.request state.level pte with _ | physicalAddress | pteAddress
      · rfl
      · -- a leaf whose access bits are written is the active walk of the call that writes it
        dsimp only
        split
        · next hneeded =>
          rw [stepPte_eq, hmeaning]
          dsimp only
          rw [if_pos hneeded]
          rfl
        · rfl
      · rfl
  · simp only [stepActive, step, hactive, hphase]

/-- The walker with the walk of the request: it was in progress, or the TLB has no answer and it
starts. -/
inductive Walks (request : TranslationRequest) (walker : PageWalker) : PageWalker → Prop
  | resumed {state : WalkState} (hactive : walker.active = some state)
      (hown : state.request = request) : Walks request walker walker
  | started (hactive : walker.active = none) (hlookup : walker.lookupTlb request = none) :
      Walks request walker { walker with active := some request.start }

/-- Everything a round can do, and the answer of the call if it returns. -/
inductive RoundCase (request : TranslationRequest) (walker : PageWalker) (bus : β) :
    Option TranslationResult → PageWalker → β → Prop
  | drains {state : WalkState} {result : StepResult} {w : PageWalker} {b : β}
      (hactive : walker.active = some state) (hother : state.request ≠ request)
      (step : WalkStep walker bus state true result w b) : RoundCase request walker bus result.ending w b
  | disabled (hown : ∀ state, walker.active = some state → state.request = request)
      (hdisabled : translationEnabled request.satp request.privilege = false) :
      RoundCase request walker bus (some (.physicalAddress request.virtualAddress)) walker bus
  | hit {answer : TranslationResult} (hactive : walker.active = none)
      (henabled : translationEnabled request.satp request.privilege = true)
      (hlookup : walker.lookupTlb request = some answer) :
      RoundCase request walker bus (some answer) walker bus
  | walks {before w : PageWalker} {state : WalkState} {result : StepResult} {b : β}
      (hwalks : Walks request walker before) (hactive : before.active = some state)
      (hown : state.request = request)
      (henabled : translationEnabled request.satp request.privilege = true)
      (step : WalkStep before bus state false result w b) :
      RoundCase request walker bus result.ending w b

/-- What follows a round in the loop of `translate`. -/
def follow (request : TranslationRequest) (fuel : Nat) (ending : Option TranslationResult)
    (walker : PageWalker) (bus : β) : Except BusError TranslationResult × PageWalker × β :=
  match ending with
  | none => translateLoop request fuel walker bus
  | some answer => (.ok answer, walker, bus)

theorem continueWalk_eq (fuel : Nat) (result : StepResult) (w : PageWalker) (b : β) :
    continueWalk (translateLoop request fuel) (.ok result, w, b) =
      follow request fuel result.ending w b := by
  cases result <;> rfl

theorem continueDrain_eq (h : result = .stall ∨ result = .drained) (fuel : Nat) (w : PageWalker)
    (b : β) : continueDrain (translateLoop request fuel) (.ok result, w, b) =
      follow request fuel result.ending w b := by
  obtain rfl | rfl := h <;> rfl

omit [Bus β] in
theorem roundOfDrain_eq (h : result = .stall ∨ result = .drained) (w : PageWalker) (b : β) :
    roundOfDrain (.ok (.ok result), w, b) = (.ok (result.ending.map .ok), w, b) := by
  obtain rfl | rfl := h <;> rfl

/-- **No round fails to return**, and a round of the loop is one of `translate`. -/
theorem round_cases (request : TranslationRequest) (walker : PageWalker) (bus : β) :
    ∃ ending w b, round request walker bus = (.ok (ending.map .ok), w, b) ∧
      RoundCase request walker bus ending w b ∧
      ∀ fuel, translateLoop request (fuel + 1) walker bus = follow request fuel ending w b := by
  -- a step of the own walk, in progress or started now
  have own {before : PageWalker} {state : WalkState} (hwalks : Walks request walker before)
      (hactive : before.active = some state) (hown : state.request = request)
      (henabled : translationEnabled request.satp request.privilege = true)
      (hround : round request walker bus = roundOfWalk (stepActive false 2 before bus))
      (hloop : ∀ fuel, translateLoop request (fuel + 1) walker bus =
        continueWalk (translateLoop request fuel) (before.step bus state false)) :
      ∃ ending w b, round request walker bus = (.ok (ending.map .ok), w, b) ∧
        RoundCase request walker bus ending w b ∧
        ∀ fuel, translateLoop request (fuel + 1) walker bus = follow request fuel ending w b := by
    obtain ⟨result, w, b, heq, hstep⟩ := before.step_cases bus state false
    rw [stepActive_eq hactive, heq] at hround
    refine ⟨result.ending, w, b, hround, .walks hwalks hactive hown henabled hstep, fun fuel => ?_⟩
    rw [hloop, heq, continueWalk_eq]
  cases hactive : walker.active with
  | none =>
    cases henabled : translationEnabled request.satp request.privilege with
    | false =>
      have hown : ∀ state, walker.active = some state → state.request = request := by
        simp [hactive]
      exact ⟨some (.physicalAddress request.virtualAddress), walker, bus,
        by simp [round, hactive, henabled], .disabled hown henabled,
        fun fuel => translateLoop_disabled hown henabled⟩
    | true =>
      cases hlookup : walker.lookupTlb request with
      | some answer =>
        exact ⟨some answer, walker, bus, by simp [round, hactive, henabled, hlookup],
          .hit hactive henabled hlookup, fun fuel => translateLoop_hit hactive henabled hlookup⟩
      | none =>
        exact own (.started hactive hlookup) rfl rfl henabled
          (by simp [round, hactive, henabled, hlookup])
          fun fuel => translateLoop_start hactive henabled hlookup
  | some state =>
    by_cases hown : state.request = request
    · cases henabled : translationEnabled request.satp request.privilege with
      | false =>
        have hsame : ∀ state', walker.active = some state' → state'.request = request := by
          intro state' hactive'
          rw [← Option.some.inj (hactive.symm.trans hactive')]
          exact hown
        exact ⟨some (.physicalAddress request.virtualAddress), walker, bus,
          by simp [round, hactive, henabled, hown], .disabled hsame henabled,
          fun fuel => translateLoop_disabled hsame henabled⟩
      | true =>
        exact own (.resumed hactive hown) hactive hown henabled
          (by simp [round, hactive, henabled, hown])
          fun fuel => translateLoop_own hactive hown henabled
    · obtain ⟨result, w, b, heq, hstep⟩ := walker.step_cases bus state true
      have hround : round request walker bus = roundOfDrain (stepActive true 2 walker bus) := by
        simp [round, hactive, hown]
      rw [stepActive_eq hactive, heq, roundOfDrain_eq hstep.result_of_drain] at hround
      refine ⟨result.ending, w, b, hround, .drains hactive hown hstep, fun fuel => ?_⟩
      rw [translateLoop_other hactive hown, heq, continueDrain_eq hstep.result_of_drain]

/-- A round that goes on comes closer to the end. -/
theorem RoundCase.need_lt {ending : Option TranslationResult}
    (h : RoundCase request walker bus ending w b) (hending : ending = none) :
    need request w < need request walker := by
  cases h with
  | drains hactive hother step =>
    obtain rfl := StepResult.eq_drained_of_ending hending
    rw [need_of_other hactive hother]
    exact need_of_drained_other step hother
  | disabled => cases hending
  | hit => cases hending
  | walks hwalks hactive hown _ step =>
    obtain rfl := StepResult.eq_drained_of_ending hending
    have hneed := need_of_drained_own step hown
    cases hwalks with
    | resumed hactive' hown' =>
      rw [need_of_own hactive hown]
      omega
    | started hnone =>
      obtain rfl := Option.some.inj hactive
      rw [need_of_none hnone]
      exact Nat.lt_of_lt_of_eq (Nat.lt_succ_self _) hneed

/-! ## The walk in progress -/

/-- The walk in progress is at level 0 or 1, and is one of a request that is translated. -/
structure Walking (walker : PageWalker) : Prop where
  level : ∀ state, walker.active = some state → state.level ≤ 1
  enabled : ∀ state, walker.active = some state →
    translationEnabled state.request.satp state.request.privilege = true

theorem Walking.of_idle (h : walker.active = none) : walker.Walking := by
  constructor
  all_goals
    intro state hactive
    rw [h] at hactive
    cases hactive

/-- What a step leaves of its walk: nothing, the walk as it was, or the walk at the same level or the
next one. -/
theorem WalkStep.level_le (h : WalkStep walker bus state drainOnly result w b)
    (hactive : walker.active = some state) {state' : WalkState} (hactive' : w.active = some state') :
    state'.level ≤ state.level := by
  have same (hsame : walker.active = some state') : state'.level ≤ state.level := by
    rw [Option.some.inj (hactive.symm.trans hsame)]
  have write {walker w : PageWalker} {bus b : β} {s : WalkState} {pa flags value : U32}
      (leaf : LeafWrite walker bus s pa flags value drainOnly result w b)
      (hactive' : w.active = some state') : walker.active = some state' := by
    cases leaf with
    | done => cases hactive'
    | busy => exact hactive'
    | failed => cases hactive'
  cases h with
  | write _ leaf => exact same (write leaf hactive')
  | busy => exact same hactive'
  | failed => cases hactive'
  | fault => cases hactive'
  | table =>
    obtain rfl := Option.some.inj hactive'
    exact Nat.sub_le _ _
  | leaf => cases hactive'
  | update _ _ _ _ leaf =>
    obtain rfl := Option.some.inj (write leaf hactive')
    exact le_rfl

/-- A walk that gives an answer has ended. -/
theorem WalkStep.active_of_answer (h : WalkStep walker bus state drainOnly result w b)
    {answer : TranslationResult} (hanswer : result.answer = some answer) : w.active = none := by
  have write {walker w : PageWalker} {bus b : β} {s : WalkState} {pa flags value : U32}
      (leaf : LeafWrite walker bus s pa flags value drainOnly result w b) : w.active = none := by
    cases leaf with
    | done => rfl
    | busy => cases hanswer
    | failed => rfl
  cases h with
  | write _ leaf => exact write leaf
  | busy => cases hanswer
  | table => cases hanswer
  | update _ _ _ _ leaf => exact write leaf
  | _ => rfl

theorem Walking.walkStep (h : walker.Walking) (hactive : walker.active = some state)
    (step : WalkStep walker bus state drainOnly result w b) : w.Walking := by
  constructor
  · intro state' hactive'
    exact (step.level_le hactive hactive').trans (h.level state hactive)
  · intro state' hactive'
    rw [step.request_eq hactive hactive']
    exact h.enabled state hactive

theorem Walking.walks (h : walker.Walking)
    (henabled : translationEnabled request.satp request.privilege = true)
    (hwalks : Walks request walker w) : w.Walking := by
  cases hwalks with
  | resumed => exact h
  | started =>
    constructor
    · rintro _ ⟨⟩
      exact le_rfl
    · rintro _ ⟨⟩
      exact henabled

/-- **Every round keeps it.** -/
theorem Walking.roundCase (h : walker.Walking) {ending : Option TranslationResult}
    (hround : RoundCase request walker bus ending w b) : w.Walking := by
  cases hround with
  | drains hactive _ step => exact h.walkStep hactive step
  | disabled => exact h
  | hit => exact h
  | walks hwalks hactive _ henabled step => exact (h.walks henabled hwalks).walkStep hactive step

/-- A call that returns an address or a fault leaves no walk. -/
theorem Walking.idle_of_roundCase (h : walker.Walking) {ending : Option TranslationResult}
    (hround : RoundCase request walker bus ending w b) {answer : TranslationResult}
    (hending : ending = some answer) (hne : answer ≠ .stall) : w.active = none := by
  cases hround with
  | drains _ _ step =>
    obtain rfl | rfl := step.result_of_drain
    · exact absurd (Option.some.inj hending).symm hne
    · cases hending
  | disabled hown hdisabled =>
    cases hactive : walker.active with
    | none => rfl
    | some state =>
      -- the walk in progress is one of the request, which is not translated
      have henabled := h.enabled state hactive
      rw [hown state hactive, hdisabled] at henabled
      cases henabled
  | hit hactive => exact hactive
  | walks _ _ _ _ step =>
    exact step.active_of_answer (StepResult.answer_of_ending hending hne)

/-! ## The loop ends -/

/-- **The loop is that of `translate`**, and ends within the rounds it needs. -/
theorem loop_eq_translateLoop (rounds : Nat) (hneed : need request walker ≤ rounds) :
    loop request rounds walker bus =
      (.ok (translateLoop request rounds walker bus).1, (translateLoop request rounds walker bus).2) := by
  induction rounds generalizing walker bus with
  | zero =>
    have hpos := need_pos request walker
    omega
  | succ rounds ih =>
    obtain ⟨ending, w, b, hround, hcase, hloop⟩ := round_cases request walker bus
    rw [hloop]
    simp only [loop, hround]
    cases ending with
    | none =>
      have hlt := hcase.need_lt rfl
      exact ih (by omega)
    | some answer => rfl

/-- The walk in progress behind a call. -/
theorem Walking.translateLoop (h : walker.Walking) (rounds : Nat) :
    (translateLoop request rounds walker bus).2.1.Walking := by
  induction rounds generalizing walker bus with
  | zero => exact h
  | succ rounds ih =>
    obtain ⟨ending, w, b, -, hcase, hloop⟩ := round_cases request walker bus
    rw [hloop]
    cases ending with
    | none => exact ih (h.roundCase hcase)
    | some answer => exact h.roundCase hcase

theorem Walking.idle_of_translateLoop (h : walker.Walking) (rounds : Nat)
    {answer : TranslationResult}
    (hanswer : (PageWalker.translateLoop request rounds walker bus).1 = .ok answer)
    (hne : answer ≠ .stall) : (PageWalker.translateLoop request rounds walker bus).2.1.active = none := by
  induction rounds generalizing walker bus with
  | zero => exact absurd (Except.ok.inj hanswer).symm hne
  | succ rounds ih =>
    obtain ⟨ending, w, b, -, hcase, hloop⟩ := round_cases request walker bus
    rw [hloop] at hanswer ⊢
    cases ending with
    | none => exact ih (h.roundCase hcase) hanswer
    | some answer' =>
      obtain rfl := Except.ok.inj hanswer
      exact h.idle_of_roundCase hcase rfl hne

/-- The walk in progress at every head of the loop. -/
theorem Walking.loopHeads (h : walker.Walking) (rounds : Nat) :
    ∀ head ∈ loopHeads request rounds walker bus, head.Walking := by
  induction rounds generalizing walker bus with
  | zero => exact fun _ hmem => by cases hmem
  | succ rounds ih =>
    obtain ⟨ending, w, b, hround, hcase, -⟩ := round_cases request walker bus
    intro head hmem
    simp only [PageWalker.loopHeads, hround] at hmem
    obtain rfl | hmem := List.mem_cons.1 hmem
    · exact h
    · cases ending with
      | none => exact ih (h.roundCase hcase) head hmem
      | some answer => cases hmem

theorem Walking.translate (h : walker.Walking) (bus : β) (csrs : CsrFile) (privilege : PrivilegeMode)
    (virtualAddress : U32) (access : MemoryAccess) :
    (walker.translate bus csrs privilege virtualAddress access).2.1.Walking :=
  h.translateLoop walker.walkFuel

theorem Walking.flushFence (h : walker.Walking) (fence : TranslationFence) :
    (walker.flushFence fence).Walking := by
  have hactive := walker.flushFence_active fence
  constructor
  · rw [hactive]
    exact h.level
  · rw [hactive]
    exact h.enabled

/-- **The walk in progress of a walker**, in every run. -/
theorem walking_run (bus : β) (ops : List (MmuOp β)) :
    (Automata.run MmuOp.step (PageWalker.default, bus) ops).1.Walking := by
  refine Automata.Along.run_invariant (I := fun s : PageWalker × β => s.1.Walking)
    (Walking.of_idle rfl) (fun s op h _ => ?_) (Automata.Along.trivial_of _ _)
  cases op with
  | translate csrs privilege virtualAddress access =>
    exact h.translate s.2 csrs privilege virtualAddress access
  | flushFence fence => exact h.flushFence fence
  | tick change => exact h

end Loop

end PageWalker

/-! ## The accesses of a call -/

/-- A bus with the number of its accesses. -/
structure Counted (β : Type) where
  bus : β
  accesses : Nat := 0
  deriving DecidableEq

namespace Counted

variable {β : Type}

/-- The bus behind one more access. -/
def count {α : Type} (counted : Counted β) (result : α × β) : α × Counted β :=
  (result.1, ⟨result.2, counted.accesses + 1⟩)

instance [Bus β] : Bus (Counted β) where
  load8 counted addr := counted.count (Bus.load8 counted.bus addr)
  store8 counted addr value := counted.count (Bus.store8 counted.bus addr value)
  tick counted := { counted with bus := Bus.tick counted.bus }
  machineTime counted := Bus.machineTime counted.bus
  isBusy counted := Bus.isBusy counted.bus
  pendingInterrupts counted := Bus.pendingInterrupts counted.bus
  load16 counted addr := counted.count (Bus.load16 counted.bus addr)
  load32 counted addr := counted.count (Bus.load32 counted.bus addr)
  fetch32 counted addr := counted.count (Bus.fetch32 counted.bus addr)
  store16 counted addr value := counted.count (Bus.store16 counted.bus addr value)
  store32 counted addr value := counted.count (Bus.store32 counted.bus addr value)

variable [Bus β] {counted after : Counted β}

theorem accesses_load32 {addr : Address} {result : Except BusError U32}
    (h : Bus.load32 counted addr = (result, after)) : after.accesses = counted.accesses + 1 := by
  obtain ⟨-, rfl⟩ := Prod.mk.inj h
  rfl

theorem accesses_store32 {addr : Address} {value : U32} {result : Except BusError Unit}
    (h : Bus.store32 counted addr value = (result, after)) :
    after.accesses = counted.accesses + 1 := by
  obtain ⟨-, rfl⟩ := Prod.mk.inj h
  rfl

end Counted

namespace PageWalker

section Accesses

variable {β : Type} [Bus β] {request : TranslationRequest} {walker w : PageWalker}
  {counted after : Counted β} {state : WalkState} {drainOnly : Bool} {result : StepResult}

theorem LeafWrite.accesses_eq {physicalAddress flags value : U32}
    (h : LeafWrite walker counted state physicalAddress flags value drainOnly result w after) :
    after.accesses = counted.accesses + 1 := by
  cases h with
  | done store => exact Counted.accesses_store32 store
  | busy store => exact Counted.accesses_store32 store
  | failed _ store => exact Counted.accesses_store32 store

/-- A step reads a PTE, or writes it, or both. -/
theorem WalkStep.accesses_le (h : WalkStep walker counted state drainOnly result w after) :
    after.accesses ≤ counted.accesses + 2 := by
  cases h with
  | write _ leaf =>
    rw [leaf.accesses_eq]
    omega
  | update _ load _ _ leaf =>
    rw [leaf.accesses_eq, Counted.accesses_load32 load]
  | busy _ load =>
    rw [Counted.accesses_load32 load]
    omega
  | failed _ _ load =>
    rw [Counted.accesses_load32 load]
    omega
  | fault _ load =>
    rw [Counted.accesses_load32 load]
    omega
  | table _ load =>
    rw [Counted.accesses_load32 load]
    omega
  | leaf _ load =>
    rw [Counted.accesses_load32 load]
    omega

/-- A step behind which its walk goes on has read a PTE. -/
theorem WalkStep.accesses_of_active (h : WalkStep walker counted state drainOnly result w after)
    (hne : result ≠ .stall) {state' : WalkState} (hactive : w.active = some state') :
    after.accesses = counted.accesses + 1 := by
  cases h with
  | write _ leaf => exact leaf.accesses_eq
  | table _ load => exact Counted.accesses_load32 load
  | busy _ load => exact Counted.accesses_load32 load
  | failed _ _ load => exact Counted.accesses_load32 load
  | fault _ load => exact Counted.accesses_load32 load
  | leaf _ load => exact Counted.accesses_load32 load
  | update _ _ _ _ leaf =>
    -- the write ends the walk, unless the bus suspends it
    cases leaf with
    | done => cases hactive
    | busy => exact absurd rfl hne
    | failed => cases hactive

/-- The accesses that suffice for a call. -/
def cost (request : TranslationRequest) (walker : PageWalker) : Nat :=
  match walker.active with
  | none => 3
  | some state => if state.request = request then state.level + 2 else state.level + 5

theorem cost_of_none (h : walker.active = none) : cost request walker = 3 := by
  simp [cost, h]

theorem cost_of_own (h : walker.active = some state) (hown : state.request = request) :
    cost request walker = state.level + 2 := by
  simp [cost, h, hown]

theorem cost_of_other (h : walker.active = some state) (hother : state.request ≠ request) :
    cost request walker = state.level + 5 := by
  simp [cost, h, hother]

theorem Walking.cost_le (h : walker.Walking) (request : TranslationRequest) :
    cost request walker ≤ 6 := by
  cases hactive : walker.active with
  | none =>
    rw [cost_of_none hactive]
    omega
  | some state =>
    have hlevel := h.level state hactive
    by_cases hown : state.request = request
    · rw [cost_of_own hactive hown]
      omega
    · rw [cost_of_other hactive hown]
      omega

theorem Walking.need_le (h : walker.Walking) (request : TranslationRequest) :
    need request walker ≤ 4 := by
  cases hactive : walker.active with
  | none =>
    rw [need_of_none hactive]
    omega
  | some state =>
    have hlevel := h.level state hactive
    by_cases hown : state.request = request
    · rw [need_of_own hactive hown]
      omega
    · rw [need_of_other hactive hown]
      omega

/-- The accesses of a round. -/
theorem RoundCase.accesses_le {ending : Option TranslationResult}
    (h : RoundCase request walker counted ending w after) :
    after.accesses ≤ counted.accesses + cost request walker := by
  cases h with
  | drains hactive hother step =>
    have hle := step.accesses_le
    rw [cost_of_other hactive hother]
    omega
  | disabled => exact Nat.le_add_right _ _
  | hit => exact Nat.le_add_right _ _
  | walks hwalks hactive hown _ step =>
    have hle := step.accesses_le
    cases hwalks with
    | resumed =>
      rw [cost_of_own hactive hown]
      omega
    | started hnone =>
      rw [cost_of_none hnone]
      omega

/-- A round that goes on leaves enough accesses for the rest. -/
theorem RoundCase.accesses_add_cost_le {ending : Option TranslationResult}
    (h : RoundCase request walker counted ending w after) (hending : ending = none) :
    after.accesses + cost request w ≤ counted.accesses + cost request walker := by
  cases h with
  | drains hactive hother step =>
    obtain rfl := StepResult.eq_drained_of_ending hending
    rw [cost_of_other hactive hother]
    rcases step.drained_other with hnone | ⟨state', hactive', hrequest, hlevel⟩
    · have hle := step.accesses_le
      rw [cost_of_none hnone]
      omega
    · rw [cost_of_other hactive' (hrequest ▸ hother), step.accesses_of_active (by decide) hactive']
      omega
  | disabled => cases hending
  | hit => cases hending
  | walks hwalks hactive hown _ step =>
    obtain rfl := StepResult.eq_drained_of_ending hending
    obtain ⟨state', hactive', hrequest, hlevel⟩ := step.drained_own
    rw [cost_of_own hactive' (hrequest.trans hown), step.accesses_of_active (by decide) hactive']
    cases hwalks with
    | resumed =>
      rw [cost_of_own hactive hown]
      omega
    | started hnone =>
      obtain rfl := Option.some.inj hactive
      rw [cost_of_none hnone]
      have hstart : request.start.level = 1 := rfl
      omega

/-- The accesses of a call. -/
theorem accesses_translateLoop (request : TranslationRequest) (rounds : Nat) (walker : PageWalker)
    (counted : Counted β) :
    (translateLoop request rounds walker counted).2.2.accesses ≤
      counted.accesses + cost request walker := by
  induction rounds generalizing walker counted with
  | zero => exact Nat.le_add_right _ _
  | succ rounds ih =>
    obtain ⟨ending, w, after, -, hcase, hloop⟩ := round_cases request walker counted
    rw [hloop]
    cases ending with
    | none => exact (ih w after).trans (hcase.accesses_add_cost_le rfl)
    | some answer => exact hcase.accesses_le

/-! ## Calls -/

/-- A call ends: within four rounds of the loop and six accesses, at level 0 or 1 all the time, and an
address or a fault leaves no walk. -/
structure CallEnds (request : TranslationRequest) (s : PageWalker × Counted β)
    (called : Except BusError TranslationResult × PageWalker × Counted β) : Prop where
  returns : loop request 4 s.1 s.2 = (.ok called.1, called.2)
  answers : ∃ answer, called.1 = .ok answer
  accesses : called.2.2.accesses ≤ s.2.accesses + 6
  heads : ∀ head ∈ loopHeads request 4 s.1 s.2, ∀ state, head.active = some state → state.level ≤ 1
  level : ∀ state, called.2.1.active = some state → state.level ≤ 1
  idle : ∀ answer, called.1 = .ok answer → answer ≠ .stall → called.2.1.active = none

/-- **Every call ends**, from every walker that can be reached, whatever the page tables hold and the
bus answers. -/
theorem translate_ends (bus : Counted β) (ops : List (MmuOp (Counted β))) (csrs : CsrFile)
    (privilege : PrivilegeMode) (virtualAddress : U32) (access : MemoryAccess) :
    CallEnds (.of csrs privilege virtualAddress access)
      (Automata.run MmuOp.step (PageWalker.default, bus) ops)
      ((Automata.run MmuOp.step (PageWalker.default, bus) ops).1.translate
        (Automata.run MmuOp.step (PageWalker.default, bus) ops).2 csrs privilege virtualAddress access) := by
  have hwalking := walking_run bus ops
  generalize Automata.run MmuOp.step (PageWalker.default, bus) ops = s at hwalking
  have hneed := hwalking.need_le (.of csrs privilege virtualAddress access)
  rw [translate_eq_loop hneed]
  constructor
  · exact loop_eq_translateLoop 4 hneed
  · exact translateLoop_ok _ 4 s.1 s.2
  · have haccesses := accesses_translateLoop (.of csrs privilege virtualAddress access) 4 s.1 s.2
    have hcost := hwalking.cost_le (.of csrs privilege virtualAddress access)
    omega
  · exact fun head hmem => (hwalking.loopHeads 4 head hmem).level
  · exact (hwalking.translateLoop 4).level
  · exact fun answer hanswer hne => hwalking.idle_of_translateLoop 4 hanswer hne

end Accesses

end PageWalker

end RvSim
