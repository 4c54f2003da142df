import RvSim.Core.Calls

/-!
# The page walker in the cycles of a core

Both cores use the page walker through translations and fences only, so a property that these keep is kept
by every cycle.

## Main definitions

* `KeptByWalks`: a property of page walkers that translations and fences keep

## Main results

* `ReferenceCore.pageWalker_stepCycle`, `PipelineCore.pageWalker_stepCycle`: the cycles of the cores keep it
-/

namespace RvSim

/-- Translations and fences keep a property of the page walker. -/
structure KeptByWalks (β : Type) [Bus β] (I : PageWalker → Prop) : Prop where
  translate : ∀ {walker : PageWalker}, I walker → ∀ (bus : β) (csrs : CsrFile)
    (privilege : PrivilegeMode) (virtualAddress : U32) (access : MemoryAccess),
    I (walker.translate bus csrs privilege virtualAddress access).2.1
  flushFence : ∀ {walker : PageWalker}, I walker → ∀ fence, I (walker.flushFence fence)

namespace KeptByWalks

variable {β : Type} [Bus β] {I : PageWalker → Prop} (kept : KeptByWalks β I) {walker w : PageWalker}
  {bus b : β}

include kept

/-- The walker behind a translation with a known answer. -/
theorem of_translate (h : I walker) {csrs : CsrFile} {privilege : PrivilegeMode} {virtualAddress : U32}
    {access : MemoryAccess} {answer : Except BusError TranslationResult}
    (heq : walker.translate bus csrs privilege virtualAddress access = (answer, w, b)) : I w := by
  have htranslate := kept.translate h bus csrs privilege virtualAddress access
  rwa [heq] at htranslate

/-! ## The stages of the pipeline -/

theorem fetch (h : I walker) (csrs : CsrFile) (privilege : PrivilegeMode) (pc : U32)
    (predictor : BimodalPredictor) :
    I (IfStage.fetch bus walker csrs privilege pc predictor).2.1 := by
  unfold IfStage.fetch
  split
  · next htranslate =>
    have hw := kept.of_translate h htranslate
    split
    · exact hw
    · exact hw
    · split <;> exact hw
  · next htranslate => exact kept.of_translate h htranslate
  · next htranslate => exact kept.of_translate h htranslate
  · next htranslate => exact kept.of_translate h htranslate

theorem access (h : I walker) (csrs : CsrFile) (privilege : PrivilegeMode) (payload : ExMemPayload) :
    I (MemStage.access bus walker csrs privilege payload).2.1 := by
  -- a failed access leaves the walker that the translation left
  have failed : ∀ {w : PageWalker} {b : β} {error : BusError} {address : U32} {kind : MemoryAccess},
      I w → I (MemStage.failed w b payload error address kind).2.1 := by
    intro w b error address kind hw
    cases error <;> exact hw
  simp only [MemStage.access]
  split
  · split
    · next htranslate =>
      have hw := kept.of_translate h htranslate
      split
      · exact hw
      · exact failed hw
    · next htranslate => exact kept.of_translate h htranslate
    · next htranslate => exact kept.of_translate h htranslate
    · next htranslate => exact kept.of_translate h htranslate
  · split
    · next htranslate =>
      have hw := kept.of_translate h htranslate
      split
      · exact hw
      · exact failed hw
    · next htranslate => exact kept.of_translate h htranslate
    · next htranslate => exact kept.of_translate h htranslate
    · next htranslate => exact kept.of_translate h htranslate
  · exact h

theorem writeBack (h : I walker) (state : HartState) (payload : MemWbPayload) :
    I (WbStage.writeBack state walker payload).2.2 := by
  unfold WbStage.writeBack
  split
  · exact h
  · exact h
  · cases payload.translationFence with
    | none => exact h
    | some fence => exact kept.flushFence h fence

theorem written {core : PipelineCore} (h : I core.pageWalker) : I (core.written bus).pageWalker := by
  unfold PipelineCore.written StepLocals.writeBackStage
  split
  · exact h
  · exact kept.writeBack h core.state _

theorem memoryPass {l : StepLocals β} {p : Option ExMemPayload} {q : Option MemWbPayload}
    (h : I l.pageWalker) (memory : MemoryPass l p q w b) : I w := by
  cases memory with
  | idle => exact h
  | @advance p q w b haccess =>
    have hwalker : I (MemStage.access l.bus l.pageWalker l.state.csrs l.state.privilege p).2.1 :=
      kept.access h l.state.csrs l.state.privilege p
    rwa [haccess] at hwalker

/-- The walker after a cycle of a running hart. -/
theorem runningCycle {core : PipelineCore} {l : StepLocals β} (h : I core.pageWalker)
    (cycle : RunningCycle core bus l) : I l.pageWalker := by
  have hwritten : I (core.written bus).pageWalker := kept.written h
  -- MEM and IF call the walker; the other stages leave it alone
  have accessed : ∀ {p : ExMemPayload} {event : Except BusError MemoryEvent} {w : PageWalker} {b : β},
      MemStage.access bus (core.written bus).pageWalker (core.written bus).state.csrs
        (core.written bus).state.privilege p = (event, w, b) → I w := by
    intro p event w b heq
    have haccess : I (MemStage.access bus (core.written bus).pageWalker (core.written bus).state.csrs
        (core.written bus).state.privilege p).2.1 := kept.access hwritten _ _ p
    rwa [heq] at haccess
  have fetched : ∀ {w w' : PageWalker} {b b' : β} {predictor : BimodalPredictor}
      {event : Except BusError FetchEvent}, I w →
      IfStage.fetch b w (core.written bus).state.csrs (core.written bus).state.privilege core.frontEndPc
        predictor = (event, w', b') → I w' := by
    intro w w' b b' predictor event hw heq
    have hfetch : I (IfStage.fetch b w (core.written bus).state.csrs (core.written bus).state.privilege
        core.frontEndPc predictor).2.1 := kept.fetch hw _ _ _ predictor
    rwa [heq] at hfetch
  cases cycle with
  | interrupt => exact hwritten
  | memoryTrap _ _ access => exact accessed access
  | memoryWait _ _ access => exact accessed access
  | barrierHold _ memory => exact kept.memoryPass hwritten memory
  | executeTrap _ memory => exact kept.memoryPass hwritten memory
  | redirect _ memory => exact kept.memoryPass hwritten memory
  | illegal _ memory => exact kept.memoryPass hwritten memory
  | unfetched _ memory => exact kept.memoryPass hwritten memory
  | fetched _ memory _ _ _ _ fetch => exact fetched (kept.memoryPass hwritten memory) fetch
  | fetchStall _ memory _ _ _ _ fetch => exact fetched (kept.memoryPass hwritten memory) fetch
  | fetchTrap _ memory _ _ _ _ fetch => exact fetched (kept.memoryPass hwritten memory) fetch

/-! ## The reference core -/

theorem fetchDecoded (h : I walker) (state : HartState) :
    I (ReferenceCore.fetchDecoded state walker bus).2.1 := by
  unfold ReferenceCore.fetchDecoded
  dsimp only
  split
  · next htranslate =>
    have hw := kept.of_translate h htranslate
    split
    · split <;> exact hw
    · exact hw
    · split <;> exact hw
  · next htranslate => exact kept.of_translate h htranslate
  · next htranslate => exact kept.of_translate h htranslate
  · next htranslate => exact kept.of_translate h htranslate

theorem executeDecoded (h : I walker) (state : HartState) (decoded : DecodedInstruction) :
    I (executeDecoded state walker bus decoded).2.2.1 := by
  have failed : ∀ {w : PageWalker} {b : β} {error : BusError} {address pc : U32} {access : MemoryAccess},
      I w → I (failedAccess state w b error address access pc).2.2.1 := by
    intro w b error address pc access hw
    cases error <;> exact hw
  simp only [RvSim.executeDecoded]
  split
  case h_5 => split <;> exact h
  -- a load, and then a store: the walker behind the translation
  case h_6 =>
    split
    · next htranslate =>
      have hw := kept.of_translate h htranslate
      split
      · exact hw
      · exact failed hw
    · next htranslate => exact kept.of_translate h htranslate
    · next htranslate => exact kept.of_translate h htranslate
    · next htranslate => exact kept.of_translate h htranslate
  case h_7 =>
    split
    · next htranslate =>
      have hw := kept.of_translate h htranslate
      split
      · exact hw
      · exact failed hw
    · next htranslate => exact kept.of_translate h htranslate
    · next htranslate => exact kept.of_translate h htranslate
    · next htranslate => exact kept.of_translate h htranslate
  case h_10 =>
    split
    · repeat' split
      all_goals exact h
    · exact h
  case h_13 =>
    split
    · exact h
    · exact kept.flushFence h _
  case h_14 | h_15 | h_16 => split <;> exact h
  all_goals exact h

end KeptByWalks

section Cycles

variable {β : Type} [Bus β] {I : PageWalker → Prop}

/-- The cycles of the pipeline keep it. -/
theorem PipelineCore.pageWalker_stepCycle (kept : KeptByWalks β I) {core : PipelineCore}
    (h : I core.pageWalker) (bus : β) : I (core.stepCycle bus).2.1.pageWalker := by
  generalize hcore : (core.stepCycle bus).2.1 = core'
  generalize hbus : (core.stepCycle bus).2.2 = bus'
  have cycle := core.stepCycle_cases bus
  rw [hcore, hbus] at cycle
  cases cycle with
  | wake => exact h
  | wait => exact h
  | running _ cycle =>
    have hbegun : I (core.begun bus).pageWalker := h
    exact kept.runningCycle hbegun cycle

/-- The cycles of the reference core keep it. -/
theorem ReferenceCore.pageWalker_stepCycle (kept : KeptByWalks β I) {core : ReferenceCore}
    (h : I core.pageWalker) (bus : β) : I (core.stepCycle bus).2.1.pageWalker := by
  -- an instruction that is fetched or kept is executed
  have executed : ∀ {core : ReferenceCore} {walker : PageWalker} {bus : β} (decoded : DecodedInstruction),
      I walker → I (core.executeStep walker bus decoded).2.1.pageWalker := by
    intro core walker bus decoded hw
    have hexecute : I (RvSim.executeDecoded core.state walker bus decoded).2.2.1 :=
      kept.executeDecoded hw core.state decoded
    unfold ReferenceCore.executeStep
    split
    · next heq =>
      rw [heq] at hexecute
      exact hexecute
    · next heq =>
      rw [heq] at hexecute
      exact hexecute
  unfold ReferenceCore.stepCycle ReferenceCore.instructionStep ReferenceCore.interrupt
  dsimp only
  split
  · exact h
  · split
    · exact h
    · split
      · exact executed _ h
      · have hfetch : I (fetchDecoded (beginCycle core.state bus) core.pageWalker bus).2.1 :=
          kept.fetchDecoded h (beginCycle core.state bus)
        split
        · next heq =>
          rw [heq] at hfetch
          exact executed _ hfetch
        · next heq =>
          rw [heq] at hfetch
          exact hfetch
        · next heq =>
          rw [heq] at hfetch
          exact hfetch
        · next heq =>
          rw [heq] at hfetch
          exact hfetch

end Cycles

end RvSim
