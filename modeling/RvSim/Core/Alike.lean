import RvSim.System.BusyMemory
import RvSim.System.Machine

/-!
# Walkers and buses that answer alike

The pipeline reads its page walker and its bus through translations, fences, calls and the lines only. Two
walkers over two buses that answer all of these alike cannot be told apart by it: its cycles on the one and
on the other are the same, but for the walker.

## Main definitions

* `AnswersAlike`: a relation of walkers over buses that all translations, fences and calls keep
* `PipelineCore.Alike`, `Machine.Alike`: cores and machines that differ in such walkers and buses only

## Main results

* `PipelineCore.Alike.stepCycle`: a cycle has the same result on both, and keeps it
* `Machine.Alike.runCycles`: so do the cycles of a run
-/

namespace RvSim

section Relation

variable {β β' : Type} [Bus β] [Bus β']

/-- The same answer, and walkers and buses that are related again. -/
structure OutcomesAlike {α : Type} (R : PageWalker → β → PageWalker → β' → Prop)
    (out : α × PageWalker × β) (out' : α × PageWalker × β') : Prop where
  answer : out.1 = out'.1
  related : R out.2.1 out.2.2 out'.2.1 out'.2.2

/-- The walkers over buses that `R` relates answer every translation and every call alike, and are related
again behind it. -/
structure AnswersAlike (R : PageWalker → β → PageWalker → β' → Prop) : Prop where
  translate : ∀ {w b w' b'}, R w b w' b' → ∀ (csrs : CsrFile) (privilege : PrivilegeMode)
    (virtualAddress : U32) (access : MemoryAccess),
    OutcomesAlike R (w.translate b csrs privilege virtualAddress access)
      (w'.translate b' csrs privilege virtualAddress access)
  flushFence : ∀ {w b w' b'}, R w b w' b' → ∀ fence, R (w.flushFence fence) b (w'.flushFence fence) b'
  call : ∀ {w b w' b'}, R w b w' b' → ∀ request : BusRequest,
    (request.call b).1 = (request.call b').1 ∧ R w (request.call b).2 w' (request.call b').2
  isBusy : ∀ {w b w' b'}, R w b w' b' → Bus.isBusy b = Bus.isBusy b'
  pendingInterrupts : ∀ {w b w' b'}, R w b w' b' → Bus.pendingInterrupts b = Bus.pendingInterrupts b'
  machineTime : ∀ {w b w' b'}, R w b w' b' → Bus.machineTime b = Bus.machineTime b'

end Relation

/-- A walker over a bus cannot be told apart from itself. -/
theorem answersAlike_eq {β : Type} [Bus β] :
    AnswersAlike fun (w : PageWalker) (b : β) w' b' => w = w' ∧ b = b' where
  translate := by
    rintro w b _ _ ⟨rfl, rfl⟩ csrs privilege virtualAddress access
    exact ⟨rfl, rfl, rfl⟩
  flushFence := by
    rintro w b _ _ ⟨rfl, rfl⟩ fence
    exact ⟨rfl, rfl⟩
  call := by
    rintro w b _ _ ⟨rfl, rfl⟩ request
    exact ⟨rfl, rfl, rfl⟩
  isBusy := by
    rintro w b _ _ ⟨rfl, rfl⟩
    rfl
  pendingInterrupts := by
    rintro w b _ _ ⟨rfl, rfl⟩
    rfl
  machineTime := by
    rintro w b _ _ ⟨rfl, rfl⟩
    rfl

/-! ## The stages -/

section Stages

variable {β β' : Type} [Bus β] [Bus β'] {R : PageWalker → β → PageWalker → β' → Prop}
  (alike : AnswersAlike R) {w : PageWalker} {b : β} {w' : PageWalker} {b' : β'}

include alike

/-- MEM answers alike. -/
theorem AnswersAlike.access (h : R w b w' b') (csrs : CsrFile) (privilege : PrivilegeMode)
    (x : ExMemPayload) :
    OutcomesAlike R (MemStage.access b w csrs privilege x) (MemStage.access b' w' csrs privilege x) := by
  have failed {w : PageWalker} {b : β} {w' : PageWalker} {b' : β'} (h : R w b w' b') (error : BusError)
      (kind : MemoryAccess) :
      OutcomesAlike R (MemStage.failed w b x error (x.memoryAddress.getD 0) kind)
        (MemStage.failed w' b' x error (x.memoryAddress.getD 0) kind) := by
    cases error <;> exact ⟨rfl, h⟩
  unfold MemStage.access
  generalize x.decoded.kind = kind
  cases kind with
  | load kind =>
    have translated := alike.translate h csrs privilege (x.memoryAddress.getD 0) .load
    dsimp only
    generalize w.translate b csrs privilege (x.memoryAddress.getD 0) .load = out at translated ⊢
    generalize w'.translate b' csrs privilege (x.memoryAddress.getD 0) .load = out' at translated ⊢
    obtain ⟨answer, w₁, b₁⟩ := out
    obtain ⟨answer', w₁', b₁'⟩ := out'
    obtain ⟨hanswer, related⟩ := translated
    obtain rfl : answer = answer' := hanswer
    rcases answer with error | ⟨pa | _ | trap⟩
    · exact ⟨rfl, related⟩
    · dsimp only
      rw [loadValue_eq, loadValue_eq]
      have called := alike.call related (kind.request (pa.setWidth 64))
      generalize (kind.request (pa.setWidth 64)).call b₁ = out at called ⊢
      generalize (kind.request (pa.setWidth 64)).call b₁' = out' at called ⊢
      obtain ⟨answer, b₂⟩ := out
      obtain ⟨answer', b₂'⟩ := out'
      obtain ⟨hanswer, related⟩ := called
      obtain rfl : answer = answer' := hanswer
      rcases answer with error | value
      · exact failed related error .load
      · exact ⟨rfl, related⟩
    · exact ⟨rfl, related⟩
    · exact ⟨rfl, related⟩
  | store kind =>
    have translated := alike.translate h csrs privilege (x.memoryAddress.getD 0) .store
    dsimp only
    generalize w.translate b csrs privilege (x.memoryAddress.getD 0) .store = out at translated ⊢
    generalize w'.translate b' csrs privilege (x.memoryAddress.getD 0) .store = out' at translated ⊢
    obtain ⟨answer, w₁, b₁⟩ := out
    obtain ⟨answer', w₁', b₁'⟩ := out'
    obtain ⟨hanswer, related⟩ := translated
    obtain rfl : answer = answer' := hanswer
    rcases answer with error | ⟨pa | _ | trap⟩
    · exact ⟨rfl, related⟩
    · dsimp only
      rw [storeValue_eq, storeValue_eq]
      have called := alike.call related (kind.request (pa.setWidth 64) x.storeValue)
      generalize (kind.request (pa.setWidth 64) x.storeValue).call b₁ = out at called ⊢
      generalize (kind.request (pa.setWidth 64) x.storeValue).call b₁' = out' at called ⊢
      obtain ⟨answer, b₂⟩ := out
      obtain ⟨answer', b₂'⟩ := out'
      obtain ⟨hanswer, related⟩ := called
      obtain rfl : answer = answer' := hanswer
      rcases answer with error | value
      · exact failed related error .store
      · exact ⟨rfl, related⟩
    · exact ⟨rfl, related⟩
    · exact ⟨rfl, related⟩
  | _ => exact ⟨rfl, h⟩

/-- IF answers alike. -/
theorem AnswersAlike.fetch (h : R w b w' b') (csrs : CsrFile) (privilege : PrivilegeMode) (pc : U32)
    (predictor : BimodalPredictor) :
    OutcomesAlike R (IfStage.fetch b w csrs privilege pc predictor)
      (IfStage.fetch b' w' csrs privilege pc predictor) := by
  have translated := alike.translate h csrs privilege pc .instruction
  unfold IfStage.fetch
  generalize w.translate b csrs privilege pc .instruction = out at translated ⊢
  generalize w'.translate b' csrs privilege pc .instruction = out' at translated ⊢
  obtain ⟨answer, w₁, b₁⟩ := out
  obtain ⟨answer', w₁', b₁'⟩ := out'
  obtain ⟨hanswer, related⟩ := translated
  obtain rfl : answer = answer' := hanswer
  rcases answer with error | ⟨pa | _ | trap⟩
  · exact ⟨rfl, related⟩
  · have called := alike.call related (.fetch32 (pa.setWidth 64))
    unfold BusRequest.call at called
    dsimp only at called ⊢
    generalize Bus.fetch32 b₁ (pa.setWidth 64) = out at called ⊢
    generalize Bus.fetch32 b₁' (pa.setWidth 64) = out' at called ⊢
    obtain ⟨answer, b₂⟩ := out
    obtain ⟨answer', b₂'⟩ := out'
    obtain ⟨hanswer, related⟩ := called
    obtain rfl : answer = answer' := hanswer
    rcases answer with error | raw
    · cases error <;> exact ⟨rfl, related⟩
    · exact ⟨rfl, related⟩
  · exact ⟨rfl, related⟩
  · exact ⟨rfl, related⟩

/-- Write-back retires alike. -/
theorem AnswersAlike.writeBack (h : R w b w' b') (state : HartState) (q : MemWbPayload) :
    (WbStage.writeBack state w q).1 = (WbStage.writeBack state w' q).1 ∧
      (WbStage.writeBack state w q).2.1 = (WbStage.writeBack state w' q).2.1 ∧
      R (WbStage.writeBack state w q).2.2 b (WbStage.writeBack state w' q).2.2 b' := by
  unfold WbStage.writeBack
  split
  · exact ⟨rfl, rfl, h⟩
  · exact ⟨rfl, rfl, h⟩
  · refine ⟨rfl, rfl, ?_⟩
    cases q.translationFence with
    | none => exact h
    | some fence => exact alike.flushFence h fence

end Stages

/-! ## The locals of a cycle -/

namespace StepLocals

variable {β β' : Type} {R : PageWalker → β → PageWalker → β' → Prop} {l : StepLocals β} {l' : StepLocals β'}

/-- The locals differ in related walkers and buses only. -/
def Alike (R : PageWalker → β → PageWalker → β' → Prop) (l : StepLocals β) (l' : StepLocals β') : Prop :=
  ∃ w b, l' = { l with pageWalker := w, bus := b } ∧ R l.pageWalker l.bus w b

/-- Both stages go on, or both end with the same error. -/
inductive StagesAlike (R : PageWalker → β → PageWalker → β' → Prop) : Stage β → Stage β' → Prop
  | ok {l : StepLocals β} {l' : StepLocals β'} (locals : l.Alike R l') : StagesAlike R (.ok l) (.ok l')
  | error {l : StepLocals β} {l' : StepLocals β'} (error : BusError) (locals : l.Alike R l') :
      StagesAlike R (.error (error, l)) (.error (error, l'))

theorem Alike.executeStage (h : l.Alike R l') (current : PipelineLatches) :
    (l.executeStage current).Alike R (l'.executeStage current) := by
  obtain ⟨w, b, rfl, related⟩ := h
  have hcall : ({ l with pageWalker := w, bus := b } : StepLocals β').executeCall current =
      l.executeCall current := rfl
  unfold StepLocals.executeStage
  rw [hcall]
  rcases l.executeCall current with _ | ⟨p, rs1Value, rs2Value⟩
  · exact ⟨w, b, rfl, related⟩
  dsimp only
  rcases ExStage.execute p.decoded rs1Value rs2Value l.state.privilege l.state.csrs with outcome | trap
  · dsimp only
    split
    · exact ⟨w, b, rfl, related⟩
    · exact ⟨w, b, rfl, related⟩
  · exact ⟨w, b, rfl, related⟩

theorem Alike.decodeStage (h : l.Alike R l') (current : PipelineLatches) :
    (l.decodeStage current).Alike R (l'.decodeStage current) := by
  obtain ⟨w, b, rfl, related⟩ := h
  unfold StepLocals.decodeStage
  dsimp only
  split
  · rcases current.ifId with _ | p
    · exact ⟨w, b, rfl, related⟩
    dsimp only
    rcases decode p.raw p.pc with error | decoded
    · exact ⟨w, b, rfl, related⟩
    dsimp only
    split
    · exact ⟨w, b, rfl, related⟩
    · exact ⟨w, b, rfl, related⟩
  · split
    · exact ⟨w, b, rfl, related⟩
    · exact ⟨w, b, rfl, related⟩

theorem Alike.skipFetch (h : l.Alike R l') : l.skipFetch.Alike R l'.skipFetch := by
  obtain ⟨w, b, rfl, related⟩ := h
  unfold StepLocals.skipFetch
  dsimp only
  split
  · exact ⟨w, b, rfl, related⟩
  · exact ⟨w, b, rfl, related⟩

variable [Bus β] [Bus β'] (alike : AnswersAlike R)

include alike

theorem Alike.writeBackStage (h : l.Alike R l') (current : PipelineLatches) :
    (l.writeBackStage current).Alike R (l'.writeBackStage current) := by
  obtain ⟨w, b, rfl, related⟩ := h
  unfold StepLocals.writeBackStage
  rcases current.memWb with _ | q
  · exact ⟨w, b, rfl, related⟩
  · obtain ⟨hcommit, hstate, hwalker⟩ := alike.writeBack related l.state q
    refine ⟨_, b, ?_, hwalker⟩
    dsimp only
    rw [← hcommit, ← hstate]

theorem Alike.takenInterrupt (h : l.Alike R l') : l'.takenInterrupt = l.takenInterrupt := by
  obtain ⟨w, b, rfl, related⟩ := h
  unfold StepLocals.takenInterrupt
  rw [alike.isBusy related]

theorem Alike.interruptStage (h : l.Alike R l') : l.interruptStage.Alike R l'.interruptStage := by
  have htaken := h.takenInterrupt alike
  unfold StepLocals.interruptStage
  rw [htaken]
  rcases l.takenInterrupt with _ | interrupt
  · exact h
  · obtain ⟨w, b, rfl, related⟩ := h
    exact ⟨w, b, rfl, related⟩

theorem Alike.memoryStage (h : l.Alike R l') (unifiedMemory : Bool) (current : PipelineLatches) :
    StagesAlike R (l.memoryStage unifiedMemory current) (l'.memoryStage unifiedMemory current) := by
  obtain ⟨w, b, rfl, related⟩ := h
  unfold StepLocals.memoryStage
  dsimp only
  split
  · exact .ok ⟨w, b, rfl, related⟩
  rcases current.exMem with _ | x
  · exact .ok ⟨w, b, rfl, related⟩
  have accessed := alike.access related l.state.csrs l.state.privilege x
  dsimp only
  generalize MemStage.access l.bus l.pageWalker l.state.csrs l.state.privilege x = out at accessed ⊢
  generalize MemStage.access b w l.state.csrs l.state.privilege x = out' at accessed ⊢
  obtain ⟨answer, w₁, b₁⟩ := out
  obtain ⟨answer', w₁', b₁'⟩ := out'
  obtain ⟨hanswer, related⟩ := accessed
  obtain rfl : answer = answer' := hanswer
  rcases answer with error | q | y | trap
  · exact .error error ⟨w₁', b₁', rfl, related⟩
  · exact .ok ⟨w₁', b₁', rfl, related⟩
  · exact .ok ⟨w₁', b₁', rfl, related⟩
  · exact .ok ⟨w₁', b₁', rfl, related⟩

theorem Alike.fetchStage (h : l.Alike R l') : StagesAlike R l.fetchStage l'.fetchStage := by
  have hskip := h.skipFetch
  obtain ⟨w, b, rfl, related⟩ := h
  have hfetches : ({ l with pageWalker := w, bus := b } : StepLocals β').fetches = l.fetches := rfl
  unfold StepLocals.fetchStage
  rw [hfetches]
  split
  · have fetched := alike.fetch related l.state.csrs l.state.privilege l.nextFrontEndPc l.predictor
    dsimp only
    generalize IfStage.fetch l.bus l.pageWalker l.state.csrs l.state.privilege l.nextFrontEndPc
      l.predictor = out at fetched ⊢
    generalize IfStage.fetch b w l.state.csrs l.state.privilege l.nextFrontEndPc l.predictor = out'
      at fetched ⊢
    obtain ⟨answer, w₁, b₁⟩ := out
    obtain ⟨answer', w₁', b₁'⟩ := out'
    obtain ⟨hanswer, related⟩ := fetched
    obtain rfl : answer = answer' := hanswer
    rcases answer with error | payload | _ | trap
    · exact .error error ⟨w₁', b₁', rfl, related⟩
    · exact .ok ⟨w₁', b₁', rfl, related⟩
    · exact .ok ⟨w₁', b₁', rfl, related⟩
    · exact .ok ⟨w₁', b₁', rfl, related⟩
  · exact .ok hskip

end StepLocals

/-! ## Cores and machines -/

section Cores

variable {β β' : Type} [Bus β] [Bus β'] {R : PageWalker → β → PageWalker → β' → Prop}

/-- The cores over two buses differ in related walkers and buses only. -/
def PipelineCore.Alike (R : PageWalker → β → PageWalker → β' → Prop) (core : PipelineCore) (bus : β)
    (core' : PipelineCore) (bus' : β') : Prop :=
  ∃ w, core' = { core with pageWalker := w } ∧ R core.pageWalker bus w bus'

namespace PipelineCore

variable {core core' : PipelineCore} {bus : β} {bus' : β'}

omit [Bus β] [Bus β'] in
/-- The end of a cycle. -/
theorem Alike.finishCycle {l : StepLocals β} {l' : StepLocals β'} (h : l.Alike R l') (core : PipelineCore)
    (w : PageWalker) :
    ({ core with pageWalker := w }.finishCycle l').1 = (core.finishCycle l).1 ∧
      (core.finishCycle l).2.1.Alike R (core.finishCycle l).2.2
        ({ core with pageWalker := w }.finishCycle l').2.1
        ({ core with pageWalker := w }.finishCycle l').2.2 := by
  obtain ⟨w', b', rfl, related⟩ := h
  exact ⟨rfl, w', rfl, related⟩

variable (alike : AnswersAlike R)

include alike

theorem Alike.begun (h : core.Alike R bus core' bus') :
    (core.begun bus).Alike R bus (core'.begun bus') bus' := by
  obtain ⟨w, rfl, related⟩ := h
  refine ⟨w, ?_, related⟩
  have hstate : beginCycle core.state bus' = beginCycle core.state bus := by
    unfold beginCycle
    rw [alike.machineTime related, alike.pendingInterrupts related]
  unfold PipelineCore.begun
  dsimp only
  rw [hstate]

/-- The locals after write-back. -/
theorem Alike.written (h : core.Alike R bus core' bus') :
    (core.written bus).Alike R (core'.written bus') := by
  obtain ⟨w, rfl, related⟩ := h
  have hentry : (core.entry bus).Alike R ({ core with pageWalker := w }.entry bus') :=
    ⟨w, bus', rfl, related⟩
  exact hentry.writeBackStage alike core.latches

/-- The stages up to MEM. -/
theorem Alike.memoryStage (h : core.Alike R bus core' bus') :
    StepLocals.StagesAlike R
      ((core.written bus).interruptStage.memoryStage core.structuralHazards.unifiedMemory core.latches)
      ((core'.written bus').interruptStage.memoryStage core'.structuralHazards.unifiedMemory core'.latches) := by
  have hmemory := ((h.written alike).interruptStage alike).memoryStage alike
    core.structuralHazards.unifiedMemory core.latches
  obtain ⟨w, rfl, related⟩ := h
  exact hmemory

/-- MEM gives the same answer. -/
theorem Alike.memoryAnswer (h : core.Alike R bus core' bus') :
    core'.memoryAnswer bus' = core.memoryAnswer bus := by
  have hwritten := h.written alike
  have htaken := hwritten.takenInterrupt alike
  obtain ⟨w, rfl, related⟩ := h
  obtain ⟨w', b', hlocals, hrelated⟩ := hwritten
  have hbus : b' = bus' := by
    have := congrArg StepLocals.bus hlocals
    rw [PipelineCore.written_bus] at this
    exact this.symm
  unfold PipelineCore.memoryAnswer
  rw [htaken, hlocals]
  dsimp only
  rw [PipelineCore.written_bus, hbus] at hrelated
  split
  · rfl
  · rcases core.latches.exMem with _ | x
    · rfl
    · rw [Option.bind_some, Option.bind_some]
      exact congrArg _ (alike.access hrelated _ _ x).answer.symm

/-- EX lets the same instruction advance. -/
theorem Alike.executed (h : core.Alike R bus core' bus') : core'.executed bus' = core.executed bus := by
  have hmemory := h.memoryStage alike
  have hwritten := h.written alike
  have hcall : core'.executeCall bus' = core.executeCall bus := by
    obtain ⟨w, rfl, related⟩ := h
    unfold PipelineCore.executeCall
    dsimp only at hmemory ⊢
    generalize (core.written bus).interruptStage.memoryStage core.structuralHazards.unifiedMemory
      core.latches = stage at hmemory ⊢
    generalize ({ core with pageWalker := w }.written bus').interruptStage.memoryStage
      core.structuralHazards.unifiedMemory core.latches = stage' at hmemory ⊢
    cases hmemory with
    | ok locals =>
      obtain ⟨w', b', rfl, -⟩ := locals
      rfl
    | error => rfl
  obtain ⟨w', b', hlocals, -⟩ := hwritten
  unfold PipelineCore.executed
  rw [hcall, hlocals]

/-- The stages up to ID. -/
theorem Alike.backStages (h : core.Alike R bus core' bus') :
    StepLocals.StagesAlike R (core.backStages bus) (core'.backStages bus') := by
  have hmemory := h.memoryStage alike
  obtain ⟨w, rfl, related⟩ := h
  unfold PipelineCore.backStages
  dsimp only at hmemory ⊢
  generalize (core.written bus).interruptStage.memoryStage core.structuralHazards.unifiedMemory core.latches =
    stage at hmemory ⊢
  generalize ({ core with pageWalker := w }.written bus').interruptStage.memoryStage
    core.structuralHazards.unifiedMemory core.latches = stage' at hmemory ⊢
  cases hmemory with
  | ok locals => exact .ok ((locals.executeStage core.latches).decodeStage core.latches)
  | error error locals => exact .error error locals

/-- **A running cycle has the same result on both**, and keeps it. -/
theorem Alike.runningCycle (h : core.Alike R bus core' bus') :
    (core'.runningCycle bus').1 = (core.runningCycle bus).1 ∧
      (core.runningCycle bus).2.1.Alike R (core.runningCycle bus).2.2 (core'.runningCycle bus').2.1
        (core'.runningCycle bus').2.2 := by
  have hback := h.backStages alike
  obtain ⟨w, rfl, related⟩ := h
  have failed {l : StepLocals β} {l' : StepLocals β'} (locals : l.Alike R l') :
      ({ core with state := l.state, pageWalker := l.pageWalker, predictor := l.predictor } :
        PipelineCore).Alike R l.bus
        { core with state := l'.state, pageWalker := l'.pageWalker, predictor := l'.predictor } l'.bus := by
    obtain ⟨w', b', rfl, related⟩ := locals
    exact ⟨w', rfl, related⟩
  unfold PipelineCore.runningCycle
  generalize core.backStages bus = stage at hback ⊢
  generalize ({ core with pageWalker := w }.backStages bus') = stage' at hback ⊢
  cases hback with
  | error error locals => exact ⟨rfl, failed locals⟩
  | @ok l l' locals =>
    have hfetch := locals.fetchStage alike
    dsimp only
    generalize l.fetchStage = stage at hfetch ⊢
    generalize l'.fetchStage = stage' at hfetch ⊢
    cases hfetch with
    | error error locals => exact ⟨rfl, failed locals⟩
    | ok locals =>
      obtain ⟨hcycle, hcore⟩ := Alike.finishCycle locals core w
      exact ⟨congrArg Except.ok hcycle, hcore⟩

/-- **A cycle has the same result on both**, and keeps it. -/
theorem Alike.stepCycle (h : core.Alike R bus core' bus') :
    (core'.stepCycle bus').1 = (core.stepCycle bus).1 ∧
      (core.stepCycle bus).2.1.Alike R (core.stepCycle bus).2.2 (core'.stepCycle bus').2.1
        (core'.stepCycle bus').2.2 := by
  have hbegun := h.begun alike
  unfold PipelineCore.stepCycle
  dsimp only
  have hhalted : (core'.begun bus').state.halted = (core.begun bus).state.halted := by
    obtain ⟨w, hcore, -⟩ := hbegun
    rw [hcore]
  rw [hhalted]
  split
  · obtain ⟨w, hcore, related⟩ := hbegun
    rw [hcore]
    have hwake : ({ core.begun bus with pageWalker := w } : PipelineCore).wakeInterrupt bus' =
        (core.begun bus).wakeInterrupt bus := by
      unfold PipelineCore.wakeInterrupt
      rw [alike.isBusy related]
    unfold PipelineCore.haltedCycle
    rw [hwake]
    rcases (core.begun bus).wakeInterrupt bus with _ | interrupt
    · exact ⟨rfl, w, rfl, related⟩
    · exact ⟨rfl, w, rfl, related⟩
  · exact hbegun.runningCycle alike

end PipelineCore

/-- The machines differ in related walkers and buses only. -/
def Machine.Alike (R : PageWalker → β → PageWalker → β' → Prop) (machine : Machine PipelineCore β)
    (machine' : Machine PipelineCore β') : Prop :=
  machine.cpu.Alike R machine.bus machine'.cpu machine'.bus

/-- The ticks do the same to buses that cannot be told apart. -/
def TicksAlike (R : PageWalker → β → PageWalker → β' → Prop) (tick : β → β) (tick' : β' → β') : Prop :=
  ∀ {w b w' b'}, R w b w' b' → R w (tick b) w' (tick' b')

namespace Machine

variable {machine : Machine PipelineCore β} {machine' : Machine PipelineCore β'}

theorem Alike.stepCycle (alike : AnswersAlike R) (h : machine.Alike R machine') {tick : β → β}
    {tick' : β' → β'} (hticks : TicksAlike R tick tick') :
    (machine.stepCycle tick).Alike R (machine'.stepCycle tick') := by
  obtain ⟨w, hcore, related⟩ := h
  have hticked : machine.cpu.Alike R (tick machine.bus) machine'.cpu (tick' machine'.bus) :=
    ⟨w, hcore, hticks related⟩
  exact (hticked.stepCycle alike).2

/-- **The cycles of a run keep it.** -/
theorem Alike.runCycles (alike : AnswersAlike R) {ticks : List (β → β)} {ticks' : List (β' → β')}
    (hticks : List.Forall₂ (TicksAlike R) ticks ticks') (h : machine.Alike R machine') :
    (machine.runCycles ticks).Alike R (machine'.runCycles ticks') := by
  induction hticks generalizing machine machine' with
  | nil => exact h
  | cons htick _ ih => exact ih (h.stepCycle alike htick)

end Machine

end Cores

end RvSim
