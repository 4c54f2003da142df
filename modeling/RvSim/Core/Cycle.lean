import RvSim.Core.Pipeline

/-!
# What one cycle of the pipeline can do

`PipelineCore.stepCycle` runs its stages one after the other on local variables. Here every way a
cycle can go is one constructor of `RunningCycle`, which says what each stage did and gives the
locals the cycle ends with; a property of the core is then a case analysis over these.

## Main definitions

* `MemoryPass`, `ExecutePass`, `DecodePass`: a stage that lets the cycle go on
* `RunningCycle`: the cycles of a running hart

## Main results

* `RunningCycle.stages_eq`, `RunningCycle.unique`: a `RunningCycle` is what the stages compute
* `PipelineCore.runningCycle_cases`: every cycle of a running hart is a `RunningCycle`
* `PipelineCore.stepCycle_cases`: a cycle is a wake-up, a wait, or a `RunningCycle`
* `PipelineCore.stepCycle_isOk`: a cycle never fails
-/

namespace RvSim

variable {β : Type} [Bus β]

/-! ## The stages that let a cycle go on -/

/-- MEM on the latched payload: nothing to do, or the access completes. -/
inductive MemoryPass (l : StepLocals β) :
    Option ExMemPayload → Option MemWbPayload → PageWalker → β → Prop
  | idle : MemoryPass l none none l.pageWalker l.bus
  | advance {p : ExMemPayload} {q : MemWbPayload} {w : PageWalker} {b : β}
      (access : MemStage.access l.bus l.pageWalker l.state.csrs l.state.privilege p =
        (.ok (.advance q), w, b)) :
      MemoryPass l (some p) (some q) w b

/-- What EX makes of the latched instruction `p` in hart state `state`. -/
def PipelineLatches.executeEvent (current : PipelineLatches) (state : HartState)
    (p : IdExPayload) : ExecuteEvent :=
  ExStage.execute p.decoded (current.operand p.decoded.rs1 p.rs1Value)
    (current.operand p.decoded.rs2 p.rs2Value) state.privilege state.csrs

/-- EX on the latches: nothing to do, or an instruction that goes where it was predicted to. -/
inductive ExecutePass (current : PipelineLatches) (l : StepLocals β) :
    Option ExMemPayload → BimodalPredictor → Prop
  | idle (latch : current.idEx = none) : ExecutePass current l none l.predictor
  | advance {p : IdExPayload} {outcome : ExecuteOutcome} (latch : current.idEx = some p)
      (execute : current.executeEvent l.state p = .advance outcome)
      (unserialized : isTranslationBarrierPayload p.decoded outcome.csrWrite = false)
      (predicted : p.predictedPc = outcome.nextPc) :
      ExecutePass current l (some (.of p.decoded outcome))
        (StepLocals.trainedPredictor l.predictor p.decoded outcome)

/-- ID on the latches: nothing to do, a stall that holds the word, or a decoded instruction. The
last argument is the stall. -/
inductive DecodePass (current : PipelineLatches) (registers : RegisterFile) :
    Option IfIdPayload → Option IdExPayload → Bool → Prop
  | idle (latch : current.ifId = none) : DecodePass current registers none none false
  | stall {p : IfIdPayload} {d : DecodedInstruction} (latch : current.ifId = some p)
      (decoded : decode p.raw p.pc = .ok d) (hazard : StepLocals.decodeHazard current d = true) :
      DecodePass current registers (some p) none true
  | advance {p : IfIdPayload} {d : DecodedInstruction} (latch : current.ifId = some p)
      (decoded : decode p.raw p.pc = .ok d)
      (noHazard : StepLocals.decodeHazard current d = false) :
      DecodePass current registers none (some (.of p d registers)) false

/-- Whether the access in MEM keeps IF from the bus. -/
def PipelineCore.fetchBlocked (core : PipelineCore) : Bool :=
  core.latches.exMem.any fun p =>
    fetchBlockedByMemoryAccess core.structuralHazards.unifiedMemory (ExStage.usesMemory p.decoded)

/-! ## The cycles of a running hart -/

/-- The cycles of a running hart, with the locals they end with. In all constructors but the first
no interrupt is taken; from `executeTrap` on MEM has let the cycle go on. -/
inductive RunningCycle (core : PipelineCore) (bus : β) : StepLocals β → Prop
  | interrupt {i : Interrupt} (taken : (core.written bus).takenInterrupt = some i) :
      RunningCycle core bus
        ((core.written bus).takeTrap (.interrupt i) (core.written bus).state.pc)
  | memoryTrap {p : ExMemPayload} {t : Trap} {w : PageWalker} {b : β}
      (noInterrupt : (core.written bus).takenInterrupt = none)
      (latch : core.latches.exMem = some p)
      (access : MemStage.access bus (core.written bus).pageWalker (core.written bus).state.csrs
        (core.written bus).state.privilege p = (.ok (.trap t), w, b)) :
      RunningCycle core bus
        ({ core.written bus with
            pageWalker := w, bus := b, fetchStalled := core.fetchBlocked }.takeTrap t p.decoded.pc)
  | memoryWait {p : ExMemPayload} {w : PageWalker} {b : β}
      (noInterrupt : (core.written bus).takenInterrupt = none)
      (latch : core.latches.exMem = some p)
      (access : MemStage.access bus (core.written bus).pageWalker (core.written bus).state.csrs
        (core.written bus).state.privilege p = (.ok (.stall p), w, b)) :
      RunningCycle core bus
        { core.written bus with
          pageWalker := w, bus := b, memoryWait := true, fetchStalled := true
          decodeStalled := core.latches.ifId.isSome
          next := { ifId := core.latches.ifId, idEx := core.latches.idEx, exMem := some p } }
  | barrierHold {q : Option MemWbPayload} {w : PageWalker} {b : β}
      (noInterrupt : (core.written bus).takenInterrupt = none)
      (memory : MemoryPass (core.written bus) core.latches.exMem q w b)
      (barrier : (core.written bus).translationBarrier = true) :
      RunningCycle core bus
        { core.written bus with
          pageWalker := w, bus := b, fetchStalled := true
          decodeStalled := core.latches.ifId.isSome
          next := { ifId := core.latches.ifId, idEx := core.latches.idEx, memWb := q } }
  | executeTrap {q : Option MemWbPayload} {w : PageWalker} {b : β} {p : IdExPayload} {t : Trap}
      (noInterrupt : (core.written bus).takenInterrupt = none)
      (memory : MemoryPass (core.written bus) core.latches.exMem q w b)
      (noBarrier : (core.written bus).translationBarrier = false)
      (latch : core.latches.idEx = some p)
      (execute : core.latches.executeEvent (core.written bus).state p = .trap t) :
      RunningCycle core bus
        ({ core.written bus with
            pageWalker := w, bus := b, fetchStalled := core.fetchBlocked
            next := { memWb := q } }.takeTrap t p.decoded.pc)
  | redirect {q : Option MemWbPayload} {w : PageWalker} {b : β} {p : IdExPayload}
      {outcome : ExecuteOutcome}
      (noInterrupt : (core.written bus).takenInterrupt = none)
      (memory : MemoryPass (core.written bus) core.latches.exMem q w b)
      (noBarrier : (core.written bus).translationBarrier = false)
      (latch : core.latches.idEx = some p)
      (execute : core.latches.executeEvent (core.written bus).state p = .advance outcome)
      (flush : (isTranslationBarrierPayload p.decoded outcome.csrWrite
        || detectBranchFlush p.predictedPc outcome.nextPc) = true) :
      RunningCycle core bus
        { core.written bus with
          pageWalker := w, bus := b, fetchStalled := core.fetchBlocked
          predictor := StepLocals.trainedPredictor core.predictor p.decoded outcome
          flushed := true, nextFrontEndPc := outcome.nextPc
          translationBarrier := isTranslationBarrierPayload p.decoded outcome.csrWrite
          next := { exMem := some (.of p.decoded outcome), memWb := q } }
  | illegal {q : Option MemWbPayload} {w : PageWalker} {b : β} {x : Option ExMemPayload}
      {predictor : BimodalPredictor} {p : IfIdPayload} {error : DecodeError}
      (noInterrupt : (core.written bus).takenInterrupt = none)
      (memory : MemoryPass (core.written bus) core.latches.exMem q w b)
      (noBarrier : (core.written bus).translationBarrier = false)
      (execute : ExecutePass core.latches (core.written bus) x predictor)
      (latch : core.latches.ifId = some p)
      (undecoded : decode p.raw p.pc = .error error) :
      RunningCycle core bus
        ({ core.written bus with
            pageWalker := w, bus := b, fetchStalled := core.fetchBlocked, predictor
            next := { exMem := x, memWb := q } }.takeTrap
              (.exception (.illegalInstruction p.raw)) p.pc)
  | unfetched {q : Option MemWbPayload} {w : PageWalker} {b : β} {x : Option ExMemPayload}
      {predictor : BimodalPredictor} {i : Option IfIdPayload} {d : Option IdExPayload} {s : Bool}
      (noInterrupt : (core.written bus).takenInterrupt = none)
      (memory : MemoryPass (core.written bus) core.latches.exMem q w b)
      (noBarrier : (core.written bus).translationBarrier = false)
      (execute : ExecutePass core.latches (core.written bus) x predictor)
      (decode : DecodePass core.latches (core.written bus).state.registers i d s)
      (blocked : (s || core.fetchBlocked) = true) :
      RunningCycle core bus
        { core.written bus with
          pageWalker := w, bus := b, fetchStalled := core.fetchBlocked, decodeStalled := s
          predictor
          next := { ifId := i, idEx := d, exMem := x, memWb := q } }
  | fetched {q : Option MemWbPayload} {w w' : PageWalker} {b b' : β} {x : Option ExMemPayload}
      {predictor : BimodalPredictor} {d : Option IdExPayload} {payload : IfIdPayload}
      (noInterrupt : (core.written bus).takenInterrupt = none)
      (memory : MemoryPass (core.written bus) core.latches.exMem q w b)
      (noBarrier : (core.written bus).translationBarrier = false)
      (execute : ExecutePass core.latches (core.written bus) x predictor)
      (decode : DecodePass core.latches (core.written bus).state.registers none d false)
      (unblocked : core.fetchBlocked = false)
      (fetch : IfStage.fetch b w (core.written bus).state.csrs (core.written bus).state.privilege
        core.frontEndPc predictor = (.ok (.advance payload), w', b')) :
      RunningCycle core bus
        { core.written bus with
          pageWalker := w', bus := b', predictor, nextFrontEndPc := payload.predictedPc
          next := { ifId := some payload, idEx := d, exMem := x, memWb := q } }
  | fetchStall {q : Option MemWbPayload} {w w' : PageWalker} {b b' : β} {x : Option ExMemPayload}
      {predictor : BimodalPredictor} {d : Option IdExPayload}
      (noInterrupt : (core.written bus).takenInterrupt = none)
      (memory : MemoryPass (core.written bus) core.latches.exMem q w b)
      (noBarrier : (core.written bus).translationBarrier = false)
      (execute : ExecutePass core.latches (core.written bus) x predictor)
      (decode : DecodePass core.latches (core.written bus).state.registers none d false)
      (unblocked : core.fetchBlocked = false)
      (fetch : IfStage.fetch b w (core.written bus).state.csrs (core.written bus).state.privilege
        core.frontEndPc predictor = (.ok .stall, w', b')) :
      RunningCycle core bus
        { core.written bus with
          pageWalker := w', bus := b', predictor, fetchStalled := true
          next := { idEx := d, exMem := x, memWb := q } }
  | fetchTrap {q : Option MemWbPayload} {w w' : PageWalker} {b b' : β} {x : Option ExMemPayload}
      {predictor : BimodalPredictor} {d : Option IdExPayload} {t : Trap}
      (noInterrupt : (core.written bus).takenInterrupt = none)
      (memory : MemoryPass (core.written bus) core.latches.exMem q w b)
      (noBarrier : (core.written bus).translationBarrier = false)
      (execute : ExecutePass core.latches (core.written bus) x predictor)
      (decode : DecodePass core.latches (core.written bus).state.registers none d false)
      (unblocked : core.fetchBlocked = false)
      (fetch : IfStage.fetch b w (core.written bus).state.csrs (core.written bus).state.privilege
        core.frontEndPc predictor = (.ok (.trap t), w', b')) :
      RunningCycle core bus
        ({ core.written bus with
            pageWalker := w', bus := b', predictor
            next := { idEx := d, exMem := x, memWb := q } }.takeTrap t core.frontEndPc)

/-! ## What the stages compute -/

namespace PipelineCore

section Written

variable (core : PipelineCore) (bus : β)

omit [Bus β]

/-- Write-back leaves every local alone but the state, the walker, the commit and the barrier. -/
theorem written_eq {γ : Type} (field : StepLocals β → γ)
    (hfield : ∀ l (commit : CommitEvent) state walker barrier,
      field { l with
        state, pageWalker := walker, commit := some commit
        retiredInstructions := l.retiredInstructions + 1, translationBarrier := barrier } =
      field l) :
    field (core.written bus) = field (core.entry bus) := by
  unfold written StepLocals.writeBackStage
  split
  · rfl
  · exact hfield (core.entry bus) _ _ _ _

@[simp] theorem written_predictor : (core.written bus).predictor = core.predictor :=
  core.written_eq bus (·.predictor) fun _ _ _ _ _ => rfl

@[simp] theorem written_bus : (core.written bus).bus = bus :=
  core.written_eq bus (·.bus) fun _ _ _ _ _ => rfl

@[simp] theorem written_next : (core.written bus).next = {} :=
  core.written_eq bus (·.next) fun _ _ _ _ _ => rfl

@[simp] theorem written_nextFrontEndPc : (core.written bus).nextFrontEndPc = core.frontEndPc :=
  core.written_eq bus (·.nextFrontEndPc) fun _ _ _ _ _ => rfl

@[simp] theorem written_fetchStalled : (core.written bus).fetchStalled = false :=
  core.written_eq bus (·.fetchStalled) fun _ _ _ _ _ => rfl

@[simp] theorem written_decodeStalled : (core.written bus).decodeStalled = false :=
  core.written_eq bus (·.decodeStalled) fun _ _ _ _ _ => rfl

@[simp] theorem written_flushed : (core.written bus).flushed = false :=
  core.written_eq bus (·.flushed) fun _ _ _ _ _ => rfl

@[simp] theorem written_memoryWait : (core.written bus).memoryWait = false :=
  core.written_eq bus (·.memoryWait) fun _ _ _ _ _ => rfl

@[simp] theorem written_trapResult : (core.written bus).trapResult = none :=
  core.written_eq bus (·.trapResult) fun _ _ _ _ _ => rfl

end Written

section Passes

variable {core : PipelineCore} {bus : β} {q : Option MemWbPayload} {w : PageWalker} {b : β}
  {x : Option ExMemPayload} {predictor : BimodalPredictor}

/-- The locals after a MEM that lets the cycle go on. -/
theorem memoryStage_of_pass (noInterrupt : (core.written bus).takenInterrupt = none)
    (memory : MemoryPass (core.written bus) core.latches.exMem q w b) :
    (core.written bus).interruptStage.memoryStage core.structuralHazards.unifiedMemory
      core.latches = .ok { core.written bus with
        pageWalker := w, bus := b, fetchStalled := core.fetchBlocked, next := { memWb := q } } := by
  have hstage : (core.written bus).interruptStage = core.written bus := by
    rw [StepLocals.interruptStage, noInterrupt]
  rw [hstage, StepLocals.memoryStage, if_neg (by simp)]
  generalize hlatch : core.latches.exMem = exMem at memory
  cases memory with
  | idle =>
    have hblocked : core.fetchBlocked = false := by simp [fetchBlocked, hlatch]
    exact congrArg Except.ok (by ext1 <;> simp [hblocked])
  | advance access => simp only [access, fetchBlocked, hlatch, Option.any_some, written_next]

omit [Bus β] in
/-- The locals after an EX that lets the cycle go on. -/
theorem executeStage_of_pass (noBarrier : (core.written bus).translationBarrier = false)
    (execute : ExecutePass core.latches (core.written bus) x predictor) :
    StepLocals.executeStage { core.written bus with
      pageWalker := w, bus := b, fetchStalled := core.fetchBlocked, next := { memWb := q } }
      core.latches =
    { core.written bus with
      pageWalker := w, bus := b, fetchStalled := core.fetchBlocked, predictor
      next := { exMem := x, memWb := q } } := by
  cases execute with
  | idle latch => simp [StepLocals.executeStage, StepLocals.executeCall, latch]
  | advance latch execute unserialized predicted =>
    unfold PipelineLatches.executeEvent at execute
    simp [StepLocals.executeStage, StepLocals.executeCall, latch, noBarrier, execute,
      unserialized, detectBranchFlush, predicted]

omit [Bus β] in
/-- The locals after an ID that does not trap. -/
theorem decodeStage_of_pass {i : Option IfIdPayload} {d : Option IdExPayload} {s : Bool}
    (noBarrier : (core.written bus).translationBarrier = false)
    (decode : DecodePass core.latches (core.written bus).state.registers i d s) :
    StepLocals.decodeStage { core.written bus with
      pageWalker := w, bus := b, fetchStalled := core.fetchBlocked, predictor
      next := { exMem := x, memWb := q } } core.latches =
    { core.written bus with
      pageWalker := w, bus := b, fetchStalled := core.fetchBlocked, decodeStalled := s, predictor
      next := { ifId := i, idEx := d, exMem := x, memWb := q } } := by
  cases decode with
  | idle latch => simp [StepLocals.decodeStage, latch, noBarrier]
  | stall latch decoded hazard => simp [StepLocals.decodeStage, latch, noBarrier, decoded, hazard]
  | advance latch decoded noHazard =>
    simp [StepLocals.decodeStage, latch, noBarrier, decoded, noHazard]

end Passes

variable (core : PipelineCore) (bus : β)

/-- The stages of a cycle in order, from the locals after the interrupt check. -/
def laterStages (l : StepLocals β) : StepLocals.Stage β :=
  match l.memoryStage core.structuralHazards.unifiedMemory core.latches with
  | .ok l => ((l.executeStage core.latches).decodeStage core.latches).fetchStage
  | .error failure => .error failure

theorem runningCycle_of_laterStages {l : StepLocals β}
    (h : core.laterStages (core.written bus).interruptStage = .ok l) :
    core.runningCycle bus = (.ok (core.finishCycle l).1, (core.finishCycle l).2) := by
  unfold laterStages at h
  unfold runningCycle backStages
  generalize StepLocals.memoryStage _ (core.written bus).interruptStage core.latches = memory at h ⊢
  cases memory with
  | ok l' => simp only [h]
  | error failure => cases h

/-- A flushed cycle changes nothing more but the front-end latches, which it clears. -/
theorem laterStages_of_flushed {l : StepLocals β} (h : l.flushed = true) :
    core.laterStages l = .ok { l with next := { l.next with ifId := none, idEx := none } } := by
  simp [laterStages, StepLocals.memoryStage, StepLocals.executeStage, StepLocals.executeCall,
    StepLocals.decodeStage, StepLocals.fetchStage, StepLocals.fetches, StepLocals.skipFetch, h]

/-- ID and IF after a flush in EX. -/
theorem frontEnd_of_flushed {l : StepLocals β} (h : l.flushed = true) :
    (l.decodeStage core.latches).fetchStage =
      .ok { l with next := { l.next with ifId := none, idEx := none } } := by
  simp [StepLocals.decodeStage, StepLocals.fetchStage, StepLocals.fetches, StepLocals.skipFetch, h]

/-- EX, ID and IF after a MEM that has suspended the cycle, or flushed it. -/
theorem frontEnd_of_stopped {l : StepLocals β} (h : (l.flushed || l.memoryWait) = true) :
    ((l.executeStage core.latches).decodeStage core.latches).fetchStage = .ok l.skipFetch := by
  rcases Bool.or_eq_true_iff.mp h with h | h <;>
    simp [StepLocals.executeStage, StepLocals.executeCall, StepLocals.decodeStage,
      StepLocals.fetchStage, StepLocals.fetches, h]

end PipelineCore

namespace RunningCycle

variable {core : PipelineCore} {bus : β} {l l' : StepLocals β}

open PipelineCore

/-- The locals of a `RunningCycle` are those the stages compute. -/
theorem stages_eq (cycle : RunningCycle core bus l) :
    core.laterStages (core.written bus).interruptStage = .ok l := by
  -- up to ID nothing flushes and nothing waits
  have passed {q w b x predictor i d s}
      (noInterrupt : (core.written bus).takenInterrupt = none)
      (memory : MemoryPass (core.written bus) core.latches.exMem q w b)
      (noBarrier : (core.written bus).translationBarrier = false)
      (execute : ExecutePass core.latches (core.written bus) x predictor)
      (decode : DecodePass core.latches (core.written bus).state.registers i d s) :
      core.laterStages (core.written bus).interruptStage =
        StepLocals.fetchStage { core.written bus with
          pageWalker := w, bus := b, fetchStalled := core.fetchBlocked, decodeStalled := s
          predictor, next := { ifId := i, idEx := d, exMem := x, memWb := q } } := by
    rw [laterStages, memoryStage_of_pass noInterrupt memory]
    dsimp only
    rw [executeStage_of_pass noBarrier execute, decodeStage_of_pass noBarrier decode]
  have uninterrupted (noInterrupt : (core.written bus).takenInterrupt = none) :
      (core.written bus).interruptStage = core.written bus := by
    rw [StepLocals.interruptStage, noInterrupt]
  -- in each of the other cases the stages behind the event are skipped
  cases cycle with
  | interrupt taken =>
    rw [StepLocals.interruptStage, taken]
    exact (core.laterStages_of_flushed rfl).trans (by simp [StepLocals.takeTrap])
  | memoryTrap noInterrupt latch access =>
    rw [laterStages, uninterrupted noInterrupt]
    simp [StepLocals.memoryStage, latch, access, fetchBlocked, frontEnd_of_stopped,
      StepLocals.takeTrap, StepLocals.skipFetch]
  | memoryWait noInterrupt latch access =>
    rw [laterStages, uninterrupted noInterrupt]
    simp [StepLocals.memoryStage, latch, access, frontEnd_of_stopped, StepLocals.skipFetch]
  | barrierHold noInterrupt memory barrier =>
    rw [laterStages, memoryStage_of_pass noInterrupt memory]
    simp [StepLocals.executeStage, StepLocals.executeCall, StepLocals.decodeStage,
      StepLocals.fetchStage, StepLocals.fetches, StepLocals.skipFetch, barrier]
  | executeTrap noInterrupt memory noBarrier latch execute =>
    rw [laterStages, memoryStage_of_pass noInterrupt memory]
    unfold PipelineLatches.executeEvent at execute
    simp [StepLocals.executeStage, StepLocals.executeCall, latch, noBarrier, execute,
      StepLocals.takeTrap, frontEnd_of_flushed]
  | redirect noInterrupt memory noBarrier latch execute flush =>
    rw [laterStages, memoryStage_of_pass noInterrupt memory]
    unfold PipelineLatches.executeEvent at execute
    simp only [StepLocals.executeStage, StepLocals.executeCall, latch, noBarrier, execute, flush,
      written_flushed, written_memoryWait, Bool.not_false, Bool.and_self, if_true, Option.map_some]
    rw [frontEnd_of_flushed _ rfl]
    simp
  | illegal noInterrupt memory noBarrier execute latch undecoded =>
    rw [laterStages, memoryStage_of_pass noInterrupt memory]
    dsimp only
    rw [executeStage_of_pass noBarrier execute]
    simp [StepLocals.decodeStage, latch, noBarrier, undecoded, StepLocals.fetchStage,
      StepLocals.fetches, StepLocals.skipFetch, StepLocals.takeTrap]
  | unfetched noInterrupt memory noBarrier execute decode blocked =>
    rw [passed noInterrupt memory noBarrier execute decode]
    rcases Bool.or_eq_true_iff.mp blocked with h | h <;>
      simp [StepLocals.fetchStage, StepLocals.fetches, StepLocals.skipFetch, h]
  | fetched noInterrupt memory noBarrier execute decode unblocked fetch =>
    rw [passed noInterrupt memory noBarrier execute decode]
    simp [StepLocals.fetchStage, StepLocals.fetches, unblocked, noBarrier, fetch]
  | fetchStall noInterrupt memory noBarrier execute decode unblocked fetch =>
    rw [passed noInterrupt memory noBarrier execute decode]
    simp [StepLocals.fetchStage, StepLocals.fetches, unblocked, noBarrier, fetch]
  | fetchTrap noInterrupt memory noBarrier execute decode unblocked fetch =>
    rw [passed noInterrupt memory noBarrier execute decode]
    simp [StepLocals.fetchStage, StepLocals.fetches, unblocked, noBarrier, fetch]

/-- A running cycle can go in one way only. -/
theorem unique (cycle : RunningCycle core bus l) (cycle' : RunningCycle core bus l') : l = l' :=
  Except.ok.inj (cycle.stages_eq.symm.trans cycle'.stages_eq)

/-! ## Every running cycle is one of these -/

/-- IF, behind stages that let the cycle go on. -/
theorem exists_of_decode {q : Option MemWbPayload} {w : PageWalker} {b : β}
    {x : Option ExMemPayload} {predictor : BimodalPredictor} {i : Option IfIdPayload}
    {d : Option IdExPayload} {s : Bool}
    (noInterrupt : (core.written bus).takenInterrupt = none)
    (memory : MemoryPass (core.written bus) core.latches.exMem q w b)
    (noBarrier : (core.written bus).translationBarrier = false)
    (execute : ExecutePass core.latches (core.written bus) x predictor)
    (decode : DecodePass core.latches (core.written bus).state.registers i d s) :
    ∃ l, RunningCycle core bus l := by
  by_cases hblocked : (s || core.fetchBlocked) = true
  · exact ⟨_, .unfetched noInterrupt memory noBarrier execute decode hblocked⟩
  · simp only [Bool.not_eq_true, Bool.or_eq_false_iff] at hblocked
    obtain ⟨rfl, hfree⟩ := hblocked
    obtain rfl : i = none := by cases decode <;> rfl
    have hok := IfStage.fetch_isOk b w (core.written bus).state.csrs
      (core.written bus).state.privilege core.frontEndPc predictor
    rcases hf : IfStage.fetch b w (core.written bus).state.csrs (core.written bus).state.privilege
      core.frontEndPc predictor with ⟨answer, w', b'⟩
    rw [hf] at hok
    match answer, hok with
    | .ok (.advance payload), _ =>
      exact ⟨_, .fetched noInterrupt memory noBarrier execute decode hfree hf⟩
    | .ok .stall, _ => exact ⟨_, .fetchStall noInterrupt memory noBarrier execute decode hfree hf⟩
    | .ok (.trap t), _ => exact ⟨_, .fetchTrap noInterrupt memory noBarrier execute decode hfree hf⟩

/-- ID and IF, behind a MEM and an EX that let the cycle go on. -/
theorem exists_of_execute {q : Option MemWbPayload} {w : PageWalker} {b : β}
    {x : Option ExMemPayload} {predictor : BimodalPredictor}
    (noInterrupt : (core.written bus).takenInterrupt = none)
    (memory : MemoryPass (core.written bus) core.latches.exMem q w b)
    (noBarrier : (core.written bus).translationBarrier = false)
    (execute : ExecutePass core.latches (core.written bus) x predictor) :
    ∃ l, RunningCycle core bus l := by
  rcases hlatch : core.latches.ifId with _ | p
  · exact exists_of_decode noInterrupt memory noBarrier execute (.idle hlatch)
  · rcases hdecode : decode p.raw p.pc with error | d
    · exact ⟨_, .illegal noInterrupt memory noBarrier execute hlatch hdecode⟩
    · by_cases hhazard : StepLocals.decodeHazard core.latches d = true
      · exact exists_of_decode noInterrupt memory noBarrier execute (.stall hlatch hdecode hhazard)
      · rw [Bool.not_eq_true] at hhazard
        exact exists_of_decode noInterrupt memory noBarrier execute
          (.advance hlatch hdecode hhazard)

/-- EX, ID and IF, behind a MEM that lets the cycle go on. -/
theorem exists_of_memory {q : Option MemWbPayload} {w : PageWalker} {b : β}
    (noInterrupt : (core.written bus).takenInterrupt = none)
    (memory : MemoryPass (core.written bus) core.latches.exMem q w b) :
    ∃ l, RunningCycle core bus l := by
  by_cases hbarrier : (core.written bus).translationBarrier = true
  · exact ⟨_, .barrierHold noInterrupt memory hbarrier⟩
  rw [Bool.not_eq_true] at hbarrier
  rcases hlatch : core.latches.idEx with _ | p
  · exact exists_of_execute noInterrupt memory hbarrier (.idle hlatch)
  · rcases hexecute : core.latches.executeEvent (core.written bus).state p with outcome | t
    · by_cases hflush : (isTranslationBarrierPayload p.decoded outcome.csrWrite
          || detectBranchFlush p.predictedPc outcome.nextPc) = true
      · exact ⟨_, .redirect noInterrupt memory hbarrier hlatch hexecute hflush⟩
      · simp only [detectBranchFlush, Bool.or_eq_true, bne_iff_ne, ne_eq, not_or, not_not,
          Bool.not_eq_true] at hflush
        exact exists_of_execute noInterrupt memory hbarrier
          (.advance hlatch hexecute hflush.1 hflush.2)
    · exact ⟨_, .executeTrap noInterrupt memory hbarrier hlatch hexecute⟩

/-- Every cycle of a running hart is a `RunningCycle`. -/
theorem exists_running (core : PipelineCore) (bus : β) : ∃ l, RunningCycle core bus l := by
  rcases htaken : (core.written bus).takenInterrupt with _ | i
  · rcases hlatch : core.latches.exMem with _ | p
    · exact exists_of_memory htaken (by rw [hlatch]; exact .idle)
    · have hok := MemStage.access_isOk bus (core.written bus).pageWalker
        (core.written bus).state.csrs (core.written bus).state.privilege p
      rcases haccess : MemStage.access bus (core.written bus).pageWalker
        (core.written bus).state.csrs (core.written bus).state.privilege p with ⟨answer, w, b⟩
      rw [haccess] at hok
      match answer, hok with
      | .ok (.advance q), _ =>
        have memory : MemoryPass (core.written bus) core.latches.exMem (some q) w b := by
          rw [hlatch]
          exact .advance (by rw [PipelineCore.written_bus]; exact haccess)
        exact exists_of_memory htaken memory
      | .ok (.stall p'), _ =>
        obtain rfl := MemStage.access_stall haccess
        exact ⟨_, .memoryWait htaken hlatch haccess⟩
      | .ok (.trap t), _ => exact ⟨_, .memoryTrap htaken hlatch haccess⟩
  · exact ⟨_, .interrupt htaken⟩

end RunningCycle

/-- **The cases of a running cycle**: each is a `RunningCycle`, and none fails. -/
theorem PipelineCore.runningCycle_cases (core : PipelineCore) (bus : β) :
    ∃ l, RunningCycle core bus l ∧
      core.runningCycle bus = (.ok (core.finishCycle l).1, (core.finishCycle l).2) := by
  obtain ⟨l, cycle⟩ := RunningCycle.exists_running core bus
  exact ⟨l, cycle, core.runningCycle_of_laterStages bus cycle.stages_eq⟩

/-! ## Every cycle of a hart -/

/-- The cycles of a hart, from the core at the start of the cycle to the core and bus after it. -/
inductive Cycle (core : PipelineCore) (bus : β) : PipelineCore → β → Prop
  | wake {i : Interrupt} (halted : core.state.halted = true)
      (interrupt : core.wakeInterrupt bus = some i) :
      Cycle core bus
        { core with
          state := (applyTrap core.state (.interrupt i) core.state.pc).1
          frontEndPc := (applyTrap core.state (.interrupt i) core.state.pc).1.pc
          latches := {}, lastCommit := none
          lastResult := (applyTrap core.state (.interrupt i) core.state.pc).2 }
        bus
  | wait (halted : core.state.halted = true) (noInterrupt : core.wakeInterrupt bus = none) :
      Cycle core bus { core with lastCommit := none, lastResult := {} } bus
  | running {l : StepLocals β} (running : core.state.halted = false)
      (cycle : RunningCycle core bus l) :
      Cycle core bus (core.finishCycle l).2.1 l.bus

namespace PipelineCore

variable (core : PipelineCore) (bus : β)

/-- **The cases of a cycle.** -/
theorem stepCycle_cases :
    Cycle (core.begun bus) bus (core.stepCycle bus).2.1 (core.stepCycle bus).2.2 := by
  unfold stepCycle
  by_cases hhalted : (core.begun bus).state.halted = true
  · rw [if_pos hhalted]
    rcases hwake : (core.begun bus).wakeInterrupt bus with _ | i
    · simpa only [haltedCycle, hwake] using Cycle.wait hhalted hwake
    · simpa only [haltedCycle, hwake] using Cycle.wake hhalted hwake
  · rw [if_neg hhalted]
    obtain ⟨l, hcycle, hstep⟩ := (core.begun bus).runningCycle_cases bus
    rw [hstep]
    exact .running (Bool.not_eq_true _ ▸ hhalted) hcycle

/-- No bus makes a cycle fail. -/
theorem stepCycle_isOk : (core.stepCycle bus).1.isOk := by
  unfold stepCycle
  by_cases hhalted : (core.begun bus).state.halted = true
  · rw [if_pos hhalted]
    rfl
  · rw [if_neg hhalted]
    obtain ⟨l, -, hstep⟩ := (core.begun bus).runningCycle_cases bus
    rw [hstep]
    rfl

end PipelineCore

/-! ## Write-back -/

namespace PipelineCore

variable (core : PipelineCore) (bus : β)

omit [Bus β]

/-- The hart state after write-back of the MEM/WB latch. -/
theorem written_state : (core.written bus).state =
    match core.latches.memWb with
    | none => core.state
    | some q => (WbStage.writeBack core.state core.pageWalker q).2.1 := by
  unfold written StepLocals.writeBackStage
  rcases core.latches.memWb with _ | q <;> rfl

theorem written_retiredInstructions : (core.written bus).retiredInstructions =
    if core.latches.memWb.isSome then 1 else 0 := by
  unfold written StepLocals.writeBackStage
  rcases core.latches.memWb with _ | q <;> simp [entry]

/-! ## The fields of the core after a cycle -/

@[simp] theorem finishCycle_latches (l : StepLocals β) :
    (core.finishCycle l).2.1.latches = l.next := rfl

@[simp] theorem finishCycle_translationBarrier (l : StepLocals β) :
    (core.finishCycle l).2.1.translationBarrier = l.translationBarrier := rfl

@[simp] theorem finishCycle_frontEndPc (l : StepLocals β) :
    (core.finishCycle l).2.1.frontEndPc = l.nextFrontEndPc := rfl

@[simp] theorem finishCycle_registers (l : StepLocals β) :
    (core.finishCycle l).2.1.state.registers = l.state.registers := rfl

variable [Bus β]

@[simp] theorem begun_latches : (core.begun bus).latches = core.latches := rfl

@[simp] theorem begun_translationBarrier :
    (core.begun bus).translationBarrier = core.translationBarrier := rfl

@[simp] theorem begun_frontEndPc : (core.begun bus).frontEndPc = core.frontEndPc := rfl

@[simp] theorem begun_registers : (core.begun bus).state.registers = core.state.registers := rfl

@[simp] theorem begun_halted : (core.begun bus).state.halted = core.state.halted := rfl

end PipelineCore

/-! ## The locals after a trap -/

namespace StepLocals

variable (l : StepLocals β) (t : Trap) (pc : U32)

omit [Bus β]

@[simp] theorem takeTrap_next : (l.takeTrap t pc).next = l.next := rfl

@[simp] theorem takeTrap_bus : (l.takeTrap t pc).bus = l.bus := rfl

@[simp] theorem takeTrap_pageWalker : (l.takeTrap t pc).pageWalker = l.pageWalker := rfl

@[simp] theorem takeTrap_translationBarrier :
    (l.takeTrap t pc).translationBarrier = l.translationBarrier := rfl

@[simp] theorem takeTrap_state : (l.takeTrap t pc).state = (applyTrap l.state t pc).1 := rfl

@[simp] theorem takeTrap_nextFrontEndPc :
    (l.takeTrap t pc).nextFrontEndPc = (applyTrap l.state t pc).1.pc := rfl

end StepLocals

end RvSim
