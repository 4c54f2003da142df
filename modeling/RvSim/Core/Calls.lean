import RvSim.Core.Cycle

/-!
# The calls of a cycle, and where its latches come from

What `step_cycle` hands to EX, ID, MEM and IF in a cycle, as functions of the core and the bus, and
for each latch the ways in which a cycle can fill it.

## Main definitions

* `PipelineCore.executeCall`, `PipelineCore.decodeCall`: what EX and ID work on
* `PipelineCore.executed`: what EX lets advance
* `PipelineCore.memoryAnswer`, `PipelineCore.fetchAnswer`: what MEM and IF answer

## Main results

* `PipelineCore.executeCall_eq_some_iff`: when EX runs, and with which operands
* `RunningCycle.memWb_eq`, `RunningCycle.exMem_cases`, `RunningCycle.idEx_cases`,
  `RunningCycle.ifId_cases`: the latches after a cycle
* `RunningCycle.of_redirect`: the cycle in which EX redirects
-/

namespace RvSim

variable {β : Type} [Bus β]

/-! ## The calls of a cycle -/

namespace PipelineCore

/-- The payload and operands `step_cycle` hands to `ex_stage::execute`, if it calls it. -/
def executeCall (core : PipelineCore) (bus : β) : Option (IdExPayload × U32 × U32) :=
  if core.state.halted then none
  else
    match (core.written bus).interruptStage.memoryStage core.structuralHazards.unifiedMemory
      core.latches with
    | .ok l => l.executeCall core.latches
    | .error _ => none

/-- What MEM answers in a cycle of a running hart that reaches it. -/
def memoryAnswer (core : PipelineCore) (bus : β) : Option MemoryEvent :=
  if core.state.halted || (core.written bus).takenInterrupt.isSome then none
  else core.latches.exMem.bind fun p =>
    (MemStage.access bus (core.written bus).pageWalker (core.written bus).state.csrs
      (core.written bus).state.privilege p).1.toOption

/-- The payload that MEM lets advance in a cycle. -/
def memoryAdvance (core : PipelineCore) (bus : β) : Option MemWbPayload :=
  match core.memoryAnswer bus with
  | some (.advance q) => some q
  | _ => none

/-- The instruction that EX lets advance in a cycle, with its outcome. -/
def executed (core : PipelineCore) (bus : β) : Option (IdExPayload × ExecuteOutcome) :=
  match core.executeCall bus with
  | none => none
  | some (p, rs1Value, rs2Value) =>
    match ExStage.execute p.decoded rs1Value rs2Value (core.written bus).state.privilege
      (core.written bus).state.csrs with
    | .advance outcome => some (p, outcome)
    | .trap _ => none

/-- The word that ID decodes in a cycle, if it decodes one. -/
def decodeCall (core : PipelineCore) (bus : β) : Option IfIdPayload :=
  if core.state.halted then none
  else
    match (core.written bus).interruptStage.memoryStage core.structuralHazards.unifiedMemory
      core.latches with
    | .ok l =>
      let l := l.executeStage core.latches
      if !l.flushed && !l.memoryWait && !l.translationBarrier then core.latches.ifId else none
    | .error _ => none

/-- What IF answers in a cycle, if it attempts a fetch. -/
def fetchAnswer (core : PipelineCore) (bus : β) : Option FetchEvent :=
  if core.state.halted then none
  else
    match core.backStages bus with
    | .ok l =>
      if l.fetches then
        (IfStage.fetch l.bus l.pageWalker l.state.csrs l.state.privilege l.nextFrontEndPc
          l.predictor).1.toOption
      else none
    | .error _ => none

variable {core : PipelineCore} {bus : β}

/-- MEM answers for the payload of EX/MEM. -/
theorem memoryAnswer_eq_some {event : MemoryEvent} (h : core.memoryAnswer bus = some event) :
    core.state.halted = false ∧ (core.written bus).takenInterrupt = none ∧
      ∃ p w b, core.latches.exMem = some p ∧
        MemStage.access bus (core.written bus).pageWalker (core.written bus).state.csrs
          (core.written bus).state.privilege p = (.ok event, w, b) := by
  unfold memoryAnswer at h
  split at h
  · cases h
  · next hlive =>
    simp only [Bool.or_eq_true, not_or, Bool.not_eq_true, Option.isSome_eq_false_iff,
      Option.isNone_iff_eq_none] at hlive
    refine ⟨hlive.1, hlive.2, ?_⟩
    rcases hlatch : core.latches.exMem with _ | p
    · simp [hlatch] at h
    · rcases haccess : MemStage.access bus (core.written bus).pageWalker
        (core.written bus).state.csrs (core.written bus).state.privilege p with ⟨answer, w, b⟩
      rw [hlatch, Option.bind_some, haccess] at h
      rcases answer with _ | event'
      · cases h
      · obtain rfl := Option.some.inj h
        exact ⟨p, w, b, rfl, haccess⟩

/-- MEM lets the payload of EX/MEM advance. -/
theorem memoryAdvance_eq_some {q : MemWbPayload} (h : core.memoryAdvance bus = some q) :
    ∃ p w b, core.latches.exMem = some p ∧
      MemStage.access bus (core.written bus).pageWalker (core.written bus).state.csrs
        (core.written bus).state.privilege p = (.ok (.advance q), w, b) := by
  unfold memoryAdvance at h
  split at h
  · next hanswer =>
    obtain rfl := Option.some.inj h
    exact (memoryAnswer_eq_some hanswer).2.2
  · cases h

/-- Only a load or store waits in MEM. -/
theorem usesMemory_of_stall {x y : ExMemPayload} (hstall : core.memoryAnswer bus = some (.stall y))
    (hx : core.latches.exMem = some x) : ExStage.usesMemory x.decoded = true := by
  obtain ⟨-, -, p, w, b, hp, haccess⟩ := memoryAnswer_eq_some hstall
  obtain rfl := Option.some.inj (hx.symm.trans hp)
  by_contra h
  rw [MemStage.access_of_not_usesMemory (by simpa using h)] at haccess
  simp at haccess

/-- EX runs exactly when nothing ahead of it ends or suspends the cycle. -/
theorem executeCall_eq_some_iff {p : IdExPayload} {rs1Value rs2Value : U32} :
    core.executeCall bus = some (p, rs1Value, rs2Value) ↔
      core.state.halted = false ∧ (core.written bus).takenInterrupt = none ∧
        (∃ q w b, MemoryPass (core.written bus) core.latches.exMem q w b) ∧
        (core.written bus).translationBarrier = false ∧ core.latches.idEx = some p ∧
        rs1Value = core.latches.operand p.decoded.rs1 p.rs1Value ∧
        rs2Value = core.latches.operand p.decoded.rs2 p.rs2Value := by
  -- EX on locals that no earlier stage has flushed or suspended
  have call : ∀ l : StepLocals β, l.flushed = false → l.memoryWait = false →
      (l.executeCall core.latches = some (p, rs1Value, rs2Value) ↔
        l.translationBarrier = false ∧ core.latches.idEx = some p ∧
          rs1Value = core.latches.operand p.decoded.rs1 p.rs1Value ∧
          rs2Value = core.latches.operand p.decoded.rs2 p.rs2Value) := by
    intro l hflushed hwait
    rcases hbarrier : l.translationBarrier <;> rcases hlatch : core.latches.idEx with _ | p' <;>
      simp only [StepLocals.executeCall, hflushed, hwait, hbarrier, hlatch, Bool.not_false,
        Bool.not_true, Bool.and_false, Bool.and_self, if_true, Bool.false_eq_true, if_false,
        Option.map_none, Option.map_some, reduceCtorEq, Option.some.injEq, Prod.mk.injEq,
        false_and, and_false, true_and]
    constructor
    · rintro ⟨rfl, rfl, rfl⟩
      exact ⟨rfl, rfl, rfl⟩
    · rintro ⟨rfl, rfl, rfl⟩
      exact ⟨rfl, rfl, rfl⟩
  unfold executeCall
  by_cases hhalted : core.state.halted = true
  · simp [hhalted]
  rw [if_neg hhalted]
  rw [Bool.not_eq_true] at hhalted
  rcases htaken : (core.written bus).takenInterrupt with _ | i
  · simp only [StepLocals.interruptStage, htaken, StepLocals.memoryStage, written_flushed,
      Bool.false_eq_true, if_false, hhalted, true_and]
    rcases hlatch : core.latches.exMem with _ | x
    · rw [call _ (core.written_flushed bus) (core.written_memoryWait bus)]
      exact (and_iff_right ⟨none, _, _, .idle⟩).symm
    · simp only [written_bus]
      have hok := MemStage.access_isOk bus (core.written bus).pageWalker
        (core.written bus).state.csrs (core.written bus).state.privilege x
      rcases haccess : MemStage.access bus (core.written bus).pageWalker
        (core.written bus).state.csrs (core.written bus).state.privilege x with ⟨answer, w, b⟩
      rw [haccess] at hok
      have stuck : (∀ q, answer ≠ .ok (.advance q)) →
          ¬ ∃ q w b, MemoryPass (core.written bus) (some x) q w b := by
        rintro hne ⟨_, _, _, ⟨⟩ | access⟩
        rw [written_bus, haccess] at access
        exact hne _ (congrArg Prod.fst access)
      rcases answer with _ | event
      · cases hok
      cases event with
      | advance q =>
        refine (call _ ?_ ?_).trans (and_iff_right ⟨some q, w, b, .advance ?_⟩).symm
        · rfl
        · exact core.written_memoryWait bus
        rw [written_bus]
        exact haccess
      | stall =>
        simp [StepLocals.executeCall, stuck (by simp)]
      | trap =>
        simp [StepLocals.executeCall, StepLocals.takeTrap, stuck (by simp)]
  · simp [StepLocals.interruptStage, htaken, StepLocals.memoryStage, StepLocals.takeTrap,
      StepLocals.executeCall]

section Passes

variable {core : PipelineCore} {bus : β} {q : Option MemWbPayload} {w : PageWalker} {b : β}
  {x : Option ExMemPayload} {predictor : BimodalPredictor}

/-- IF fetches behind stages that let the cycle go on. -/
theorem fetchAnswer_of_pass {d : Option IdExPayload} (running : core.state.halted = false)
    (noInterrupt : (core.written bus).takenInterrupt = none)
    (memory : MemoryPass (core.written bus) core.latches.exMem q w b)
    (noBarrier : (core.written bus).translationBarrier = false)
    (execute : ExecutePass core.latches (core.written bus) x predictor)
    (decode : DecodePass core.latches (core.written bus).state.registers none d false)
    (unblocked : core.fetchBlocked = false) :
    core.fetchAnswer bus = (IfStage.fetch b w (core.written bus).state.csrs
      (core.written bus).state.privilege core.frontEndPc predictor).1.toOption := by
  rw [fetchAnswer, if_neg (by simp [running]), backStages, memoryStage_of_pass noInterrupt memory]
  dsimp only
  rw [executeStage_of_pass noBarrier execute, decodeStage_of_pass noBarrier decode]
  simp [StepLocals.fetches, unblocked, noBarrier]

/-- Behind a redirect nothing is decoded or fetched. -/
theorem frontEnd_of_redirect {p : IdExPayload} {rs1Value rs2Value : U32} {outcome : ExecuteOutcome}
    (hcall : core.executeCall bus = some (p, rs1Value, rs2Value))
    (hexecute : ExStage.execute p.decoded rs1Value rs2Value (core.written bus).state.privilege
      (core.written bus).state.csrs = .advance outcome)
    (hflush : detectBranchFlush p.predictedPc outcome.nextPc = true) :
    core.decodeCall bus = none ∧ core.fetchAnswer bus = none := by
  obtain ⟨running, noInterrupt, ⟨q, w, b, memory⟩, noBarrier, hlatch, rfl, rfl⟩ :=
    executeCall_eq_some_iff.mp hcall
  rw [decodeCall, fetchAnswer, backStages, memoryStage_of_pass noInterrupt memory]
  simp [running, StepLocals.executeStage, StepLocals.executeCall, StepLocals.decodeStage,
    StepLocals.fetches, hlatch, noBarrier, hexecute, hflush]

end Passes

/-- A halted hart executes nothing. -/
theorem executed_of_halted {core : PipelineCore} {bus : β} (halted : core.state.halted = true) :
    core.executed bus = none := by
  simp [executed, executeCall, halted]

/-- EX lets exactly the instruction it is called with advance. -/
theorem executed_eq_some_iff {core : PipelineCore} {bus : β} {p : IdExPayload}
    {outcome : ExecuteOutcome} :
    core.executed bus = some (p, outcome) ↔
      ∃ rs1Value rs2Value, core.executeCall bus = some (p, rs1Value, rs2Value) ∧
        ExStage.execute p.decoded rs1Value rs2Value (core.written bus).state.privilege
          (core.written bus).state.csrs = .advance outcome := by
  unfold executed
  constructor
  · intro h
    split at h
    · cases h
    · next hcall =>
      split at h
      · next hexecute =>
        obtain ⟨rfl, rfl⟩ := Prod.mk.inj (Option.some.inj h)
        exact ⟨_, _, hcall, hexecute⟩
      · cases h
  · rintro ⟨rs1Value, rs2Value, hcall, hexecute⟩
    simp only [hcall, hexecute]

end PipelineCore

/-! ## Where the latches of a cycle come from -/

/-- In a cycle that goes on, MEM answers nothing or an advance. -/
theorem MemoryPass.memoryAnswer {core : PipelineCore} {bus b : β} {q : Option MemWbPayload}
    {w : PageWalker} (memory : MemoryPass (core.written bus) core.latches.exMem q w b)
    (running : core.state.halted = false)
    (noInterrupt : (core.written bus).takenInterrupt = none) :
    core.memoryAnswer bus = q.map .advance := by
  generalize hlatch : core.latches.exMem = exMem at memory
  cases memory with
  | idle => simp [PipelineCore.memoryAnswer, hlatch]
  | advance access =>
    rw [core.written_bus] at access
    simp [PipelineCore.memoryAnswer, hlatch, running, noInterrupt, access, Except.toOption]

/-- EX does not run while MEM waits. -/
theorem PipelineCore.memoryAnswer_of_executeCall {core : PipelineCore} {bus : β}
    {call : IdExPayload × U32 × U32} (hcall : core.executeCall bus = some call)
    (x : ExMemPayload) : core.memoryAnswer bus ≠ some (.stall x) := by
  obtain ⟨running, noInterrupt, ⟨q, w, b, memory⟩, -⟩ := executeCall_eq_some_iff.mp hcall
  rw [memory.memoryAnswer running noInterrupt]
  rcases q with _ | q <;> simp

/-- In a cycle that goes on, MEM leaves what it lets advance. -/
theorem MemoryPass.memoryAdvance {core : PipelineCore} {bus b : β} {q : Option MemWbPayload}
    {w : PageWalker} (memory : MemoryPass (core.written bus) core.latches.exMem q w b)
    (running : core.state.halted = false)
    (noInterrupt : (core.written bus).takenInterrupt = none) : q = core.memoryAdvance bus := by
  rw [PipelineCore.memoryAdvance, memory.memoryAnswer running noInterrupt]
  rcases q with _ | q <;> rfl

namespace RunningCycle

variable {core : PipelineCore} {bus : β} {l : StepLocals β}

/-- Only a trap changes the hart state after write-back. -/
theorem state_eq (cycle : RunningCycle core bus l) :
    l.state = (core.written bus).state ∨
      ∃ t pc, l.state = (applyTrap (core.written bus).state t pc).1 := by
  cases cycle with
  | interrupt | memoryTrap | executeTrap | illegal | fetchTrap => exact .inr ⟨_, _, rfl⟩
  | _ => exact .inl rfl

/-- Only write-back changes the registers. -/
theorem registers_eq (cycle : RunningCycle core bus l) :
    l.state.registers = (core.written bus).state.registers := by
  rcases cycle.state_eq with h | ⟨t, pc, h⟩
  · rw [h]
  · rw [h]
    rfl

/-- A cycle counts the instruction that write-back retires. -/
theorem lastResult_retired (cycle : RunningCycle core bus l) :
    (core.finishCycle l).2.1.lastResult.retired =
      if core.latches.memWb.isSome then 1 else 0 := by
  have hretired : l.retiredInstructions = (core.written bus).retiredInstructions := by
    cases cycle <;> rfl
  have htrap : (l.trapResult.map (·.retired)).getD 0 = 0 := by
    cases cycle <;> simp [StepLocals.takeTrap, applyTrap]
  rw [← core.written_retiredInstructions bus, ← hretired]
  show l.retiredInstructions + (l.trapResult.map (·.retired)).getD 0 = l.retiredInstructions
  rw [htrap]
  simp

/-- MEM/WB after a running cycle holds what MEM let advance. -/
theorem memWb_eq (running : core.state.halted = false)
    (cycle : RunningCycle core bus l) : l.next.memWb = core.memoryAdvance bus := by
  have passed : ∀ {q w b}, (core.written bus).takenInterrupt = none →
      MemoryPass (core.written bus) core.latches.exMem q w b → q = core.memoryAdvance bus :=
    fun noInterrupt memory => memory.memoryAdvance running noInterrupt
  cases cycle with
  | interrupt taken => simp [PipelineCore.memoryAdvance, PipelineCore.memoryAnswer, taken]
  | memoryTrap noInterrupt latch access =>
    simp [PipelineCore.memoryAdvance, PipelineCore.memoryAnswer, running, noInterrupt, latch,
      access, Except.toOption]
  | memoryWait noInterrupt latch access =>
    simp [PipelineCore.memoryAdvance, PipelineCore.memoryAnswer, running, noInterrupt, latch,
      access, Except.toOption]
  | barrierHold noInterrupt memory _ => exact passed noInterrupt memory
  | executeTrap noInterrupt memory => exact passed noInterrupt memory
  | redirect noInterrupt memory => exact passed noInterrupt memory
  | illegal noInterrupt memory => exact passed noInterrupt memory
  | unfetched noInterrupt memory => exact passed noInterrupt memory
  | fetched noInterrupt memory => exact passed noInterrupt memory
  | fetchStall noInterrupt memory => exact passed noInterrupt memory
  | fetchTrap noInterrupt memory => exact passed noInterrupt memory

/-- A cycle in which MEM stalls keeps every latch but MEM/WB. -/
theorem waits {p : ExMemPayload} {w : PageWalker} {b : β} (running : core.state.halted = false)
    (noInterrupt : (core.written bus).takenInterrupt = none) (latch : core.latches.exMem = some p)
    (access : MemStage.access bus (core.written bus).pageWalker (core.written bus).state.csrs
      (core.written bus).state.privilege p = (.ok (.stall p), w, b)) :
    core.memoryAnswer bus = some (.stall p) ∧
      ({ ifId := core.latches.ifId, idEx := core.latches.idEx, exMem := some p } :
        PipelineLatches) = { core.latches with memWb := none } := by
  simp [PipelineCore.memoryAnswer, running, noInterrupt, latch, access, Except.toOption]

/-- EX/MEM after a cycle: kept while MEM waits, empty, or made by EX. -/
theorem exMem_cases (running : core.state.halted = false) (cycle : RunningCycle core bus l) :
    (∃ x, core.memoryAnswer bus = some (.stall x) ∧ l.next = { core.latches with memWb := none }) ∨
      l.next.exMem = none ∨
      ∃ p rs1Value rs2Value outcome, core.executeCall bus = some (p, rs1Value, rs2Value) ∧
        ExStage.execute p.decoded rs1Value rs2Value (core.written bus).state.privilege
          (core.written bus).state.csrs = .advance outcome ∧
        l.next.exMem = some (.of p.decoded outcome) := by
  -- an instruction that leaves EX is the one that was called
  have executed : ∀ {q w b p outcome}, (core.written bus).takenInterrupt = none →
      MemoryPass (core.written bus) core.latches.exMem q w b →
      (core.written bus).translationBarrier = false → core.latches.idEx = some p →
      core.latches.executeEvent (core.written bus).state p = .advance outcome →
      ∃ p' rs1Value rs2Value outcome', core.executeCall bus = some (p', rs1Value, rs2Value) ∧
        ExStage.execute p'.decoded rs1Value rs2Value (core.written bus).state.privilege
          (core.written bus).state.csrs = .advance outcome' ∧
        some (ExMemPayload.of p.decoded outcome) = some (.of p'.decoded outcome') :=
    fun noInterrupt memory noBarrier latch execute =>
      ⟨_, _, _, _, PipelineCore.executeCall_eq_some_iff.mpr
        ⟨running, noInterrupt, ⟨_, _, _, memory⟩, noBarrier, latch, rfl, rfl⟩, execute, rfl⟩
  have passed : ∀ {q w b x predictor}, (core.written bus).takenInterrupt = none →
      MemoryPass (core.written bus) core.latches.exMem q w b →
      (core.written bus).translationBarrier = false →
      ExecutePass core.latches (core.written bus) x predictor →
      x = none ∨
      ∃ p rs1Value rs2Value outcome, core.executeCall bus = some (p, rs1Value, rs2Value) ∧
        ExStage.execute p.decoded rs1Value rs2Value (core.written bus).state.privilege
          (core.written bus).state.csrs = .advance outcome ∧
        x = some (.of p.decoded outcome) := by
    intro q w b x predictor noInterrupt memory noBarrier execute
    cases execute with
    | idle => exact .inl rfl
    | advance latch execute => exact .inr (executed noInterrupt memory noBarrier latch execute)
  cases cycle with
  | interrupt => exact .inr (.inl (by simp))
  | memoryTrap => exact .inr (.inl (by simp))
  | memoryWait noInterrupt latch access =>
    exact .inl ⟨_, waits running noInterrupt latch access⟩
  | barrierHold => exact .inr (.inl rfl)
  | executeTrap => exact .inr (.inl rfl)
  | redirect noInterrupt memory noBarrier latch execute =>
    exact .inr (.inr (executed noInterrupt memory noBarrier latch execute))
  | illegal noInterrupt memory noBarrier execute =>
    exact .inr (passed noInterrupt memory noBarrier execute)
  | unfetched noInterrupt memory noBarrier execute =>
    exact .inr (passed noInterrupt memory noBarrier execute)
  | fetched noInterrupt memory noBarrier execute =>
    exact .inr (passed noInterrupt memory noBarrier execute)
  | fetchStall noInterrupt memory noBarrier execute =>
    exact .inr (passed noInterrupt memory noBarrier execute)
  | fetchTrap noInterrupt memory noBarrier execute =>
    exact .inr (passed noInterrupt memory noBarrier execute)

/-- ID/EX after a cycle: kept while MEM or the barrier waits, empty, or made by ID. -/
theorem idEx_cases (running : core.state.halted = false) (cycle : RunningCycle core bus l) :
    (∃ x, core.memoryAnswer bus = some (.stall x) ∧ l.next = { core.latches with memWb := none }) ∨
      ((core.written bus).translationBarrier = true ∧ l.next.idEx = core.latches.idEx ∧
        l.next.exMem = none) ∨
      l.next.idEx = none ∨
      ∃ p d, (core.written bus).translationBarrier = false ∧ core.latches.ifId = some p ∧
        decode p.raw p.pc = .ok d ∧ StepLocals.decodeHazard core.latches d = false ∧
        l.next.idEx = some (.of p d (core.written bus).state.registers) := by
  have decoded : ∀ {i d s}, (core.written bus).translationBarrier = false →
      DecodePass core.latches (core.written bus).state.registers i d s →
      d = none ∨ ∃ p d', (core.written bus).translationBarrier = false ∧
        core.latches.ifId = some p ∧ RvSim.decode p.raw p.pc = .ok d' ∧
        StepLocals.decodeHazard core.latches d' = false ∧
        d = some (.of p d' (core.written bus).state.registers) := by
    intro i d s noBarrier decode
    cases decode with
    | idle => exact .inl rfl
    | stall => exact .inl rfl
    | advance latch decoded noHazard =>
      exact .inr ⟨_, _, noBarrier, latch, decoded, noHazard, rfl⟩
  cases cycle with
  | interrupt => exact .inr (.inr (.inl (by simp)))
  | memoryTrap => exact .inr (.inr (.inl (by simp)))
  | memoryWait noInterrupt latch access =>
    exact .inl ⟨_, waits running noInterrupt latch access⟩
  | barrierHold _ _ barrier => exact .inr (.inl ⟨barrier, rfl, rfl⟩)
  | executeTrap => exact .inr (.inr (.inl rfl))
  | redirect => exact .inr (.inr (.inl rfl))
  | illegal => exact .inr (.inr (.inl rfl))
  | unfetched _ _ noBarrier _ decode => exact .inr (.inr (decoded noBarrier decode))
  | fetched _ _ noBarrier _ decode => exact .inr (.inr (decoded noBarrier decode))
  | fetchStall _ _ noBarrier _ decode => exact .inr (.inr (decoded noBarrier decode))
  | fetchTrap _ _ noBarrier _ decode => exact .inr (.inr (decoded noBarrier decode))

/-- IF/ID after a cycle: kept while MEM waits, empty, held by ID or the barrier, or fetched. -/
theorem ifId_cases (running : core.state.halted = false) (cycle : RunningCycle core bus l) :
    (∃ x, core.memoryAnswer bus = some (.stall x) ∧ l.next = { core.latches with memWb := none }) ∨
      l.next.ifId = none ∨
      (l.next.ifId = core.latches.ifId ∧ l.nextFrontEndPc = core.frontEndPc) ∨
      ∃ payload, core.fetchAnswer bus = some (.advance payload) ∧ l.next.ifId = some payload := by
  cases cycle with
  | interrupt => exact .inr (.inl (by simp))
  | memoryTrap => exact .inr (.inl (by simp))
  | memoryWait noInterrupt latch access =>
    exact .inl ⟨_, waits running noInterrupt latch access⟩
  | barrierHold => exact .inr (.inr (.inl ⟨rfl, by simp⟩))
  | executeTrap => exact .inr (.inl rfl)
  | redirect => exact .inr (.inl rfl)
  | illegal => exact .inr (.inl rfl)
  | unfetched _ _ _ _ decode =>
    cases decode with
    | idle => exact .inr (.inl rfl)
    | stall latch => exact .inr (.inr (.inl ⟨latch.symm, by simp⟩))
    | advance => exact .inr (.inl rfl)
  | fetched noInterrupt memory noBarrier execute decode unblocked fetch =>
    refine .inr (.inr (.inr ⟨_, ?_, rfl⟩))
    rw [PipelineCore.fetchAnswer_of_pass running noInterrupt memory noBarrier execute decode
      unblocked, fetch]
    rfl
  | fetchStall => exact .inr (.inl rfl)
  | fetchTrap => exact .inr (.inl rfl)

/-- The cycle in which EX redirects. -/
theorem of_redirect (cycle : RunningCycle core bus l) {p : IdExPayload} {rs1Value rs2Value : U32}
    {outcome : ExecuteOutcome} (hcall : core.executeCall bus = some (p, rs1Value, rs2Value))
    (hexecute : ExStage.execute p.decoded rs1Value rs2Value (core.written bus).state.privilege
      (core.written bus).state.csrs = .advance outcome)
    (hflush : detectBranchFlush p.predictedPc outcome.nextPc = true) :
    ∃ w b, l = { core.written bus with
      pageWalker := w, bus := b, fetchStalled := core.fetchBlocked
      predictor := StepLocals.trainedPredictor core.predictor p.decoded outcome
      flushed := true, nextFrontEndPc := outcome.nextPc
      translationBarrier := isTranslationBarrierPayload p.decoded outcome.csrWrite
      next := { exMem := some (.of p.decoded outcome), memWb := core.memoryAdvance bus } } := by
  obtain ⟨running, noInterrupt, ⟨q, w, b, memory⟩, noBarrier, hlatch, rfl, rfl⟩ :=
    PipelineCore.executeCall_eq_some_iff.mp hcall
  refine ⟨w, b, ?_⟩
  rw [← memory.memoryAdvance running noInterrupt]
  exact cycle.unique (.redirect noInterrupt memory noBarrier hlatch hexecute
    (by rw [hflush, Bool.or_true]))

/-- The instruction in MEM/WB after a cycle was in EX/MEM. -/
theorem memWb_decoded (running : core.state.halted = false) (cycle : RunningCycle core bus l)
    {q : MemWbPayload} (hq : l.next.memWb = some q) :
    ∃ x, core.latches.exMem = some x ∧ q = x.advance q.writebackValue := by
  obtain ⟨x, w, b, hx, haccess⟩ :=
    PipelineCore.memoryAdvance_eq_some ((cycle.memWb_eq running).symm.trans hq)
  exact ⟨x, hx, (MemStage.access_advance haccess).1⟩

/-- The instruction in EX/MEM after a cycle was there, or in ID/EX. -/
theorem exMem_decoded (running : core.state.halted = false) (cycle : RunningCycle core bus l)
    {x : ExMemPayload} (hx : l.next.exMem = some x) :
    core.latches.exMem = some x ∨ ∃ p, core.latches.idEx = some p ∧ x.decoded = p.decoded := by
  rcases cycle.exMem_cases running with ⟨_, -, h⟩ | h | ⟨p, _, _, _, hcall, -, h⟩
  · exact .inl (by simpa [h] using hx)
  · simp [h] at hx
  · obtain rfl := Option.some.inj (h.symm.trans hx)
    obtain ⟨-, -, -, -, hlatch, -, -⟩ := PipelineCore.executeCall_eq_some_iff.mp hcall
    exact .inr ⟨p, hlatch, rfl⟩

end RunningCycle

end RvSim
