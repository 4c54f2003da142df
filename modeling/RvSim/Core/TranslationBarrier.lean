import RvSim.System.TestBus

/-!
# The translation barrier

EX sets the barrier behind an `sfence.vma` or a write of `satp`, and write-back of that instruction
clears it. The barrier lives outside the latches, so it survives whatever clears them: the wake-up
of a halted hart clears the latches of an instruction that was to clear the barrier.

## Main definitions

* `BarrierInvariant`: where the instruction that will clear the barrier is
* `BarrierGuarded`: what the barrier promises in one cycle
* `WakesUnderBarrier`: the cycle that breaks the promise

## Main results

* `barrierInvariant_step`: every cycle but such a wake-up keeps the invariant
* `barrier_guarded_iff`: the cycles of a run keep the promise exactly without such a wake-up
* `barrier_stuck`: after such a wake-up the barrier stays set for ever
-/

namespace RvSim

variable {β : Type} [Bus β]

/-! ## The invariant -/

/-- An instruction in EX/MEM that sets the barrier in EX and clears it in write-back. -/
def ExMemPayload.serializes (p : ExMemPayload) : Bool :=
  isTranslationBarrierPayload p.decoded p.csrWrite

/-- An instruction in MEM/WB that clears the barrier. -/
def MemWbPayload.serializes (p : MemWbPayload) : Bool :=
  isTranslationBarrierPayload p.decoded p.csrWrite

/-- Under the barrier nothing is behind the instruction that is to clear it. -/
structure BarrierInvariant (core : PipelineCore) : Prop where
  ifId : core.translationBarrier = true → core.latches.ifId = none
  idEx : core.translationBarrier = true → core.latches.idEx = none
  held : core.translationBarrier = true →
    (∃ p, core.latches.exMem = some p ∧ p.serializes = true ∧
      ExStage.usesMemory p.decoded = false) ∨
    (core.latches.exMem = none ∧ ∃ q, core.latches.memWb = some q ∧ q.serializes = true)

theorem BarrierInvariant.of_clear {core : PipelineCore} (h : core.translationBarrier = false) :
    BarrierInvariant core where
  ifId ht := by simp [h] at ht
  idEx ht := by simp [h] at ht
  held ht := by simp [h] at ht

/-- An instruction that sets the barrier in EX makes no data access. -/
theorem not_usesMemory_of_serializes {decoded : DecodedInstruction} {rs1Value rs2Value : U32}
    {privilege : PrivilegeMode} {csrs : CsrFile} {outcome : ExecuteOutcome}
    (h : ExStage.execute decoded rs1Value rs2Value privilege csrs = .advance outcome)
    (hserial : isTranslationBarrierPayload decoded outcome.csrWrite = true) :
    ExStage.usesMemory decoded = false := by
  by_cases hcsr : decoded.kind.isCsr = true
  · unfold InstructionKind.isCsr at hcsr
    unfold ExStage.usesMemory
    split at hcsr
    · next hk => simp [hk]
    · cases hcsr
  · rw [isTranslationBarrierPayload,
      ExStage.execute_csrWrite (Bool.not_eq_true _ ▸ hcsr) h] at hserial
    simp only [Option.any_none, Bool.or_false, beq_iff_eq] at hserial
    simp [ExStage.usesMemory, hserial]

omit [Bus β] in
/-- Write-back clears the barrier with the instruction that set it. -/
theorem PipelineCore.written_translationBarrier (core : PipelineCore) (bus : β) :
    (core.written bus).translationBarrier =
      (core.translationBarrier && !core.latches.memWb.any (·.serializes)) := by
  unfold PipelineCore.written StepLocals.writeBackStage
  rcases h : core.latches.memWb with _ | q
  · simp [PipelineCore.entry]
  · by_cases hq : isTranslationBarrierPayload q.decoded q.csrWrite = true
    · simp [hq, MemWbPayload.serializes]
    · simp [hq, MemWbPayload.serializes, PipelineCore.entry]

section Step

variable {core core' : PipelineCore} {bus bus' : β}

/-- A cycle that keeps the barrier, with no data access in MEM, touches neither the bus nor the
walker, keeps the front-end latches and moves EX/MEM on. -/
theorem RunningCycle.of_barrier {l : StepLocals β} (cycle : RunningCycle core bus l)
    (hbarrier : (core.written bus).translationBarrier = true)
    (hmemory : ∀ p, core.latches.exMem = some p → ExStage.usesMemory p.decoded = false) :
    l.translationBarrier = true ∧ l.bus = bus ∧ l.pageWalker = (core.written bus).pageWalker ∧
      l.next = { ifId := core.latches.ifId, idEx := core.latches.idEx
                 memWb := core.latches.exMem.map fun p => p.advance p.writebackValue } := by
  cases cycle with
  | interrupt taken => simp [StepLocals.takenInterrupt, hbarrier] at taken
  | memoryTrap _ latch access =>
    simp [MemStage.access_of_not_usesMemory (hmemory _ latch)] at access
  | memoryWait _ latch access =>
    simp [MemStage.access_of_not_usesMemory (hmemory _ latch)] at access
  | barrierHold _ memory _ =>
    generalize hlatch : core.latches.exMem = exMem at memory
    cases memory with
    | idle => simp [hbarrier]
    | advance access =>
      simp only [MemStage.access_of_not_usesMemory (hmemory _ hlatch), Prod.mk.injEq,
        Except.ok.injEq, MemoryEvent.advance.injEq] at access
      obtain ⟨rfl, rfl, rfl⟩ := access
      simp [hbarrier]
  | executeTrap _ _ noBarrier => simp [hbarrier] at noBarrier
  | redirect _ _ noBarrier => simp [hbarrier] at noBarrier
  | illegal _ _ noBarrier => simp [hbarrier] at noBarrier
  | unfetched _ _ noBarrier => simp [hbarrier] at noBarrier
  | fetched _ _ noBarrier => simp [hbarrier] at noBarrier
  | fetchStall _ _ noBarrier => simp [hbarrier] at noBarrier
  | fetchTrap _ _ noBarrier => simp [hbarrier] at noBarrier

omit [Bus β] in
/-- Where write-back keeps the barrier, the instruction that is to clear it is in EX/MEM. -/
theorem BarrierInvariant.exMem (inv : BarrierInvariant core)
    (hbarrier : (core.written bus).translationBarrier = true) :
    ∃ p, core.latches.exMem = some p ∧ p.serializes = true ∧
      ExStage.usesMemory p.decoded = false := by
  rw [core.written_translationBarrier, Bool.and_eq_true, Bool.not_eq_true'] at hbarrier
  rcases inv.held hbarrier.1 with hp | ⟨-, q, hq, hserial⟩
  · exact hp
  · simp [hq, hserial] at hbarrier

/-- A cycle that keeps the barrier makes no access, and moves the instruction that is to clear the
barrier on to write-back. -/
theorem RunningCycle.moves {l : StepLocals β} (cycle : RunningCycle core bus l)
    (inv : BarrierInvariant core) (hbarrier : (core.written bus).translationBarrier = true) :
    l.bus = bus ∧ l.pageWalker = (core.written bus).pageWalker ∧
      ∃ q : MemWbPayload, q.serializes = true ∧ l.next = { memWb := some q } := by
  obtain ⟨p, hp, hserial, hmemory⟩ := inv.exMem hbarrier
  have hset : core.translationBarrier = true := by
    rw [core.written_translationBarrier, Bool.and_eq_true] at hbarrier
    exact hbarrier.1
  obtain ⟨-, hbus, hwalker, hnext⟩ := cycle.of_barrier hbarrier fun p' hp' => by
    rwa [← Option.some.inj (hp.symm.trans hp')]
  refine ⟨hbus, hwalker, p.advance p.writebackValue, hserial, ?_⟩
  simp [hnext, inv.ifId hset, inv.idEx hset, hp]

/-- A cycle without the barrier after write-back ends with it only behind an instruction of ID/EX
that has just set it in EX. -/
theorem RunningCycle.of_clear {l : StepLocals β} (cycle : RunningCycle core bus l)
    (hbarrier : (core.written bus).translationBarrier = false)
    (hset : l.translationBarrier = true) :
    core.latches.idEx ≠ none ∧ l.next.ifId = none ∧ l.next.idEx = none ∧
      ∃ p, l.next.exMem = some p ∧ p.serializes = true ∧
        ExStage.usesMemory p.decoded = false := by
  cases cycle with
  | redirect _ _ _ latch execute _ =>
    exact ⟨by simp [latch], rfl, rfl, _, rfl, hset, not_usesMemory_of_serializes execute hset⟩
  | barrierHold _ _ barrier => simp [hbarrier] at barrier
  | _ => simp [hbarrier] at hset

/-- A running cycle keeps the invariant. -/
theorem RunningCycle.barrierInvariant {l : StepLocals β} (cycle : RunningCycle core bus l)
    (inv : BarrierInvariant core) : BarrierInvariant (core.finishCycle l).2.1 := by
  by_cases hbarrier : (core.written bus).translationBarrier = true
  · obtain ⟨-, -, q, hserial, hnext⟩ := cycle.moves inv hbarrier
    exact ⟨fun _ => by simp [hnext], fun _ => by simp [hnext],
      fun _ => .inr ⟨by simp [hnext], q, by simp [hnext], hserial⟩⟩
  · by_cases hset : l.translationBarrier = true
    · obtain ⟨-, hif, hid, p, hp, hserial, hmemory⟩ := cycle.of_clear (by simpa using hbarrier) hset
      exact ⟨fun _ => hif, fun _ => hid, fun _ => .inl ⟨p, hp, hserial, hmemory⟩⟩
    · exact .of_clear (by simpa using hset)

/-- **Every cycle but a wake-up under the barrier keeps the invariant.** -/
theorem barrierInvariant_step (cycle : Cycle core bus core' bus') (inv : BarrierInvariant core)
    (h : ¬ (core.state.halted = true ∧ (core.wakeInterrupt bus).isSome ∧
      core.translationBarrier = true)) : BarrierInvariant core' := by
  cases cycle with
  | wake halted interrupt =>
    refine .of_clear ?_
    simpa [halted, interrupt] using h
  | wait => exact ⟨inv.ifId, inv.idEx, inv.held⟩
  | running _ cycle => exact cycle.barrierInvariant inv

end Step

/-! ## The front end under the barrier -/

section Front

variable {core core' : PipelineCore} {bus bus' : β}

/-- Under the barrier nothing is to be decoded or executed. -/
def BarrierFront (core : PipelineCore) : Prop :=
  core.translationBarrier = true → core.latches.ifId = none ∧ core.latches.idEx = none

/-- Every cycle keeps the front end empty under the barrier, also one that drops the instruction
that is to clear it. -/
theorem barrierFront_step (cycle : Cycle core bus core' bus') (h : BarrierFront core) :
    BarrierFront core' := by
  cases cycle with
  | wake => exact fun _ => ⟨rfl, rfl⟩
  | wait => exact h
  | running _ cycle =>
    intro hset
    by_cases hbarrier : (core.written bus).translationBarrier = true
    · have hcore : core.translationBarrier = true := by
        rw [core.written_translationBarrier, Bool.and_eq_true] at hbarrier
        exact hbarrier.1
      cases cycle with
      | interrupt => simp
      | memoryTrap => simp
      | memoryWait => exact h hcore
      | barrierHold => exact h hcore
      | executeTrap _ _ noBarrier => simp [hbarrier] at noBarrier
      | redirect _ _ noBarrier => simp [hbarrier] at noBarrier
      | illegal _ _ noBarrier => simp [hbarrier] at noBarrier
      | unfetched _ _ noBarrier => simp [hbarrier] at noBarrier
      | fetched _ _ noBarrier => simp [hbarrier] at noBarrier
      | fetchStall _ _ noBarrier => simp [hbarrier] at noBarrier
      | fetchTrap _ _ noBarrier => simp [hbarrier] at noBarrier
    · obtain ⟨-, hif, hid, -⟩ := cycle.of_clear (by simpa using hbarrier) hset
      exact ⟨hif, hid⟩

end Front

/-! ## Runs -/

section Machine

/-- Under the barrier, the instruction that clears it is in EX/MEM or MEM/WB. -/
def BarrierHeld (core : PipelineCore) : Prop :=
  core.translationBarrier = true →
    (∃ p, core.latches.exMem = some p ∧ p.serializes = true) ∨
    (∃ q, core.latches.memWb = some q ∧ q.serializes = true)

/-- What the barrier promises in a cycle of the machine. -/
structure BarrierGuarded (machine : Machine PipelineCore β) (tick : β → β) : Prop where
  /-- The instruction that clears the barrier is in a latch, before and after the cycle. -/
  held : BarrierHeld machine.cpu ∧ BarrierHeld (machine.stepCycle tick).cpu
  /-- The commit of that instruction clears the barrier. -/
  cleared : machine.cpu.translationBarrier = true → machine.cpu.state.halted = false →
    (∃ q, machine.cpu.latches.memWb = some q ∧ q.serializes = true) →
    (machine.stepCycle tick).cpu.translationBarrier = false
  /-- Nothing younger is in the pipeline: there is nothing to decode and nothing to execute. -/
  frontEnd : machine.cpu.translationBarrier = true →
    machine.cpu.latches.ifId = none ∧ machine.cpu.latches.idEx = none
  /-- A cycle that keeps the barrier fetches, decodes and executes nothing, and makes no access:
  neither the bus nor, but for the fence in write-back, the walker is touched. -/
  quiet : machine.cpu.translationBarrier = true →
    (machine.stepCycle tick).cpu.translationBarrier = true →
    (machine.stepCycle tick).cpu.latches.ifId = none ∧
    (machine.stepCycle tick).cpu.latches.idEx = none ∧
    (machine.stepCycle tick).bus = tick machine.bus ∧
    ((machine.stepCycle tick).cpu.pageWalker = machine.cpu.pageWalker ∨
      (machine.stepCycle tick).cpu.pageWalker =
        ((machine.cpu.begun (tick machine.bus)).written (tick machine.bus)).pageWalker)

/-- An interrupt wakes the halted hart in this cycle while the barrier is set. -/
def WakesUnderBarrier (machine : Machine PipelineCore β) (tick : β → β) : Prop :=
  machine.cpu.state.halted = true ∧
    ((machine.cpu.begun (tick machine.bus)).wakeInterrupt (tick machine.bus)).isSome = true ∧
    machine.cpu.translationBarrier = true

instance (machine : Machine PipelineCore β) (tick : β → β) :
    Decidable (WakesUnderBarrier machine tick) :=
  inferInstanceAs (Decidable (_ ∧ _ ∧ _))

variable {machine : Machine PipelineCore β} {tick : β → β}

/-- The invariant at the start of a cycle is the invariant of the core that starts it. -/
theorem BarrierInvariant.begun {core : PipelineCore} (inv : BarrierInvariant core) (bus : β) :
    BarrierInvariant (core.begun bus) := ⟨inv.ifId, inv.idEx, inv.held⟩

/-- A cycle in which write-back clears the barrier ends without it. -/
theorem RunningCycle.cleared {core : PipelineCore} {bus : β} {l : StepLocals β}
    (cycle : RunningCycle core bus l) (inv : BarrierInvariant core)
    (hset : core.translationBarrier = true)
    (hbarrier : (core.written bus).translationBarrier = false) : l.translationBarrier = false := by
  by_contra hkept
  exact (cycle.of_clear hbarrier (by simpa using hkept)).1 (inv.idEx hset)

theorem BarrierInvariant.barrierHeld {core : PipelineCore} (inv : BarrierInvariant core) :
    BarrierHeld core := by
  intro hset
  rcases inv.held hset with ⟨p, hp, hserial, -⟩ | ⟨-, hq⟩
  · exact .inl ⟨p, hp, hserial⟩
  · exact .inr hq

theorem BarrierInvariant.guarded (inv : BarrierInvariant machine.cpu)
    (h : ¬ WakesUnderBarrier machine tick) : BarrierGuarded machine tick := by
  have cycle := machine.stepCycle_cases tick
  have inv' := inv.begun (tick machine.bus)
  refine ⟨⟨inv.barrierHeld, (barrierInvariant_step cycle inv' h).barrierHeld⟩,
    fun hset hrunning hq => ?cleared, fun hset => ⟨inv.ifId hset, inv.idEx hset⟩,
    fun hset hkept => ?quiet⟩
  case cleared =>
    obtain ⟨q, hq, hserial⟩ := hq
    generalize machine.stepCycle tick = machine' at cycle ⊢
    obtain ⟨core', bus'⟩ := machine'
    cases cycle with
    | wake halted => simp [hrunning] at halted
    | wait halted => simp [hrunning] at halted
    | running _ cycle =>
      exact cycle.cleared inv' hset
        (by simp [PipelineCore.written_translationBarrier, hq, hserial])
  case quiet =>
    generalize machine.stepCycle tick = machine' at cycle hkept ⊢
    obtain ⟨core', bus'⟩ := machine'
    cases cycle with
    | wake halted interrupt => exact absurd ⟨halted, by simp [interrupt], hset⟩ h
    | wait => exact ⟨inv.ifId hset, inv.idEx hset, rfl, .inl rfl⟩
    | running _ cycle =>
      have hbarrier := mt (cycle.cleared inv' hset) (by simpa using hkept)
      obtain ⟨hbus, hwalker, q, -, hnext⟩ := cycle.moves inv' (by simpa using hbarrier)
      exact ⟨by simp [hnext], by simp [hnext], hbus, .inr hwalker⟩

/-- A core whose barrier no instruction is left to clear. -/
def BarrierStuck (core : PipelineCore) : Prop :=
  core.translationBarrier = true ∧ core.latches = {}

instance (core : PipelineCore) : Decidable (BarrierStuck core) :=
  inferInstanceAs (Decidable (_ ∧ _))

theorem BarrierStuck.not_held {core : PipelineCore} (h : BarrierStuck core) :
    ¬ BarrierHeld core := by
  intro hheld
  rcases hheld h.1 with ⟨p, hp, -⟩ | ⟨q, hq, -⟩
  · simp [h.2] at hp
  · simp [h.2] at hq

/-- A wake-up under the barrier drops the instruction that was to clear it. -/
theorem WakesUnderBarrier.stuck (h : WakesUnderBarrier machine tick) :
    BarrierStuck (machine.stepCycle tick).cpu := by
  obtain ⟨hhalted, hwake, hset⟩ := h
  have cycle := machine.stepCycle_cases tick
  generalize machine.stepCycle tick = machine' at cycle ⊢
  obtain ⟨core', bus'⟩ := machine'
  cases cycle with
  | wake => exact ⟨hset, rfl⟩
  | wait _ noInterrupt => simp [noInterrupt] at hwake
  | running running => simp [hhalted] at running

/-- **The barrier keeps its promise** in exactly the runs in which no interrupt wakes a halted hart
under the barrier. -/
theorem barrier_guarded_iff (boot : machine.cpu.Boot) (ticks : List (β → β)) :
    Automata.Along Machine.stepCycle BarrierGuarded machine ticks ↔
      Automata.Along Machine.stepCycle (fun m tick => ¬ WakesUnderBarrier m tick) machine
        ticks := by
  constructor
  · exact Automata.Along.imp fun m tick guarded wakes => wakes.stuck.not_held guarded.held.2
  · intro h
    refine h.of_invariant (I := fun m => BarrierInvariant m.cpu)
      (.of_clear boot.translationBarrier) fun m tick inv hstep => ?_
    have cycle := m.stepCycle_cases tick
    exact ⟨inv.guarded hstep, barrierInvariant_step cycle (inv.begun (tick m.bus)) hstep⟩

/-- `sfence.vma` and a jump to itself, for eight cycles. -/
theorem barrier_guarded_sfence :
    Automata.Along Machine.stepCycle BarrierGuarded
      (Machine.boot id (TestBus.ofWords [0x12000073, 0x0000006f])) (List.replicate 8 id) :=
  (barrier_guarded_iff (Machine.boot_boot id _) _).mpr (by decide +kernel)

/-- **A barrier without an instruction to clear it stays set for ever**, with empty latches. -/
theorem barrier_stuck (h : BarrierStuck machine.cpu) (ticks : List (β → β)) :
    BarrierStuck (machine.runCycles ticks).cpu := by
  refine (Automata.Along.trivial_of machine ticks).run_invariant
    (I := fun m : Machine PipelineCore β => BarrierStuck m.cpu) h ?_
  intro m tick hstuck _
  have cycle := m.stepCycle_cases tick
  generalize m.stepCycle tick = m' at cycle ⊢
  obtain ⟨core', bus'⟩ := m'
  obtain ⟨hset, hlatches⟩ := hstuck
  have hbarrier : ((m.cpu.begun (tick m.bus)).written (tick m.bus)).translationBarrier = true := by
    simp [PipelineCore.written_translationBarrier, hset, hlatches]
  cases cycle with
  | wake => exact ⟨hset, rfl⟩
  | wait => exact ⟨hset, hlatches⟩
  | running _ cycle =>
    obtain ⟨hkept, -, -, hnext⟩ := cycle.of_barrier hbarrier (by simp [hlatches])
    exact ⟨hkept, by simp [hnext, hlatches]⟩

/-- `wfi`, `sfence.vma` and a jump to itself, on a hart that takes machine timer interrupts. -/
def wfiSfence : Machine PipelineCore TestBus :=
  .boot (fun state => { state with csrs := (state.csrs.write .mie mieMtie).write .mstatus mstatusMie })
    (TestBus.ofWords [0x10500073, 0x12000073, 0x0000006f])

/-- Five cycles to halt behind the fence in EX, and one in which the timer wakes the hart. -/
def wfiSfenceTicks : List (TestBus → TestBus) :=
  List.replicate 5 id ++ [TestBus.raise (.fromLine .machineTimer)]

/-- **The barrier can stay set for ever**: the wake-up clears the latches of an `sfence.vma` that
follows a `wfi`, but not the barrier the fence set in EX. -/
theorem barrier_lost_on_wake :
    wfiSfence.cpu.Boot ∧
      (∀ ticks, BarrierStuck (wfiSfence.runCycles (wfiSfenceTicks ++ ticks)).cpu) ∧
      ∀ tick, ¬ BarrierGuarded (wfiSfence.runCycles wfiSfenceTicks) tick := by
  have hstuck : BarrierStuck (wfiSfence.runCycles wfiSfenceTicks).cpu := by decide +kernel
  refine ⟨Machine.boot_boot _ _, fun ticks => ?_, fun tick h => hstuck.not_held h.held.1⟩
  rw [Machine.runCycles, Automata.run_append]
  exact barrier_stuck hstuck ticks

end Machine

end RvSim
