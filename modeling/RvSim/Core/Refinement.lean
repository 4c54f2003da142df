import RvSim.Core.InFlightCycle
import RvSim.Core.ReferenceRun

/-!
# The pipeline refines the reference core

In front of a memory that may be busy, the pipeline commits the instructions of the reference core one by
one, with their effects on the registers, and MEM makes their accesses in the same order. It enters the traps
of the reference core in the same order too, each when it has executed exactly what is older. What it fetches
on wrong paths, how it stalls and when it flushes cannot be seen.

## Main definitions

* `PipelineEvent`, `Machine.events`: what a cycle of the pipeline shows
* `FollowsReference`: a trace of the pipeline is that of the reference core
* `Unexhausted`: something is left to execute or to enter
* `TrapsAsReference`: its traps are those of the reference core, and nothing younger is executed before them

## Main results

* `pipeline_follows`: a run of the pipeline that loses no operand follows the reference core
* `pipeline_traps`: it enters the traps of the reference core, precisely
-/

namespace RvSim

/-! ## Traces -/

/-- What a cycle shows of the instructions: the one that commits, the access that MEM completes, and the trap
that is entered. -/
inductive PipelineEvent
  | commit (event : CommitEvent)
  | access (request : BusRequest)
  | trap (entry : TrapEntry)

namespace PipelineEvent

/-- The commits of a trace, in order. -/
def commits (trace : List PipelineEvent) : List CommitEvent :=
  trace.filterMap fun
    | commit event => some event
    | access _ | trap _ => none

/-- The accesses of a trace, in order. -/
def accesses (trace : List PipelineEvent) : List BusRequest :=
  trace.filterMap fun
    | access request => some request
    | commit _ | trap _ => none

/-- The traps of a trace, in order. -/
def traps (trace : List PipelineEvent) : List TrapEntry :=
  trace.filterMap fun
    | trap entry => some entry
    | commit _ | access _ => none

theorem commits_append (trace trace' : List PipelineEvent) :
    commits (trace ++ trace') = commits trace ++ commits trace' := List.filterMap_append

theorem accesses_append (trace trace' : List PipelineEvent) :
    accesses (trace ++ trace') = accesses trace ++ accesses trace' := List.filterMap_append

theorem traps_append (trace trace' : List PipelineEvent) :
    traps (trace ++ trace') = traps trace ++ traps trace' := List.filterMap_append

end PipelineEvent

open PipelineEvent (commits accesses traps)

section Trace

variable {β : Type} [Bus β]

/-- The access that MEM completes in the cycle. -/
def PipelineCore.completedAccess (core : PipelineCore) (bus : β) : Option BusRequest :=
  (core.memoryAdvance bus).bind fun _ => core.latches.exMem.bind (·.request)

/-- The trap that the last cycle has entered. -/
def PipelineCore.entered (core : PipelineCore) : Option TrapEntry :=
  core.lastResult.trap.map fun trap => ⟨trap, core.state.control, core.frontEndPc⟩

/-- The events of a cycle. -/
def Machine.events (machine : Machine PipelineCore β) (tick : β → β) : List PipelineEvent :=
  let bus := tick machine.bus
  (machine.stepCycle tick).cpu.lastCommit.toList.map .commit ++
    ((machine.cpu.begun bus).completedAccess bus).toList.map .access ++
    (machine.stepCycle tick).cpu.entered.toList.map .trap

/-- The events of a run. -/
def Machine.trace (machine : Machine PipelineCore β) (ticks : List (β → β)) : List PipelineEvent :=
  Automata.outputs Machine.stepCycle Machine.events machine ticks

theorem commits_events (machine : Machine PipelineCore β) (tick : β → β) :
    commits (machine.events tick) = (machine.stepCycle tick).cpu.lastCommit.toList := by
  unfold Machine.events commits
  dsimp only
  rcases (machine.stepCycle tick).cpu.lastCommit with _ | commit <;>
    rcases (machine.cpu.begun (tick machine.bus)).completedAccess (tick machine.bus) <;>
    rcases (machine.stepCycle tick).cpu.entered <;> rfl

theorem accesses_events (machine : Machine PipelineCore β) (tick : β → β) :
    accesses (machine.events tick) =
      ((machine.cpu.begun (tick machine.bus)).completedAccess (tick machine.bus)).toList := by
  unfold Machine.events accesses
  dsimp only
  rcases (machine.stepCycle tick).cpu.lastCommit with _ | commit <;>
    rcases (machine.cpu.begun (tick machine.bus)).completedAccess (tick machine.bus) <;>
    rcases (machine.stepCycle tick).cpu.entered <;> rfl

theorem traps_events (machine : Machine PipelineCore β) (tick : β → β) :
    traps (machine.events tick) = (machine.stepCycle tick).cpu.entered.toList := by
  unfold Machine.events traps
  dsimp only
  rcases (machine.stepCycle tick).cpu.lastCommit with _ | commit <;>
    rcases (machine.cpu.begun (tick machine.bus)).completedAccess (tick machine.bus) <;>
    rcases (machine.stepCycle tick).cpu.entered <;> rfl

end Trace

/-! ## What it means to follow the reference core -/

variable {β : Type} [Bus β] [BusyMemory β]

/-- The commit is that of the next instruction of the reference core. -/
structure Reference.Commits (reference : Reference) (event : CommitEvent) : Prop where
  pc : event.pc = reference.cpu.state.pc
  nextPc : event.nextPc = (reference.after 1).cpu.state.pc
  instruction : reference.instruction.map (fun decoded => (decoded.kind, decoded.rd)) =
    some (event.kind, event.destination)
  csrWrite : event.csrWrite = none

/-- Not everything that `length` cycles of the reference core do has been done. -/
def Unfinished (reference : Reference) (length : Nat) (trace : List PipelineEvent) : Prop :=
  (commits trace).length < reference.retired length ∨
    (traps trace).length < (reference.entries length).length

/-- The pipeline has followed the reference core over `length` cycles: it has committed the instructions that
these retire, and has the registers of the reference core behind as many. As long as it is not finished, MEM
has completed the accesses of as many instructions as have left it, and the memory is the one behind them. -/
structure FollowsReference (reference : Reference) (length : Nat) (trace : List PipelineEvent)
    (machine : Machine PipelineCore β) : Prop where
  committed : ∀ i < length, (reference.after i).RetiresPlain → ∀ event,
    (commits trace)[reference.retired i]? = some event → (reference.after i).Commits event
  registers : (commits trace).length ≤ reference.retired length → ∃ i ≤ length,
    reference.retired i = (commits trace).length ∧
      machine.cpu.state.registers = (reference.after i).cpu.state.registers
  accessed : Unfinished reference length trace → ∃ i ≤ length,
    reference.retired i = (commits trace).length + machine.cpu.latches.completedCount ∧
      accesses trace = (List.range i).filterMap (fun j => (reference.after j).request) ∧
      BusyMemory.Holds (reference.after i).bus machine.bus

/-- The pipeline has not executed everything that `length` cycles of the reference core retire, or not entered
all of their traps. -/
def Unexhausted (reference : Reference) (length : Nat) (trace : List PipelineEvent)
    (machine : Machine PipelineCore β) : Prop :=
  (commits trace).length + machine.cpu.latches.executedCount < reference.retired length ∨
    (traps trace).length < (reference.entries length).length

/-- The pipeline has entered the traps of the reference core, in the same order and in the same way, and no
other one as long as a cycle of the reference core is left. No instruction behind one that raises an exception
is executed before its trap is entered, and none ahead of it is left to execute after that. -/
structure TrapsAsReference (reference : Reference) (length : Nat) (trace : List PipelineEvent)
    (machine : Machine PipelineCore β) : Prop where
  entered : Unexhausted reference length trace machine → ∃ i < length,
    reference.retired i = (commits trace).length + machine.cpu.latches.executedCount ∧
      traps trace = reference.entries i
  exhausted : ¬ Unexhausted reference length trace machine → reference.entries length <+: traps trace
  precise : ∀ i < length, (reference.after i).RaisesEarly →
    if (reference.entries i).length < (traps trace).length
    then reference.retired i ≤ (commits trace).length + machine.cpu.latches.executedCount
    else (commits trace).length + machine.cpu.latches.executedCount ≤ reference.retired i

/-- The pipeline starts where the reference core does, in front of the same memory. -/
structure StartsAt (reference : Reference) (machine : Machine PipelineCore β) : Prop where
  boot : machine.cpu.Boot
  running : machine.cpu.state.halted = false
  direct : machine.cpu.state.Direct
  undisturbed : machine.cpu.state.csrs.softwarePending = 0
  idle : machine.cpu.pageWalker.active = none
  registers : machine.cpu.state.registers = reference.cpu.state.registers
  control : machine.cpu.state.control = reference.cpu.state.control
  pc : machine.cpu.state.pc = reference.cpu.state.pc
  holds : BusyMemory.Holds reference.bus machine.bus

/-- A tick that keeps the memory and raises no interrupt. -/
def QuietTick (tick : β → β) : Prop :=
  ∀ b, (∀ memory : FlatMemory, BusyMemory.Holds memory b → BusyMemory.Holds memory (tick b)) ∧
    Bus.pendingInterrupts (tick b) = .empty

/-! ## The trace of a run -/

/-- What the retirement `k` of the run shows when it commits. -/
noncomputable def PlainRun.commit (run : PlainRun) (k : Nat) : CommitEvent :=
  WbStage.commitEvent ((run.item k).completed (run.back k).contents) (run.item k).nextPc

/-- The pipeline has committed instructions of the run and entered its traps, and its front end is at the step
`e`. -/
structure PlainRun.Tracks (run : PlainRun) (e : Nat) (trace : List PipelineEvent)
    (machine : Machine PipelineCore β) : Prop where
  committed : ∀ k < run.total, ∀ event, (commits trace)[k]? = some event → event = run.commit k
  registers : (commits trace).length ≤ run.total →
    machine.cpu.state.registers = (run.back (commits trace).length).registers
  within : e ≤ run.length
  entered : run.entries e <+: traps trace
  entered_eq : e < run.length → traps trace = run.entries e
  accessed : run.Live (commits trace).length e → accesses trace =
    (List.range ((commits trace).length + machine.cpu.latches.completedCount)).filterMap
      fun k => (run.item k).request
  inFlight : run.Live (commits trace).length e →
    InFlight run (commits trace).length e machine.cpu machine.bus

namespace InFlight

variable {run : PlainRun} {n e : Nat} {core : PipelineCore} {bus : β} {l : StepLocals β}

/-- The start of a cycle changes nothing of it. -/
theorem begun (h : InFlight run n e core bus) {tick : β → β} (quiet : QuietTick tick) :
    InFlight run n e (core.begun (tick bus)) (tick bus) where
  running := h.running
  direct := h.direct.beginCycle _
  undisturbed := by
    show (beginCycle core.state (tick bus)).csrs.softwarePending = 0
    unfold beginCycle
    dsimp only
    split <;> exact h.undisturbed
  idle := h.idle
  registers := h.registers
  holds := (quiet bus).1 _ h.holds
  memWb := h.memWb
  exMem := h.exMem
  within := h.within
  retired_le := h.retired_le
  retired_eq := h.retired_eq
  control := fun he => (control_beginCycle core.state (tick bus)).trans (h.control he)
  front := h.front
  barrier := h.barrier

/-- A cycle reports the instruction in MEM/WB. -/
theorem lastCommit (h : InFlight run n e core bus) (live : run.Live n e)
    (cycle : RunningCycle core bus l) :
    (core.finishCycle l).2.1.lastCommit = core.latches.memWb.map fun _ => run.commit n := by
  show l.commit = _
  rw [cycle.commit_eq]
  rcases hq : core.latches.memWb with _ | q
  · rfl
  · have hn := h.lt_total_of_memWb live hq
    have retires := PlainRun.retires_item hn
    obtain rfl := h.memWb q hq hn
    rw [Option.map_some, Option.map_some, WbStage.writeBack_plain _ _ retires.plain
      retires.csrWrite_eq retires.translationFence_eq]
    rfl

/-- MEM completes the access of the instruction of the run that it lets advance. -/
theorem completedAccess (h : InFlight run n e core bus)
    (ha : run.Live (n + core.latches.completedCount) e) (cycle : RunningCycle core bus l) :
    core.completedAccess bus = if l.next.memWb.isSome
      then (run.item (n + core.latches.completedCount)).request else none := by
  unfold PipelineCore.completedAccess
  rw [cycle.memWb_eq h.running]
  rcases hq : core.memoryAdvance bus with _ | q
  · rfl
  · obtain ⟨x, w, b, hx, -⟩ := PipelineCore.memoryAdvance_eq_some hq
    rw [hx, ← h.exMem x hx (h.lt_total_of_exMem ha hx)]
    rfl

/-- As many instructions as MEM has completed are behind as many steps of the run. -/
theorem completed_le (h : InFlight run n e core bus) (live : run.Live n e) :
    n + core.latches.completedCount ≤ run.total := by
  rcases hq : core.latches.memWb with _ | q
  · have hcompleted : core.latches.completedCount = 0 := by
      rw [PipelineLatches.completedCount, hq]
      rfl
    rcases live with hn | he
    · omega
    · have hle := PlainRun.retired_le_total h.within
      have hretired := h.retired_eq he
      have hexecuted : core.latches.completedCount ≤ core.latches.executedCount := Nat.le_add_right _ _
      omega
  · have hn := h.lt_total_of_memWb live hq
    rw [PipelineLatches.completedCount_of_some hq]
    exact hn

end InFlight

/-- The cycle of a running hart. -/
theorem Machine.running_cycle {β : Type} [Bus β] {machine : Machine PipelineCore β}
    (running : machine.cpu.state.halted = false) (tick : β → β) :
    ∃ l, RunningCycle (machine.cpu.begun (tick machine.bus)) (tick machine.bus) l ∧
      machine.stepCycle tick =
        ⟨((machine.cpu.begun (tick machine.bus)).finishCycle l).2.1, l.bus⟩ := by
  obtain ⟨l, cycle, hstep⟩ :=
    (machine.cpu.begun (tick machine.bus)).runningCycle_cases (tick machine.bus)
  refine ⟨l, cycle, ?_⟩
  have hrunning : (machine.cpu.begun (tick machine.bus)).state.halted = false := running
  have hcycle : machine.cpu.stepCycle (tick machine.bus) =
      (machine.cpu.begun (tick machine.bus)).runningCycle (tick machine.bus) := by
    unfold PipelineCore.stepCycle
    dsimp only
    rw [hrunning]
    rfl
  have hmachine : machine.stepCycle tick = ⟨(machine.cpu.stepCycle (tick machine.bus)).2.1,
    (machine.cpu.stepCycle (tick machine.bus)).2.2⟩ := rfl
  rw [hmachine, hcycle, hstep]
  rfl

/-- A cycle that reports no commit leaves the registers alone. -/
theorem Machine.registers_of_no_commit {β : Type} [Bus β] {machine : Machine PipelineCore β}
    {tick : β → β} (h : (machine.stepCycle tick).cpu.lastCommit = none) :
    (machine.stepCycle tick).cpu.state.registers = machine.cpu.state.registers := by
  rcases hhalted : machine.cpu.state.halted with _ | _
  · obtain ⟨l, cycle, hstep⟩ := Machine.running_cycle hhalted tick
    rw [hstep] at h ⊢
    have hcommit := cycle.commit_eq.symm.trans h
    rw [Option.map_eq_none_iff] at hcommit
    rw [PipelineCore.finishCycle_registers, cycle.registers_eq, PipelineCore.written_state, hcommit,
      PipelineCore.begun_registers]
  · have cycle := machine.stepCycle_cases tick
    generalize machine.stepCycle tick = machine' at cycle h ⊢
    obtain ⟨core', bus'⟩ := machine'
    cases cycle with
    | wake | wait => rfl
    | running running => exact absurd hhalted (by simpa using running)

/-- The instructions up to the next one. -/
theorem filterMap_range_toNat {α : Type} (f : Nat → Option α) (n : Nat) (b : Bool) :
    (List.range (n + b.toNat)).filterMap f =
      (List.range n).filterMap f ++ (if b then f n else none).toList := by
  cases b with
  | false => simp
  | true =>
    rw [Bool.toNat_true, List.range_succ, List.filterMap_append, if_pos rfl]
    rcases hf : f n with _ | a <;> simp [hf]

namespace PlainRun

variable {run : PlainRun} {e : Nat} {trace : List PipelineEvent} {machine : Machine PipelineCore β}
  {tick : β → β}

/-- A cycle reports the next instruction of the run if it is in MEM/WB. -/
theorem Tracks.commits_events (h : run.Tracks e trace machine) (quiet : QuietTick tick)
    (live : run.Live (commits trace).length e) : commits (machine.events tick) =
      (machine.cpu.latches.memWb.map fun _ => run.commit (commits trace).length).toList := by
  obtain ⟨l, cycle, hstep⟩ := Machine.running_cycle (h.inFlight live).running tick
  rw [RvSim.commits_events, hstep, ((h.inFlight live).begun quiet).lastCommit live cycle,
    PipelineCore.begun_latches]

/-- One instruction of the run after the other commits. -/
theorem Tracks.length_commits (h : run.Tracks e trace machine) (quiet : QuietTick tick)
    (live : run.Live (commits trace).length e) : (commits (trace ++ machine.events tick)).length =
      (commits trace).length + machine.cpu.latches.completedCount := by
  rw [PipelineEvent.commits_append, h.commits_events quiet live, List.length_append]
  unfold PipelineLatches.completedCount
  rcases machine.cpu.latches.memWb <;> rfl

/-- What a cycle commits of a run that is not over. -/
theorem Tracks.committed_step (h : run.Tracks e trace machine) (quiet : QuietTick tick)
    (live : run.Live (commits trace).length e) : ∀ k < run.total, ∀ event,
      (commits (trace ++ machine.events tick))[k]? = some event → event = run.commit k := by
  intro k hk event hevent
  rw [PipelineEvent.commits_append, h.commits_events quiet live] at hevent
  by_cases hold : k < (commits trace).length
  · rw [List.getElem?_append_left hold] at hevent
    exact h.committed k hk event hevent
  · rw [List.getElem?_append_right (by omega)] at hevent
    generalize machine.cpu.latches.memWb = latch at hevent
    rcases latch with _ | q
    · cases hevent
    · obtain ⟨hindex, hevent⟩ := List.getElem?_eq_some_iff.1 hevent
      have hk : k = (commits trace).length := by
        have : k - (commits trace).length < 1 := hindex
        omega
      subst hk
      simpa using hevent.symm

/-- What a cycle leaves of a run that is over. -/
theorem Tracks.step_over (h : run.Tracks e trace machine) (hover : ¬ run.Live (commits trace).length e) :
    run.Tracks e (trace ++ machine.events tick) (machine.stepCycle tick) := by
  have hcommits : commits (trace ++ machine.events tick) =
      commits trace ++ (machine.stepCycle tick).cpu.lastCommit.toList := by
    rw [PipelineEvent.commits_append, RvSim.commits_events]
  have hle : run.total ≤ (commits trace).length := Nat.le_of_not_lt fun hlt => hover (.inl hlt)
  have hend : ¬ e < run.length := fun he => hover (.inr he)
  have hover' : ¬ run.Live (commits (trace ++ machine.events tick)).length e := by
    rw [hcommits, List.length_append]
    rintro (hn | he)
    · omega
    · exact hend he
  constructor
  · intro k hk event hevent
    rw [hcommits, List.getElem?_append_left (by omega)] at hevent
    exact h.committed k hk event hevent
  · intro hlength
    rw [hcommits, List.length_append] at hlength
    have hnone : (machine.stepCycle tick).cpu.lastCommit = none := by
      rcases hlast : (machine.stepCycle tick).cpu.lastCommit with _ | event
      · rfl
      · rw [hlast] at hlength
        exact absurd hlength (by simp; omega)
    rw [Machine.registers_of_no_commit hnone, hcommits, hnone, Option.toList_none, List.append_nil]
    exact h.registers (by omega)
  · exact h.within
  · rw [PipelineEvent.traps_append]
    exact h.entered.trans (List.prefix_append _ _)
  · exact fun he => absurd he hend
  · exact fun live => absurd live hover'
  · exact fun live => absurd live hover'

/-- **Every cycle goes on with the run.** -/
theorem Tracks.step (h : run.Tracks e trace machine) (quiet : QuietTick tick)
    (inv : run.Live (commits trace).length e → ForwardingInvariant machine.cpu) :
    ∃ e', e ≤ e' ∧ run.Tracks e' (trace ++ machine.events tick) (machine.stepCycle tick) := by
  by_cases live : run.Live (commits trace).length e
  · have inFlight := (h.inFlight live).begun quiet
    have hlength := h.length_commits quiet live
    have hcommitted := h.committed_step quiet live
    have haccesses : accesses (trace ++ machine.events tick) = accesses trace ++
        ((machine.cpu.begun (tick machine.bus)).completedAccess (tick machine.bus)).toList := by
      rw [PipelineEvent.accesses_append, accesses_events]
    have htraps : traps (trace ++ machine.events tick) =
        traps trace ++ (machine.stepCycle tick).cpu.entered.toList := by
      rw [PipelineEvent.traps_append, traps_events]
    obtain ⟨l, cycle, hstep⟩ := Machine.running_cycle (h.inFlight live).running tick
    have hregisters := inFlight.registers_cycle live cycle
    rw [PipelineCore.begun_latches, ← hlength] at hregisters
    by_cases ha : run.Live ((commits trace).length + machine.cpu.latches.completedCount) e
    · -- the pipeline goes on with the run
      obtain ⟨e', hle, later, henters⟩ := inFlight.cycle ha ((inv live).begun (tick machine.bus))
        (unsignalled_begun (h.inFlight live).undisturbed (quiet machine.bus).2) cycle
      have inFlight' := inFlight.of_later live cycle later
      rw [PipelineCore.begun_latches, ← hlength] at inFlight'
      have hentered : (machine.stepCycle tick).cpu.entered = l.entered := by
        rw [hstep]
        rfl
      rw [hentered] at htraps
      refine ⟨e', hle, ?_⟩
      constructor
      · exact hcommitted
      · rw [hstep]
        exact fun _ => hregisters
      · exact later.within
      · rw [htraps]
        by_cases he : e < run.length
        · rw [h.entered_eq he]
          rcases henters with hentries | ⟨-, hentries⟩
          · rw [hentries]
          · rw [hentries]
            exact List.prefix_append _ _
        · -- the front end stays at the end
          have hend : e' = e := Nat.le_antisymm (later.within.trans (Nat.le_of_not_lt he)) hle
          rw [hend]
          exact h.entered.trans (List.prefix_append _ _)
      · intro he'
        have he : e < run.length := Nat.lt_of_le_of_lt hle he'
        rcases henters with hentries | ⟨hend, -⟩
        · rw [htraps, hentries, h.entered_eq he]
        · exact absurd he' (Nat.not_lt.2 hend)
      · intro _
        rw [hstep, haccesses, h.accessed live, inFlight.completedAccess ha cycle, hlength]
        exact (filterMap_range_toNat _ _ _).symm
      · intro _
        rw [hstep]
        exact inFlight'
    · -- its last instruction commits
      have hover : ¬ run.Live (commits (trace ++ machine.events tick)).length e := by
        rw [hlength]
        exact ha
      refine ⟨e, Nat.le_refl e, ?_⟩
      constructor
      · exact hcommitted
      · rw [hstep]
        exact fun _ => hregisters
      · exact h.within
      · rw [htraps]
        exact h.entered.trans (List.prefix_append _ _)
      · exact fun he => absurd (.inr he) ha
      · exact fun live => absurd live hover
      · exact fun live => absurd live hover
  · exact ⟨e, Nat.le_refl e, h.step_over live⟩

/-- A pipeline that starts with the run has nothing in flight. -/
theorem Tracks.start {reference : Reference} {length : Nat} (starts : StartsAt reference machine)
    (describes : run.Describes reference length) : run.Tracks 0 [] machine := by
  have hlatches := starts.boot.latches
  have hstate := describes.state 0
  have hretired : run.retired 0 = 0 := rfl
  have hback := PlainRun.state_back (show 0 ≤ run.length from Nat.zero_le _)
  rw [hretired, hstate] at hback
  have hregisters : machine.cpu.state.registers = (run.back 0).registers := by
    rw [← hback.1]
    exact starts.registers
  constructor
  · exact fun k _ event hevent => by cases hevent
  · exact fun _ => hregisters
  · exact Nat.zero_le _
  · exact List.prefix_rfl
  · exact fun _ => rfl
  · intro _
    rw [hlatches]
    rfl
  · intro _
    exact
      { running := starts.running
        direct := starts.direct
        undisturbed := starts.undisturbed
        idle := starts.idle
        registers := hregisters
        holds := by
          rw [hlatches]
          show BusyMemory.Holds ⟨run.mapped, (run.back 0).contents⟩ machine.bus
          rw [← hback.2, describes.mapped]
          exact starts.holds
        memWb := fun q hq => by
          rw [hlatches] at hq
          cases hq
        exMem := fun x hx => by
          rw [hlatches] at hx
          cases hx
        within := Nat.zero_le _
        retired_le := Nat.zero_le _
        retired_eq := fun _ => by
          rw [hlatches]
          rfl
        control := fun _ => by
          rw [hstate]
          exact starts.control
        front := fun _ => by
          rw [hlatches]
          refine ⟨(fun _ h => by cases h), (fun _ h => by cases h), ?_⟩
          show machine.cpu.frontEndPc = (run.state 0).pc
          rw [starts.boot.frontEndPc, hstate]
          exact starts.pc
        barrier := fun hbarrier => by
          rw [starts.boot.translationBarrier] at hbarrier
          cases hbarrier }

/-! ## Following the reference core -/

/-- A run that the reference core has not finished is not over. -/
theorem Tracks.live {reference : Reference} {length : Nat} (h : run.Tracks e trace machine)
    (describes : run.Describes reference length) (unfinished : Unfinished reference length trace) :
    run.Live (commits trace).length e := by
  have hlength := describes.length
  subst hlength
  unfold Unfinished at unfinished
  rw [describes.retired (Nat.le_refl _), describes.entries (Nat.le_refl _)] at unfinished
  rcases unfinished with hcommits | htraps
  · exact .inl hcommits
  · refine .inr (Nat.lt_of_le_of_ne h.within ?_)
    rintro rfl
    exact absurd h.entered.length_le (Nat.not_le.2 htraps)

/-- Following the run of the reference core is following the reference core. -/
theorem Tracks.follows {reference : Reference} (h : run.Tracks e trace machine)
    (describes : run.Describes reference run.length) (straight : reference.Straight run.length) :
    FollowsReference reference run.length trace machine := by
  have htotal : reference.retired run.length = run.total := describes.retired (Nat.le_refl _)
  constructor
  · intro i hi hplain event hevent
    have hretiring : run.retiring i = true := by
      rw [describes.retiring i hi]
      exact decide_eq_true hplain
    have retires := run.retires i hi hretiring
    have hindex := PlainRun.index_retired hretiring
    rw [describes.retired (Nat.le_of_lt hi)] at hevent
    obtain rfl := h.committed _ (PlainRun.retired_lt_total hi hretiring) event hevent
    have hinstruction := (describes.instruction i hi hretiring).1
    unfold PlainRun.commit PlainRun.item PlainRun.back
    rw [hindex]
    refine ⟨?_, ?_, by rw [hinstruction]; rfl, retires.csrWrite_eq⟩
    · show (run.payload i).decoded.pc = _
      rw [retires.pc_eq, describes.state]
      rfl
    · have hnext := congrArg ArchState.pc retires.after
      rw [describes.state] at hnext
      exact hnext.symm
  · intro hle
    rw [htotal] at hle
    have hindex := PlainRun.index_le hle
    refine ⟨run.index (commits trace).length, hindex, ?_, ?_⟩
    · rw [describes.retired hindex, PlainRun.retired_index]
    · rw [h.registers hle, PlainRun.back, describes.state]
      rfl
  · intro unfinished
    have live := h.live describes unfinished
    have inFlight := h.inFlight live
    have hindex := PlainRun.index_le (inFlight.completed_le live)
    refine ⟨run.index ((commits trace).length + machine.cpu.latches.completedCount), hindex, ?_, ?_, ?_⟩
    · rw [describes.retired hindex, PlainRun.retired_index]
    · rw [describes.requests hindex, PlainRun.retired_index]
      exact h.accessed live
    · have holds := inFlight.holds
      have hbus := (straight.ready_after hindex).2
      unfold PlainRun.memory PlainRun.back at holds
      rw [describes.state, describes.mapped, ← hbus] at holds
      exact holds

/-- Something of the run is left to execute or to enter exactly if the front end is at one of its steps. -/
theorem Tracks.unexhausted_iff (h : run.Tracks e trace machine) :
    (commits trace).length + machine.cpu.latches.executedCount < run.retired run.length ∨
      (traps trace).length < (run.entries run.length).length ↔ e < run.length := by
  constructor
  · intro hleft
    by_contra he
    have hend : e = run.length := Nat.le_antisymm h.within (Nat.le_of_not_lt he)
    subst hend
    rcases hleft with hexecuted | htraps
    · have live : run.Live (commits trace).length run.length := .inl (by unfold total; omega)
      exact absurd (h.inFlight live).retired_le (Nat.not_le.2 hexecuted)
    · exact absurd h.entered.length_le (Nat.not_le.2 htraps)
  · intro he
    have hretired := (h.inFlight (.inr he)).retired_eq he
    have hstep := run.retired_add_entries e
    have hend := run.retired_add_entries run.length
    rw [← hretired, h.entered_eq he]
    omega

/-- The traps of the run are those of the reference core. -/
theorem Tracks.trapsAsReference {reference : Reference} (h : run.Tracks e trace machine)
    (describes : run.Describes reference run.length) :
    TrapsAsReference reference run.length trace machine := by
  have hunexhausted : Unexhausted reference run.length trace machine ↔ e < run.length := by
    unfold Unexhausted
    rw [describes.retired (Nat.le_refl _), describes.entries (Nat.le_refl _)]
    exact h.unexhausted_iff
  constructor
  · rw [hunexhausted]
    intro he
    refine ⟨e, he, ?_, ?_⟩
    · rw [describes.retired h.within]
      exact (h.inFlight (.inr he)).retired_eq he
    · rw [describes.entries h.within]
      exact h.entered_eq he
  · rw [hunexhausted, describes.entries (Nat.le_refl _)]
    intro he
    have hentered := h.entered
    rwa [Nat.le_antisymm h.within (Nat.le_of_not_lt he)] at hentered
  · intro i hi raises
    have hretiring : run.retiring i = false := by
      cases hretiring : run.retiring i with
      | false => rfl
      | true =>
        -- a cycle that retires an instruction raises no exception
        have htrap := raises.2.2.2
        have hnone := (describes.instruction i hi hretiring).2
        rw [show ((reference.after i).stepCycle id).cpu.lastResult.trap = none from hnone] at htrap
        cases htrap
    have hsucc : run.retired (i + 1) = run.retired i := by
      rw [PlainRun.retired_succ, hretiring]
      rfl
    have hentry : (run.entries (i + 1)).length = (run.entries i).length + 1 := by
      rw [PlainRun.entries_succ, hretiring]
      exact List.length_append
    rw [describes.retired (Nat.le_of_lt hi), describes.entries (Nat.le_of_lt hi)]
    by_cases hei : e ≤ i
    · -- the front end has not passed the step
      have he : e < run.length := Nat.lt_of_le_of_lt hei hi
      have hle : (run.entries e).length ≤ (run.entries i).length := PlainRun.length_entries_mono hei
      rw [if_neg (by rw [h.entered_eq he]; omega), ← (h.inFlight (.inr he)).retired_eq he]
      exact PlainRun.retired_mono hei
    · have hpassed : i + 1 ≤ e := Nat.lt_of_not_le hei
      have hlength := (PlainRun.length_entries_mono hpassed).trans h.entered.length_le
      have hretired : run.retired i ≤ run.retired e := by
        rw [← hsucc]
        exact PlainRun.retired_mono hpassed
      rw [if_pos (by omega)]
      by_cases live : run.Live (commits trace).length e
      · exact hretired.trans (h.inFlight live).retired_le
      · have hover : run.total ≤ (commits trace).length := Nat.le_of_not_lt fun hlt => live (.inl hlt)
        have htotal := PlainRun.retired_le_total h.within
        omega

end PlainRun

/-! ## Runs that lose no operand -/

/-- A run that loses no operand goes on with the run of the reference core. -/
theorem PlainRun.Describes.tracks {run : PlainRun} {reference : Reference} {length : Nat}
    (describes : run.Describes reference length) {machine : Machine PipelineCore β}
    (starts : StartsAt reference machine) {ticks : List (β → β)} (quiet : ∀ tick ∈ ticks, QuietTick tick)
    (kept : Automata.Along Machine.stepCycle (fun m tick => ¬ LosesOperand m tick) machine ticks) :
    ∃ e, run.Tracks e (machine.trace ticks) (machine.runCycles ticks) := by
  have hquiet : Automata.Along Machine.stepCycle (fun _ tick => QuietTick tick) machine ticks :=
    .of_forall_mem fun tick htick _ => quiet tick htick
  have htracks : (∃ e, run.Tracks e (machine.trace ticks) (machine.runCycles ticks)) ∧
      ForwardingInvariant (machine.runCycles ticks).cpu := by
    refine (hquiet.and kept).outputs_invariant
      (I := fun trace m => (∃ e, run.Tracks e trace m) ∧ ForwardingInvariant m.cpu) []
      ⟨⟨0, .start starts describes⟩, starts.boot.forwardingInvariant⟩ ?_
    rintro trace m tick ⟨⟨e, h⟩, inv⟩ ⟨htick, hkept⟩
    obtain ⟨e', -, h'⟩ := h.step htick fun _ => inv
    exact ⟨⟨e', h'⟩, forwardingInvariant_step inv hkept⟩
  exact htracks.1

/-- **The pipeline follows the reference core**: in front of a memory that may be busy it commits the plain
instructions of the reference core in the same order and with the same results, over the exceptions between
them, in every run in which no interrupt is raised and no waiting instruction loses an operand. -/
theorem pipeline_follows {reference : Reference} {length : Nat} (straight : reference.Straight length)
    {machine : Machine PipelineCore β} (starts : StartsAt reference machine) {ticks : List (β → β)}
    (quiet : ∀ tick ∈ ticks, QuietTick tick)
    (kept : Automata.Along Machine.stepCycle (fun m tick => ¬ LosesOperand m tick) machine ticks) :
    FollowsReference reference length (machine.trace ticks) (machine.runCycles ticks) := by
  obtain ⟨run, describes⟩ := straight.exists_run
  obtain ⟨e, h⟩ := describes.tracks starts quiet kept
  have hlength := describes.length
  subst hlength
  exact h.follows describes straight

/-- **The traps of the pipeline are precise**: it enters those of the reference core in the same order, with
the same causes, vectors and effects on the mode and the CSRs, and each when it has executed exactly the
instructions ahead of it. -/
theorem pipeline_traps {reference : Reference} {length : Nat} (straight : reference.Straight length)
    {machine : Machine PipelineCore β} (starts : StartsAt reference machine) {ticks : List (β → β)}
    (quiet : ∀ tick ∈ ticks, QuietTick tick)
    (kept : Automata.Along Machine.stepCycle (fun m tick => ¬ LosesOperand m tick) machine ticks) :
    TrapsAsReference reference length (machine.trace ticks) (machine.runCycles ticks) := by
  obtain ⟨run, describes⟩ := straight.exists_run
  obtain ⟨e, h⟩ := describes.tracks starts quiet kept
  have hlength := describes.length
  subst hlength
  exact h.trapsAsReference describes

/-! ## A program -/

/-- `bne x1, x0, 20` over `addi x1, x0, 5`, a store and a load of `x1` and an `ecall`, and behind them
`add x3, x2, x1`, a word that is no instruction, and a jump to itself. The traps go to address zero. -/
def storeLoadTrap : FlatMemory :=
  .ofWords [0x00009a63, 0x00500093, 0x02102023, 0x02002103, 0x00000073, 0x001101b3, 0xffffffff,
    0x0000006f, 0]

def storeLoadTrapReference : Reference := { cpu := .new 0, bus := storeLoadTrap }

/-- The pipeline in front of the same memory, busy before every other access. -/
def storeLoadTrapPipeline : Machine PipelineCore (Scheduled FlatMemory) where
  cpu := .new 0
  bus := { memory := storeLoadTrap, schedule := (· % 2) }

/-- It raises an exception on the `ecall`, and then on the word behind the addition. -/
theorem storeLoadTrap_straight : storeLoadTrapReference.Straight 11 :=
  ⟨⟨by decide, rfl, rfl⟩, by decide +kernel, by decide +kernel, by decide +kernel⟩

/-- The pipeline starts where the reference core does. -/
theorem storeLoadTrap_starts : StartsAt storeLoadTrapReference storeLoadTrapPipeline :=
  ⟨PipelineCore.boot_new 0, rfl, by decide, rfl, rfl, rfl, rfl, rfl, rfl⟩

theorem quiet_replicate {ticks : Nat} : ∀ tick ∈ List.replicate ticks (id : β → β),
    Bus.pendingInterrupts (β := β) = (fun _ => .empty) → QuietTick tick := by
  intro tick htick hlines b
  obtain rfl := List.eq_of_mem_replicate htick
  exact ⟨fun _ h => h, congrFun hlines b⟩

theorem pipeline_follows_busy :
    FollowsReference storeLoadTrapReference 11 (storeLoadTrapPipeline.trace (List.replicate 60 id))
      (storeLoadTrapPipeline.runCycles (List.replicate 60 id)) :=
  pipeline_follows storeLoadTrap_straight storeLoadTrap_starts
    (fun tick htick => quiet_replicate tick htick rfl) (by decide +kernel)

theorem pipeline_traps_busy :
    TrapsAsReference storeLoadTrapReference 11 (storeLoadTrapPipeline.trace (List.replicate 60 id))
      (storeLoadTrapPipeline.runCycles (List.replicate 60 id)) :=
  pipeline_traps storeLoadTrap_straight storeLoadTrap_starts
    (fun tick htick => quiet_replicate tick htick rfl) (by decide +kernel)

end RvSim
