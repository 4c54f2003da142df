import Mathlib.Data.Prod.Lex
import RvSim.Automata.Stutter
import RvSim.Core.Suspension
import RvSim.System.FlatRam
import RvSim.System.Machine

/-!
# Busy answers do not show

The reference core on a memory behind a schedule of busy answers. Whatever the schedule, and whatever
the clock of the bus says, the instructions that retire, the traps and the accesses that the memory
performs are the same.

## Main definitions

* `Commit`, `Machine.commit`: what a cycle retires or traps, with the state after it
* `Machine.Quiet`: a cycle without an interrupt, in which no counter of cycles or time is read
* `Machine.settle`: the machine after the instruction in progress, on the calm bus

## Main results

* `waits_settle`: the machine follows the one that settles every instruction in a step
* `busTiming_invisible`: two schedules cannot be told apart
-/

namespace RvSim

/-! ## The core between two cycles -/

/-- The state with the interrupt lines of a bus that raises none. -/
def HartState.synced (state : HartState) : HartState :=
  { state with csrs := state.csrs.syncInterrupts .empty }

theorem HartState.synced_synced (state : HartState) : state.synced.synced = state.synced := by
  unfold synced
  rw [CsrFile.syncInterrupts_syncInterrupts]

namespace ReferenceCore

/-- The core in a cycle, but for its counters of cycles and time. -/
def idle (core : ReferenceCore) : ReferenceCore :=
  { core with cycle := 0, state := core.state.synced.withClock 0 0 }

theorem idle_withClock (core : ReferenceCore) (cycle mcycle time : U64) :
    (core.withClock cycle mcycle time).idle = core.idle := rfl

theorem idle_idle (core : ReferenceCore) : core.idle.idle = core.idle := by
  have h := core.state.synced_synced
  have hstate : core.idle.state.synced.withClock 0 0 = core.state.synced.synced.withClock 0 0 := rfl
  rw [h] at hstate
  unfold idle at hstate ⊢
  rw [hstate]

variable {M : Type} [Bus M]

theorem begun_withClock (core : ReferenceCore) (b : Scheduled M) :
    (core.begun b).withClock 0 0 0 = core.idle := by
  unfold begun beginCycle
  rcases Bus.machineTime b with _ | time <;> rfl

theorem idle_begun (core : ReferenceCore) (b : Scheduled M) : (core.begun b).idle = core.idle := by
  rw [← idle_withClock _ 0 0 0, begun_withClock, idle_idle]

end ReferenceCore

/-! ## What a cycle commits -/

/-- An instruction that retires or traps: where it was, how it ended, the state after it but for the
counters of cycles and time, and all accesses performed so far. -/
structure Commit where
  pc : U32
  result : ExecutionResult
  state : HartState
  accesses : List BusAccess
  deriving DecidableEq

namespace Machine

variable {M : Type} [Bus M]

/-- The tick in which the bus sets its clock. -/
def setTime (time : Option U64) (b : Scheduled M) : Scheduled M := { b with time }

/-- A cycle of the machine at a time. -/
def cycleAt (machine : Machine ReferenceCore (Scheduled M)) (time : Option U64) :
    Machine ReferenceCore (Scheduled M) := machine.stepCycle (setTime time)

/-- What a cycle of the machine commits. A halted hart commits nothing. -/
def commit (machine : Machine ReferenceCore (Scheduled M)) (time : Option U64) : List Commit :=
  let next := machine.cycleAt time
  let result := next.cpu.lastResult
  if machine.cpu.state.halted ∨ (result.retired = 0 ∧ result.trap = none) then []
  else [⟨machine.cpu.state.pc, result, next.cpu.state.withClock 0 0, next.bus.log⟩]

/-- No interrupt is pending, and the instruction in progress reads no counter of cycles or time. -/
def Quiet (machine : Machine ReferenceCore (Scheduled M)) : Prop :=
  machine.cpu.idle.state.csrs.pendingInterrupt machine.cpu.idle.state.privilege = none ∧
    (machine.cpu.idle.inProgress machine.bus.calm).all (fun decoded => !decoded.readsClock) = true

instance (machine : Machine ReferenceCore (Scheduled M)) : Decidable machine.Quiet :=
  inferInstanceAs (Decidable (_ ∧ _))

theorem Quiet.readsClock {machine : Machine ReferenceCore (Scheduled M)} (h : machine.Quiet)
    {decoded : DecodedInstruction}
    (hdecoded : machine.cpu.idle.inProgress machine.bus.calm = some decoded) :
    decoded.readsClock = false := by
  have hall := h.2
  rw [hdecoded] at hall
  simpa using hall

/-- The machine after the instruction in progress, on the calm bus. -/
def settle (machine : Machine ReferenceCore (Scheduled M)) : Machine ReferenceCore (Scheduled M) :=
  let out := machine.cpu.idle.instructionStep machine.bus.calm
  { cpu := out.2.1.withClock 0 0 0, bus := out.2.2.calm }

/-- What the instruction in progress commits. -/
def settled (machine : Machine ReferenceCore (Scheduled M)) : List Commit :=
  if machine.cpu.state.halted then []
  else [⟨machine.cpu.state.pc, machine.settle.cpu.lastResult, machine.settle.cpu.state,
    machine.settle.bus.log⟩]

/-- The machine is on its way from one instruction to the next. -/
structure Ongoing (start machine : Machine ReferenceCore (Scheduled M)) : Prop where
  missed : machine.cpu.pageWalker.Missed
  state : machine.cpu.idle.state = start.cpu.idle.state
  settle : machine.settle = start.settle
  inProgress : machine.cpu.idle.inProgress machine.bus.calm =
    start.cpu.idle.inProgress start.bus.calm
  grows : start.bus.log <+: machine.bus.log

theorem Ongoing.quiet_iff {start machine : Machine ReferenceCore (Scheduled M)}
    (h : Ongoing start machine) : machine.Quiet ↔ start.Quiet := by
  unfold Quiet
  rw [h.state, h.inProgress]

/-- How far it is to the next instruction: the accesses that are still to be performed, then the busy
answers before the next one. -/
def distance (start machine : Machine ReferenceCore (Scheduled M)) : Nat ×ₗ Nat :=
  toLex (start.settle.bus.log.length - machine.bus.log.length, machine.bus.busy)

/-! ## One instruction -/

section

variable {machine : Machine ReferenceCore (Scheduled M)} {core : ReferenceCore} {b : Scheduled M}

/-- What the instruction in progress does, whatever the counters hold. -/
theorem settle_eq (quiet : machine.Quiet) (hcore : core.withClock 0 0 0 = machine.cpu.idle)
    (hbus : b.calm = machine.bus.calm) :
    machine.settle = { cpu := (core.instructionStep b.calm).2.1.withClock 0 0 0
                       bus := (core.instructionStep b.calm).2.2.calm } := by
  have hreads : ∀ decoded, core.inProgress b.calm = some decoded → decoded.readsClock = false := by
    intro decoded hdecoded
    refine quiet.readsClock ?_
    rw [← hcore, ← hbus]
    exact hdecoded
  obtain ⟨mcycle, time, heq⟩ :=
    ReferenceCore.instructionStep_withClock 0 0 0 hreads
  unfold settle
  rw [← hcore, ← hbus, heq]
  rfl

theorem Ongoing.halted {start : Machine ReferenceCore (Scheduled M)} (h : Ongoing start machine) :
    machine.cpu.state.halted = start.cpu.state.halted := by
  have halted := congrArg HartState.halted h.state
  exact halted

theorem Ongoing.pc {start : Machine ReferenceCore (Scheduled M)} (h : Ongoing start machine) :
    machine.cpu.state.pc = start.cpu.state.pc := by
  have pc := congrArg HartState.pc h.state
  exact pc

/-- A halted hart waits. -/
theorem settle_halted (quiet : machine.Quiet) (hhalted : machine.cpu.state.halted = true) :
    machine.settle = { cpu := machine.cpu.idle, bus := machine.bus.calm } := by
  have hinterrupt := quiet.1
  have hidle : machine.cpu.idle.state.halted = true := hhalted
  unfold settle ReferenceCore.instructionStep ReferenceCore.interrupt
  simp only [hinterrupt, ite_self, hidle, if_true]
  rfl

theorem ongoing_of_idle {start machine : Machine ReferenceCore (Scheduled M)}
    (missed : machine.cpu.pageWalker.Missed) (hcore : machine.cpu.idle = start.cpu.idle)
    (hbus : machine.bus.calm = start.bus.calm) : Ongoing start machine := by
  refine ⟨missed, by rw [hcore], ?_, by rw [hcore, hbus], ?_⟩
  · unfold settle
    rw [hcore, hbus]
  · rw [← start.bus.calm_log, ← hbus]
    exact List.prefix_refl _

variable [NeverBusy M]

/-- Settling an instruction performs further accesses. -/
theorem settle_grows (quiet : machine.Quiet) (hrunning : machine.cpu.state.halted = false)
    (missed : machine.cpu.pageWalker.Missed) : machine.bus.log <+: machine.settle.bus.log := by
  have attempt := machine.cpu.idle.instructionStep_attempt machine.bus.calm quiet.1 hrunning missed
  have grows : machine.bus.calm.log <+:
      (machine.cpu.idle.instructionStep machine.bus.calm).2.2.log := by
    generalize machine.cpu.idle.instructionStep machine.bus.calm = out at attempt
    cases attempt with
    | suspended _ _ _ grows => exact grows
    | done _ _ _ grows => exact grows
  exact grows

omit [NeverBusy M] in
theorem distance_lt {start next : Machine ReferenceCore (Scheduled M)}
    (grows : machine.bus.log <+: next.bus.log) (bounded : next.bus.log <+: start.settle.bus.log)
    (less : next.bus.log = machine.bus.log → next.bus.busy < machine.bus.busy) :
    distance start next < distance start machine := by
  have hle := grows.length_le
  have hle' := bounded.length_le
  refine Prod.Lex.toLex_lt_toLex.mpr ?_
  rcases Nat.lt_or_ge machine.bus.log.length next.bus.log.length with hlt | hge
  · left
    show start.settle.bus.log.length - next.bus.log.length <
      start.settle.bus.log.length - machine.bus.log.length
    omega
  · have hsame : next.bus.log = machine.bus.log := (grows.eq_of_length_le hge).symm
    right
    exact ⟨by rw [hsame], less hsame⟩

/-- **The machine follows the one that settles every instruction in a step.** -/
theorem waits_settle : Automata.Waits cycleAt (commit (M := M)) settle settled Quiet Ongoing
    distance := by
  refine ⟨fun start machine time ongoing quiet => ?_⟩
  have hquiet := ongoing.quiet_iff.mpr quiet
  -- the core and the bus after the start of the cycle
  obtain ⟨b, hb⟩ : ∃ b, b = setTime time machine.bus := ⟨_, rfl⟩
  obtain ⟨core, hcore⟩ : ∃ core, core = machine.cpu.begun b := ⟨_, rfl⟩
  have hclock : core.withClock 0 0 0 = machine.cpu.idle := hcore ▸ machine.cpu.begun_withClock b
  have hidle : core.idle = machine.cpu.idle := hcore ▸ machine.cpu.idle_begun b
  have hcalm : b.calm = machine.bus.calm := by rw [hb]; rfl
  have hstep : machine.cycleAt time =
      { cpu := (core.instructionStep b).2.1, bus := (core.instructionStep b).2.2 } := by
    rw [hcore, hb]
    rfl
  have hinterrupt : core.state.csrs.pendingInterrupt core.state.privilege = none := by
    have h := hquiet.1
    rw [← hclock] at h
    exact h
  have hhalt : core.state.halted = machine.cpu.state.halted := by rw [hcore]; rfl
  have hsettle := settle_eq hquiet hclock hcalm
  rcases hrunning : machine.cpu.state.halted with _ | _
  · have hmissed : core.pageWalker.Missed := by rw [hcore]; exact ongoing.missed
    have attempt := core.instructionStep_attempt b hinterrupt (hhalt.trans hrunning) hmissed
    rcases hout : core.instructionStep b with ⟨answer, core', b'⟩
    rw [hout] at attempt hstep
    cases attempt with
    | @suspended _ w pending _ missed resumes same grows less =>
      left
      have hlog : machine.bus.log <+: b'.log := by
        rw [← machine.bus.calm_log, ← hcalm]
        exact grows
      have hbusy : b'.log = machine.bus.log → b'.busy < machine.bus.busy := by
        rw [hb] at less
        exact less
      have hinProgress : (machine.cycleAt time).cpu.idle.inProgress (machine.cycleAt time).bus.calm =
          machine.cpu.idle.inProgress machine.bus.calm := by
        rw [hstep]
        show (core.idle.resumed w pending).inProgress b'.calm = _
        rw [hidle, ← hclock, ← hcalm]
        exact same
      have hstate : (machine.cycleAt time).cpu.idle.state = machine.cpu.idle.state := by
        rw [hstep, ← hidle]
        rfl
      have hquiet' : (machine.cycleAt time).Quiet := by
        unfold Quiet
        rw [hstate, hinProgress]
        exact hquiet
      have hsettle' : (machine.cycleAt time).settle = start.settle := by
        rw [← ongoing.settle, hsettle, ← resumes]
        refine settle_eq hquiet' ?_ ?_
        · rw [hstep]
          show (core.withClock 0 0 0).resumed w pending = core.idle.resumed w pending
          rw [hclock, hidle]
        · rw [hstep]
      have hrunning' : (machine.cycleAt time).cpu.state.halted = false := by
        rw [hstep]
        exact hhalt.trans hrunning
      have hmissed' : (machine.cycleAt time).cpu.pageWalker.Missed := by rw [hstep]; exact missed
      have bounded := settle_grows hquiet' hrunning' hmissed'
      rw [hsettle'] at bounded
      refine ⟨⟨hmissed', hstate.trans ongoing.state, hsettle', hinProgress.trans ongoing.inProgress, ?_⟩,
        ?_, distance_lt ?_ bounded ?_⟩
      · rw [hstep]
        exact ongoing.grows.trans hlog
      · unfold commit
        rw [hstep]
        exact if_pos (.inr ⟨rfl, rfl⟩)
      · rw [hstep]
        exact hlog
      · rw [hstep]
        exact hbusy
    | done eq boundary missed grows ends =>
      right
      rw [eq] at hsettle
      rw [← ongoing.settle]
      constructor
      · rw [hsettle, hstep]
        exact ongoing_of_idle missed rfl rfl
      · have hends : ¬ (machine.cpu.state.halted = true ∨
            core'.lastResult.retired = 0 ∧ core'.lastResult.trap = none) := by
          rw [hrunning]
          rintro (h | ⟨hretired, htrap⟩)
          · cases h
          · exact ends.elim (fun h => h hretired) (fun h => h htrap)
        unfold commit settled
        rw [hstep, if_neg hends, ← ongoing.halted, ← ongoing.pc, ← ongoing.settle, hrunning, hsettle]
        rfl
  · right
    have hout : core.instructionStep b = (.ok ReferenceCore.stalledCycle, core, b) := by
      unfold ReferenceCore.instructionStep ReferenceCore.interrupt
      simp only [hinterrupt, ite_self, hhalt, hrunning, if_true]
    rw [hout] at hstep
    constructor
    · rw [← ongoing.settle, settle_halted hquiet hrunning, hstep]
      refine ongoing_of_idle ?_ ?_ hcalm
      · rw [hcore]
        exact ongoing.missed
      · rw [hidle]
        exact machine.cpu.idle_idle.symm
    · unfold commit settled
      rw [if_pos (.inl hrunning), if_pos (ongoing.halted ▸ hrunning)]

/-- The accesses performed so far are among those of the instruction. -/
theorem Ongoing.bounded {start : Machine ReferenceCore (Scheduled M)} (h : Ongoing start machine)
    (quiet : machine.Quiet) : machine.bus.log <+: start.settle.bus.log := by
  rw [← h.settle]
  rcases hrunning : machine.cpu.state.halted with _ | _
  · exact settle_grows quiet hrunning h.missed
  · rw [settle_halted quiet hrunning]
    exact List.prefix_refl _

end

/-! ## Runs -/

/-- When the bus is busy and what its clock says: how often the bus is busy before the first access
and before each one after it, and the time in each cycle. -/
structure BusTiming where
  busy : Nat := 0
  schedule : Nat → Nat := fun _ => 0
  clock : Nat → Option U64 := fun _ => none

variable (core : ReferenceCore) (memory : M) (timing : BusTiming)

/-- The machine before its first cycle. -/
def start : Machine ReferenceCore (Scheduled M) where
  cpu := core
  bus := { memory, busy := timing.busy, schedule := timing.schedule }

/-- The machine after `n` cycles. -/
def runAt (n : Nat) : Machine ReferenceCore (Scheduled M) :=
  Automata.run cycleAt (start core memory timing) (Automata.inputs timing.clock n)

/-- What the first `n` cycles commit. -/
def commitsAt (n : Nat) : List Commit :=
  Automata.outputs cycleAt commit (start core memory timing) (Automata.inputs timing.clock n)

variable [NeverBusy M] {core}

/-- **Two schedules cannot be told apart**: whatever a run commits and whatever accesses it performs,
the run with other busy answers and another clock commits and performs, too. -/
theorem busTiming_invisible (hidle : core.pageWalker.active = none) (timing' : BusTiming) (n : Nat)
    (quiet : ∀ i ≤ n, (runAt core memory timing i).Quiet) :
    ∃ m, commitsAt core memory timing n <+: commitsAt core memory timing' m ∧
      (runAt core memory timing n).bus.log <+: (runAt core memory timing' m).bus.log := by
  have missed : core.pageWalker.Missed := .of_idle hidle
  have waits : Automata.Waits cycleAt (commit (M := M)) settle settled Quiet Ongoing distance :=
    waits_settle
  have ongoing : Ongoing (start core memory timing) (start core memory timing) :=
    ongoing_of_idle missed rfl rfl
  have ongoing' : Ongoing (start core memory timing) (start core memory timing') :=
    ongoing_of_idle missed rfl rfl
  obtain ⟨k, hk, hcommits, hquiet⟩ := waits.follow ongoing timing.clock n fun i hi b hb =>
    hb.quiet_iff.mp (quiet i (by omega))
  -- the instruction in progress after the last cycle is quiet, too
  have hlast := hk.quiet_iff.mp (quiet n le_rfl)
  obtain ⟨m, hm, hcommits'⟩ := waits.reach ongoing' timing'.clock (k + 1) fun j hj => by
    rcases Nat.lt_or_ge j k with hj' | hj'
    · exact hquiet j hj'
    · obtain rfl : j = k := by omega
      exact hlast
  refine ⟨m, ?_, ?_⟩
  · unfold commitsAt
    rw [hcommits, hcommits']
    exact Automata.Waits.emitted_prefix _ (Nat.le_succ k)
  · have hbounded := hk.bounded (quiet n le_rfl)
    have hgrows := hm.grows
    rw [Function.iterate_succ_apply'] at hgrows
    exact hbounded.trans hgrows

/-- A store, a load and an environment call behind a slow bus and behind a fast one. -/
theorem busTiming_invisible_store_load_ecall :
    ∃ m, commitsAt (.new 0) (FlatRam.ofWords [0x02002023, 0x02002083, 0x00000073, 0, 0, 0, 0, 0, 0])
          { busy := 1, schedule := fun n => n % 2 } 8 <+:
        commitsAt (.new 0) (FlatRam.ofWords [0x02002023, 0x02002083, 0x00000073, 0, 0, 0, 0, 0, 0])
          { schedule := fun n => if n = 3 then 5 else 0, clock := fun n => some n } m ∧
      (runAt (.new 0) (FlatRam.ofWords [0x02002023, 0x02002083, 0x00000073, 0, 0, 0, 0, 0, 0])
          { busy := 1, schedule := fun n => n % 2 } 8).bus.log <+:
        (runAt (.new 0) (FlatRam.ofWords [0x02002023, 0x02002083, 0x00000073, 0, 0, 0, 0, 0, 0])
          { schedule := fun n => if n = 3 then 5 else 0, clock := fun n => some n } m).bus.log :=
  busTiming_invisible _ _ rfl _ 8 (by decide +kernel)

end Machine

end RvSim
