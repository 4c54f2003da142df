import RvSim.Core.Refinement

/-!
# Progress of the pipeline

In front of a memory that is never busy MEM and IF never wait, and the first instruction in flight moves on
in every cycle: it takes five cycles from an empty pipeline to its commit, or to its trap.

## Main definitions

* `PipelineLatches.distance`: how many cycles the first instruction in flight is from its commit

## Main results

* `InFlight.advances`: a cycle that commits nothing brings the first instruction in flight closer to its
  commit, unless that is the one that raises an exception
* `pipeline_completes`: every run follows the reference core, and has committed one of its instructions or
  entered one of its traps for every five cycles
-/

namespace RvSim

open PipelineEvent (commits accesses traps)

/-- How many cycles without a commit are ahead of the next one, if none stalls. -/
def PipelineLatches.distance (latches : PipelineLatches) : Nat :=
  if latches.memWb.isSome then 0
  else if latches.exMem.isSome then 1
  else if latches.idEx.isSome then 2
  else if latches.ifId.isSome then 3
  else 4

theorem PipelineLatches.distance_le (latches : PipelineLatches) : latches.distance ≤ 4 := by
  unfold distance
  repeat' split
  all_goals omega

/-- If the stages hand on what they have, the first instruction comes closer. -/
theorem PipelineLatches.distance_lt {current next : PipelineLatches} (empty : current.memWb = none)
    (memWb : next.memWb.isSome = current.exMem.isSome)
    (exMem : current.exMem = none → current.idEx.isSome = true → next.exMem.isSome = true)
    (idEx : current.exMem = none → current.idEx = none → current.ifId.isSome = true →
      next.idEx.isSome = true)
    (ifId : current.exMem = none → current.idEx = none → current.ifId = none →
      next.ifId.isSome = true) : next.distance < current.distance := by
  unfold distance
  rw [memWb, empty]
  rcases hexMem : current.exMem with _ | x
  · rcases hidEx : current.idEx with _ | p
    · rcases hifId : current.ifId with _ | f
      · simp [ifId hexMem hidEx hifId]
        split <;> first | omega | split <;> omega
      · simp [idEx hexMem hidEx (by rw [hifId]; rfl)]
        split <;> omega
    · simp [exMem hexMem (by rw [hidEx]; rfl)]
  · simp

/-- If more instructions have left EX than before, the first one is further on. -/
theorem PipelineLatches.distance_lt_of_executed {current next : PipelineLatches} (empty : current.memWb = none)
    (h : current.executedCount < next.executedCount) : next.distance < current.distance := by
  unfold executedCount completedCount at h
  unfold distance
  rw [empty] at h ⊢
  rcases hexMem : current.exMem with _ | x <;> rcases hexMem' : next.exMem with _ | x' <;>
    rcases hmemWb' : next.memWb with _ | q' <;> simp [hexMem, hexMem', hmemWb'] at h ⊢
  all_goals split <;> first | omega | split <;> omega

variable {β : Type} [Bus β] [BusyMemory β] [NeverBusy β]

namespace InFlight

variable {run : PlainRun} {n e : Nat} {core : PipelineCore} {bus : β} {l : StepLocals β}

/-- MEM does not wait. -/
theorem not_stall (h : InFlight run n e core bus) (ha : run.Live (n + core.latches.completedCount) e)
    (x : ExMemPayload) : core.memoryAnswer bus ≠ some (.stall x) := by
  intro hstall
  obtain ⟨-, -, p, w, b, hp, haccess⟩ := PipelineCore.memoryAnswer_eq_some hstall
  have haccessed := h.accessed ha hp
  rw [haccess] at haccessed
  cases haccessed with
  | stall _ busy => exact NeverBusy.call _ bus _ busy

/-- IF does not wait. -/
theorem fetches {frontEndPc : U32} {memory : FlatMemory} {state : HartState} (direct : state.Direct)
    {walker w : PageWalker} (idle : walker.active = none) (holds : BusyMemory.Holds memory bus)
    (accessible : (fetchRequest frontEndPc).Accessible memory) {predictor : BimodalPredictor}
    {answer : Except BusError FetchEvent} {b : β}
    (h : IfStage.fetch bus walker state.csrs state.privilege frontEndPc predictor = (answer, w, b)) :
    ∃ payload, answer = .ok (.advance payload) := by
  have hword := direct.fetch idle holds accessible predictor
  rw [h] at hword
  cases hword with
  | stall busy => exact absurd busy (NeverBusy.fetch32 bus _ _)
  | @done _ payload => exact ⟨payload, rfl⟩

omit [Bus β] [BusyMemory β] [NeverBusy β] in
/-- A word that has nothing ahead of it is decoded. -/
theorem decodes {latches : PipelineLatches} {registers : RegisterFile} {i : Option IfIdPayload}
    {d : Option IdExPayload} {s : Bool} (decode : DecodePass latches registers i d s)
    (memWb : latches.memWb = none) (exMem : latches.exMem = none) (idEx : latches.idEx = none) :
    d.isSome = latches.ifId.isSome ∧ s = false := by
  cases decode with
  | idle latch => rw [latch]; exact ⟨rfl, rfl⟩
  | stall latch decoded hazard =>
    unfold StepLocals.decodeHazard hasInFlightCsrInstruction at hazard
    rw [idEx, exMem, memWb] at hazard
    simp at hazard
  | advance latch => rw [latch]; exact ⟨rfl, rfl⟩

/-- **A cycle that commits nothing** brings the first instruction in flight closer to its commit, unless it
enters a trap of the run with nothing ahead of EX. -/
theorem advances (h : InFlight run n e core bus) (live : run.Live n e)
    (unsignalled : core.state.Unsignalled) (cycle : RunningCycle core bus l)
    (empty : core.latches.memWb = none) :
    l.next.distance < core.latches.distance ∨
      e < run.length ∧ (l.trapResult.bind (·.trap)).isSome = true := by
  have hcompleted : core.latches.completedCount = 0 := by
    rw [PipelineLatches.completedCount, empty]
    rfl
  have ha : run.Live (n + core.latches.completedCount) e := by
    rw [hcompleted]
    exact live
  have hw := h.written live
  have direct := hw.direct h.direct
  -- the front end is in the run if nothing is ahead of it
  have he : core.latches.exMem = none → e < run.length := by
    intro hexMem
    refine live.elim (fun hn => ?_) id
    have hretired := h.retired_le
    rw [PipelineLatches.executedCount, hcompleted, hexMem] at hretired
    exact PlainRun.lt_length_of_retired_lt (Nat.lt_of_le_of_lt hretired hn)
  -- nor does it wait if nothing is in flight
  have hempty : core.latches.exMem = none → core.latches.idEx = none → core.latches.ifId = none →
      ∀ {q w w' b b' x predictor answer},
        MemoryPass (core.written bus) core.latches.exMem q w b →
        ExecutePass core.latches (core.written bus) x predictor →
        IfStage.fetch b w (core.written bus).state.csrs (core.written bus).state.privilege
          core.frontEndPc predictor = (answer, w', b') → ∃ payload, answer = .ok (.advance payload) := by
    intro hexMem hidEx hifId q w w' b b' x predictor answer memory execute fetch
    obtain ⟨rfl, hholds, -, -⟩ := h.memoryPass ha memory
    have hfront := h.front (he hexMem)
    rw [hidEx, hifId] at hfront
    exact fetches direct h.idle hholds (hfront.accessible (he hexMem) _) fetch
  -- a trap that EX, ID or IF raises lets MEM go on
  have htrapped : ∀ {q w b}, MemoryPass (core.written bus) core.latches.exMem q w b → l.next.memWb = q →
      (l.trapResult.bind (·.trap)).isSome = true →
      l.next.distance < core.latches.distance ∨
        e < run.length ∧ (l.trapResult.bind (·.trap)).isSome = true := by
    intro q w b memory hnext htrap
    obtain ⟨-, -, hisSome, -⟩ := h.memoryPass ha memory
    rcases hexMem : core.latches.exMem with _ | x
    · exact .inr ⟨he hexMem, htrap⟩
    · refine .inl (PipelineLatches.distance_lt empty (by rw [hnext, hisSome]) ?_ ?_ ?_) <;>
        exact fun hnone => absurd (hexMem.symm.trans hnone) (by simp)
  cases cycle with
  | interrupt taken =>
    rw [hw.noInterrupt unsignalled] at taken
    cases taken
  | memoryTrap _ latch access =>
    have haccessed := h.accessed ha latch
    rw [access] at haccessed
    cases haccessed
  | memoryWait _ latch access =>
    have haccessed := h.accessed ha latch
    rw [access] at haccessed
    cases haccessed with
    | stall _ busy => exact absurd busy (NeverBusy.call _ bus _)
  | barrierHold _ memory barrier =>
    obtain ⟨-, -, hisSome, -⟩ := h.memoryPass ha memory
    have hend := h.barrier (hw.barrier.symm.trans barrier)
    exact .inl <| PipelineLatches.distance_lt empty hisSome
      (fun hexMem _ => absurd (he hexMem) (Nat.not_lt.2 hend))
      (fun hexMem _ _ => absurd (he hexMem) (Nat.not_lt.2 hend))
      (fun hexMem _ _ => absurd (he hexMem) (Nat.not_lt.2 hend))
  | executeTrap _ memory => exact htrapped memory rfl rfl
  | redirect _ memory _ latch =>
    obtain ⟨-, -, hisSome, -⟩ := h.memoryPass ha memory
    exact .inl <| PipelineLatches.distance_lt empty hisSome (fun _ _ => rfl)
      (fun _ hidEx => absurd (latch.symm.trans hidEx) (by simp))
      (fun _ hidEx => absurd (latch.symm.trans hidEx) (by simp))
  | illegal _ memory => exact htrapped memory rfl rfl
  | @unfetched q w b x predictor i d s _ memory noBarrier execute decode blocked =>
    obtain ⟨-, -, hisSome, -⟩ := h.memoryPass ha memory
    refine .inl <| PipelineLatches.distance_lt empty hisSome (fun _ hidEx => execute.isSome.trans hidEx)
      (fun hexMem hidEx hifId => (decodes decode empty hexMem hidEx).1.trans hifId)
      (fun hexMem hidEx hifId => ?_)
    rw [(decodes decode empty hexMem hidEx).2, Bool.false_or, PipelineCore.fetchBlocked, hexMem] at blocked
    cases blocked
  | @fetched q w w' b b' x predictor d payload _ memory noBarrier execute decode =>
    obtain ⟨-, -, hisSome, -⟩ := h.memoryPass ha memory
    exact .inl <| PipelineLatches.distance_lt empty hisSome (fun _ hidEx => execute.isSome.trans hidEx)
      (fun hexMem hidEx hifId => (decodes decode empty hexMem hidEx).1.trans hifId)
      (fun _ _ _ => rfl)
  | @fetchStall q w w' b b' x predictor d _ memory noBarrier execute decode unblocked fetch =>
    obtain ⟨-, -, hisSome, -⟩ := h.memoryPass ha memory
    refine .inl <| PipelineLatches.distance_lt empty hisSome (fun _ hidEx => execute.isSome.trans hidEx)
      (fun hexMem hidEx hifId => (decodes decode empty hexMem hidEx).1.trans hifId)
      (fun hexMem hidEx hifId => ?_)
    obtain ⟨payload, hanswer⟩ := hempty hexMem hidEx hifId memory execute fetch
    cases hanswer
  | fetchTrap _ memory => exact htrapped memory rfl rfl

end InFlight

/-! ## Whole runs -/

namespace PlainRun

variable {run : PlainRun} {e : Nat} {trace : List PipelineEvent} {machine : Machine PipelineCore β}
  {tick : β → β}

omit [NeverBusy β] in
/-- If a step of the run retires in a cycle that commits nothing, EX has let it advance. -/
theorem Tracks.executed_lt {e' : Nat} (h : run.Tracks e trace machine) (quiet : QuietTick tick)
    (h' : run.Tracks e' (trace ++ machine.events tick) (machine.stepCycle tick)) (he : e < run.length)
    (hcompleted : machine.cpu.latches.completedCount = 0) (hretired : run.retired e < run.retired e') :
    machine.cpu.latches.executedCount < (machine.stepCycle tick).cpu.latches.executedCount := by
  have hlength := h.length_commits quiet (.inr he)
  have hbefore := (h.inFlight (.inr he)).retired_eq he
  have htotal := retired_le_total h'.within
  have live : run.Live (commits (trace ++ machine.events tick)).length e' := .inl (by omega)
  have hafter := (h'.inFlight live).retired_le
  omega

/-- The instructions of the run that are left lose no operand. -/
structure Completes (run : PlainRun) (e : Nat) (trace : List PipelineEvent)
    (machine : Machine PipelineCore β) : Prop where
  tracks : run.Tracks e trace machine
  forwards : run.Live (commits trace).length e → ForwardingInvariant machine.cpu

/-- How many instructions of the run a trace has committed, and how many of its traps it has entered. -/
noncomputable def done (run : PlainRun) (trace : List PipelineEvent) : Nat :=
  min (commits trace).length run.total + min (traps trace).length (run.entries run.length).length

/-- How far the pipeline has come in the run, in cycles. -/
noncomputable def progress (run : PlainRun) (trace : List PipelineEvent)
    (machine : Machine PipelineCore β) : Nat :=
  5 * run.done trace + (4 - machine.cpu.latches.distance)

omit [NeverBusy β] in
/-- The traps of the run that have been entered are those ahead of the front end. -/
theorem Tracks.done_eq (h : run.Tracks e trace machine) :
    run.done trace = min (commits trace).length run.total + (run.entries e).length := by
  unfold done
  by_cases he : e < run.length
  · have hle : (run.entries e).length ≤ (run.entries run.length).length := length_entries_mono h.within
    rw [h.entered_eq he]
    omega
  · have hend : e = run.length := Nat.le_antisymm h.within (Nat.le_of_not_lt he)
    have hle := h.entered.length_le
    rw [hend] at hle ⊢
    omega

omit [BusyMemory β] [NeverBusy β] in
/-- A trap that a cycle enters is one more in the trace. -/
theorem traps_lt {l : StepLocals β} (trace : List PipelineEvent)
    (hstep : machine.stepCycle tick =
      ⟨((machine.cpu.begun (tick machine.bus)).finishCycle l).2.1, l.bus⟩)
    (htrap : (l.trapResult.bind (·.trap)).isSome = true) :
    (traps trace).length < (traps (trace ++ machine.events tick)).length := by
  have hentered : (machine.stepCycle tick).cpu.entered = l.entered := by
    rw [hstep]
    rfl
  obtain ⟨trap, htrap⟩ := Option.isSome_iff_exists.1 htrap
  rw [PipelineEvent.traps_append, traps_events, hentered, StepLocals.entered, htrap, List.length_append]
  exact Nat.lt_succ_self _

omit [NeverBusy β] in
/-- A trap in front of the last steps of the run is one of the run, or a step retires as it is entered. -/
theorem Tracks.entries_lt {e' : Nat} {trace' : List PipelineEvent} {machine' : Machine PipelineCore β}
    (h : run.Tracks e trace machine) (h' : run.Tracks e' trace' machine') (he : e < run.length)
    (htraps : (traps trace).length < (traps trace').length) (hle : e ≤ e') :
    (run.entries e).length < (run.entries e').length ∨ run.retired e < run.retired e' := by
  have hstep := run.retired_add_entries e
  have hstep' := run.retired_add_entries e'
  have hlt : e < e' := by
    refine Nat.lt_of_le_of_ne hle fun heq => ?_
    subst heq
    rw [h.entered_eq he, h'.entered_eq he] at htraps
    exact Nat.lt_irrefl _ htraps
  omega

/-- No instruction of the run loses an operand, since MEM does not wait. -/
theorem Completes.not_losesOperand (h : run.Completes e trace machine) (quiet : QuietTick tick)
    (ha : run.Live ((commits trace).length + machine.cpu.latches.completedCount) e) :
    ¬ LosesOperand machine tick := by
  have inFlight := (h.tracks.inFlight (InFlight.live_of_completed ha)).begun quiet
  unfold LosesOperand
  dsimp only
  split
  · next hstall _ _ => exact fun _ => inFlight.not_stall ha _ hstall
  · exact id

/-- **Every cycle keeps the run going.** -/
theorem Completes.step (h : run.Completes e trace machine) (quiet : QuietTick tick) :
    ∃ e', run.Completes e' (trace ++ machine.events tick) (machine.stepCycle tick) := by
  obtain ⟨e', hle, h'⟩ := h.tracks.step quiet h.forwards
  refine ⟨e', h', fun live' => ?_⟩
  have live : run.Live (commits trace).length e := by
    refine live'.imp (fun hn => ?_) (Nat.lt_of_le_of_lt hle)
    rw [PipelineEvent.commits_append, List.length_append] at hn
    omega
  rw [h.tracks.length_commits quiet live] at live'
  exact forwardingInvariant_step (h.forwards live)
    (h.not_losesOperand quiet (live'.imp_right (Nat.lt_of_le_of_lt hle)))

/-- **Every cycle brings the pipeline closer to the end of the run.** -/
theorem Completes.progress_step (h : run.Completes e trace machine) (quiet : QuietTick tick) :
    min (5 * run.length) (progress run trace machine + 1) ≤
      progress run (trace ++ machine.events tick) (machine.stepCycle tick) := by
  unfold progress
  obtain ⟨e', hle, h'⟩ := h.tracks.step quiet h.forwards
  have hentries : (run.entries e).length ≤ (run.entries e').length := length_entries_mono hle
  have hsum := run.retired_add_entries run.length
  have hdistance := machine.cpu.latches.distance_le
  rw [h.tracks.done_eq, h'.done_eq]
  by_cases live : run.Live (commits trace).length e
  · rw [h.tracks.length_commits quiet live]
    have hcompleted_le := (h.tracks.inFlight live).completed_le live
    rcases hmemWb : machine.cpu.latches.memWb with _ | q
    · obtain ⟨l, cycle, hstep⟩ := Machine.running_cycle (h.tracks.inFlight live).running tick
      have inFlight := (h.tracks.inFlight live).begun quiet
      have unsignalled : (machine.cpu.begun (tick machine.bus)).state.Unsignalled :=
        unsignalled_begun (h.tracks.inFlight live).undisturbed (quiet machine.bus).2
      have hcompleted : machine.cpu.latches.completedCount = 0 := by
        rw [PipelineLatches.completedCount, hmemWb]
        rfl
      rcases inFlight.advances live unsignalled cycle hmemWb with hcloser | ⟨he, htrap⟩
      · rw [hstep, PipelineCore.finishCycle_latches]
        rw [PipelineCore.begun_latches] at hcloser
        omega
      · rcases h.tracks.entries_lt h' he (traps_lt trace hstep htrap) hle with hentered | hretired
        · omega
        · have hcloser := PipelineLatches.distance_lt_of_executed hmemWb
            (h.tracks.executed_lt quiet h' he hcompleted hretired)
          omega
    · have hcommit : machine.cpu.latches.distance = 0 := by
        rw [PipelineLatches.distance, hmemWb]
        rfl
      have hcompleted := PipelineLatches.completedCount_of_some hmemWb
      omega
  · have hend : e = run.length :=
      Nat.le_antisymm h.tracks.within (Nat.le_of_not_lt fun he => live (.inr he))
    have htotal : run.total ≤ (commits trace).length := Nat.le_of_not_lt fun hlt => live (.inl hlt)
    rw [PipelineEvent.commits_append, List.length_append]
    rw [hend] at hentries
    unfold total at htotal ⊢
    omega

end PlainRun

/-- **A pipeline in front of a memory that is never busy** follows the reference core in every run without
interrupts, and has committed one of its instructions or entered one of its traps for every five cycles, until
there are no more of them. -/
theorem pipeline_completes {reference : Reference} {length : Nat}
    (straight : reference.Straight length) {machine : Machine PipelineCore β}
    (starts : StartsAt reference machine) {ticks : List (β → β)}
    (quiet : ∀ tick ∈ ticks, QuietTick tick) :
    FollowsReference reference length (machine.trace ticks) (machine.runCycles ticks) ∧
      TrapsAsReference reference length (machine.trace ticks) (machine.runCycles ticks) ∧
      min length (ticks.length / 5) ≤
        min (commits (machine.trace ticks)).length (reference.retired length) +
          min (traps (machine.trace ticks)).length (reference.entries length).length := by
  obtain ⟨run, describes⟩ := straight.exists_run
  have hquiet : Automata.Along Machine.stepCycle (fun _ tick => QuietTick tick) machine ticks :=
    .of_forall_mem fun tick htick _ => quiet tick htick
  have hstart : ∃ e, run.Completes e [] machine :=
    ⟨0, .start starts describes, fun _ => starts.boot.forwardingInvariant⟩
  have hkeeps : ∀ trace (m : Machine PipelineCore β) tick, (∃ e, run.Completes e trace m) → QuietTick tick →
      ∃ e, run.Completes e (trace ++ m.events tick) (m.stepCycle tick) := by
    rintro trace m tick ⟨e, h⟩ htick
    exact h.step htick
  obtain ⟨e, h⟩ := hquiet.outputs_invariant (I := fun trace m => ∃ e, run.Completes e trace m) [] hstart
    hkeeps
  have hprogress : min (5 * run.length) (run.progress [] machine + ticks.length) ≤
      run.progress (machine.trace ticks) (machine.runCycles ticks) := by
    refine hquiet.outputs_progress (I := fun trace m => ∃ e, run.Completes e trace m) run.progress []
      hstart fun trace m tick hcompletes htick => ⟨hkeeps trace m tick hcompletes htick, ?_⟩
    obtain ⟨e, h⟩ := hcompletes
    exact h.progress_step htick
  have hlength := describes.length
  subst hlength
  refine ⟨h.tracks.follows describes straight, h.tracks.trapsAsReference describes, ?_⟩
  rw [describes.retired (Nat.le_refl _), describes.entries (Nat.le_refl _)]
  unfold PlainRun.progress PlainRun.done PlainRun.total at hprogress
  have hdistance := (machine.runCycles ticks).cpu.latches.distance_le
  omega

theorem pipeline_completes_storeLoadTrap :
    FollowsReference storeLoadTrapReference 11
        (Machine.trace { cpu := .new 0, bus := storeLoadTrap } (List.replicate 55 id))
        (Machine.runCycles { cpu := .new 0, bus := storeLoadTrap } (List.replicate 55 id)) ∧
      TrapsAsReference storeLoadTrapReference 11
        (Machine.trace { cpu := .new 0, bus := storeLoadTrap } (List.replicate 55 id))
        (Machine.runCycles { cpu := .new 0, bus := storeLoadTrap } (List.replicate 55 id)) ∧
      min 11 ((List.replicate 55 (id : FlatMemory → FlatMemory)).length / 5) ≤
        min (commits (Machine.trace { cpu := .new 0, bus := storeLoadTrap } (List.replicate 55 id))).length
            (storeLoadTrapReference.retired 11) +
          min (traps (Machine.trace { cpu := .new 0, bus := storeLoadTrap } (List.replicate 55 id))).length
            (storeLoadTrapReference.entries 11).length :=
  pipeline_completes storeLoadTrap_straight
    ⟨PipelineCore.boot_new 0, rfl, by decide, rfl, rfl, rfl, rfl, rfl, rfl⟩
    fun tick htick => quiet_replicate tick htick rfl

end RvSim
