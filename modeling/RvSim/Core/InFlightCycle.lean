import RvSim.Core.InFlight

/-!
# A cycle in the middle of a run

Every cycle keeps what the pipeline holds of a run: the latches ahead of EX move on with the run, and the
front end goes on to its next step, over a trap if EX or ID raises the exception of the one it is at.

## Main definitions

* `StepLocals.entered`, `PlainRun.Enters`: the trap that a cycle enters, and that of the run
* `InFlight.Later`: what a cycle leaves

## Main results

* `InFlight.trapped`: what a cycle that enters a trap of the run leaves
* `InFlight.cycle`: every cycle keeps what the pipeline holds, and enters the traps of the run
-/

namespace RvSim

/-! ## One cycle -/

/-- The trap that the cycle enters. -/
def StepLocals.entered {β : Type} (l : StepLocals β) : Option TrapEntry :=
  (l.trapResult.bind (·.trap)).map fun trap => ⟨trap, l.state.control, l.nextFrontEndPc⟩

theorem StepLocals.entered_of_untrapped {β : Type} {l : StepLocals β} (h : l.trapResult = none) :
    l.entered = none := by
  rw [entered, h]
  rfl

/-- The front end has gone from the step `e` to `e'`, and entered the trap of the run between them, if there
is one. At the end of the run it may enter others. -/
def PlainRun.Enters (run : PlainRun) (e e' : Nat) (entered : Option TrapEntry) : Prop :=
  run.entries e' = run.entries e ++ entered.toList ∨ run.length ≤ e' ∧ run.entries e' = run.entries e

namespace InFlight

variable {β : Type} [Bus β] [BusyMemory β] {run : PlainRun} {n e e' : Nat} {core : PipelineCore} {bus : β}
  {l : StepLocals β}

/-- What a cycle leaves besides the hart state, with `k` instructions of the run committed. -/
structure Later (run : PlainRun) (k e : Nat) (l : StepLocals β) : Prop where
  idle : l.pageWalker.active = none
  holds : BusyMemory.Holds (run.memory (k + l.next.completedCount)) l.bus
  memWb : ∀ q, l.next.memWb = some q → k < run.total → q = (run.item k).completed (run.back k).contents
  exMem : ∀ x, l.next.exMem = some x → k + l.next.completedCount < run.total →
    x = run.item (k + l.next.completedCount)
  within : e ≤ run.length
  retired_le : run.retired e ≤ k + l.next.executedCount
  retired_eq : e < run.length → run.retired e = k + l.next.executedCount
  control : e < run.length → l.state.control = (run.state e).control
  front : e < run.length → run.Front e l.next.idEx l.next.ifId l.nextFrontEndPc
  barrier : l.translationBarrier = true → run.length ≤ e

/-- The registers after a cycle are those of the run. -/
theorem registers_cycle (h : InFlight run n e core bus) (live : run.Live n e)
    (cycle : RunningCycle core bus l) : (core.finishCycle l).2.1.state.registers =
      (run.back (n + core.latches.completedCount)).registers := by
  rw [PipelineCore.finishCycle_registers, cycle.registers_eq]
  exact (h.written live).registers

theorem of_later (h : InFlight run n e core bus) (live : run.Live n e) (cycle : RunningCycle core bus l)
    (later : Later run (n + core.latches.completedCount) e' l) :
    InFlight run (n + core.latches.completedCount) e' (core.finishCycle l).2.1 l.bus := by
  have hw := h.written live
  have hwritten : (core.written bus).state.halted = false ∧ (core.written bus).state.Direct ∧
      (core.written bus).state.csrs.softwarePending = 0 := by
    refine ⟨?_, hw.direct h.direct, ?_⟩
    · rw [hw.state]
      exact h.running
    · rw [hw.state]
      exact h.undisturbed
  have hrunning : l.state.halted = false ∧ l.state.Direct ∧ l.state.csrs.softwarePending = 0 := by
    rcases cycle.state_eq with hstate | ⟨trap, pc, hstate⟩
    · rw [hstate]
      exact hwritten
    · rw [hstate]
      refine ⟨rfl, hwritten.2.1.applyTrap trap pc, ?_⟩
      rw [applyTrap_softwarePending]
      exact hwritten.2.2
  exact
    { running := hrunning.1
      direct := hrunning.2.1
      undisturbed := hrunning.2.2
      idle := later.idle
      registers := h.registers_cycle live cycle
      holds := later.holds
      memWb := later.memWb
      exMem := later.exMem
      within := later.within
      retired_le := later.retired_le
      retired_eq := later.retired_eq
      control := later.control
      front := later.front
      barrier := later.barrier }

variable {w : PageWalker} {b : β} {q : Option MemWbPayload}

/-- What a cycle leaves of the instructions ahead of ID/EX if MEM has let it go on. -/
theorem moved (h : InFlight run n e core bus) (ha : run.Live (n + core.latches.completedCount) e)
    (memory : MemoryPass (core.written bus) core.latches.exMem q w b) (hmemWb : l.next.memWb = q) :
    n + core.latches.completedCount + l.next.completedCount = n + core.latches.executedCount ∧
      n + core.latches.completedCount + l.next.executedCount =
        n + core.latches.executedCount + l.next.exMem.isSome.toNat := by
  obtain ⟨-, -, hisSome, -⟩ := h.memoryPass ha memory
  have hcompleted : l.next.completedCount = core.latches.exMem.isSome.toNat := by
    rw [PipelineLatches.completedCount, hmemWb, hisSome]
  unfold PipelineLatches.executedCount
  rw [hcompleted]
  constructor <;> omega

/-- What a cycle leaves if MEM, EX and ID let it go on. -/
theorem passed (h : InFlight run n e core bus) (ha : run.Live (n + core.latches.completedCount) e)
    (memory : MemoryPass (core.written bus) core.latches.exMem q w b) {x : Option ExMemPayload}
    {predictor : BimodalPredictor}
    (execute : ExecutePass core.latches (core.written bus) x predictor) {j : Nat}
    (resolved : Resolved run n e j core x)
    (hstate : j < run.length → l.state = (core.written bus).state)
    (hmemWb : l.next.memWb = q) (hexMem : l.next.exMem = x)
    (hbarrier : l.translationBarrier = false) (idle : l.pageWalker.active = none)
    (holds : BusyMemory.Holds (run.memory (n + core.latches.executedCount)) l.bus)
    (hfront : j < run.length → run.Front j l.next.idEx l.next.ifId l.nextFrontEndPc) :
    Later run (n + core.latches.completedCount) j l := by
  have hw := h.written (live_of_completed ha)
  obtain ⟨-, -, -, hq⟩ := h.memoryPass ha memory
  obtain ⟨hcompleted, hexecuted⟩ := h.moved ha memory hmemWb
  have hdecoded : n + core.latches.executedCount + l.next.exMem.isSome.toNat =
      n + core.latches.decodedCount := by
    rw [hexMem, execute.isSome, Nat.add_assoc]
    rfl
  rw [hdecoded] at hexecuted
  constructor
  · exact idle
  · rw [hcompleted]
    exact holds
  · rw [hmemWb]
    exact fun y hy _ => hq y hy
  · rw [hcompleted, hexMem]
    exact resolved.payload
  · exact resolved.within
  · rw [hexecuted]
    exact resolved.retired_le
  · rw [hexecuted]
    exact resolved.retired_eq
  · intro hj
    rw [hstate hj, hw.control]
    exact resolved.control hj
  · exact hfront
  · rw [hbarrier]
    exact fun hfalse => by cases hfalse

/-- What a cycle leaves if it drops the front end and goes on at the step `e'`. -/
theorem flushed (h : InFlight run n e core bus) (ha : run.Live (n + core.latches.completedCount) e)
    (memory : MemoryPass (core.written bus) core.latches.exMem q w b)
    (hwalker : l.pageWalker = w) (hbus : l.bus = b) (hmemWb : l.next.memWb = q)
    (hexMem : ∀ x, l.next.exMem = some x → n + core.latches.executedCount < run.total →
      x = run.item (n + core.latches.executedCount))
    (hifId : l.next.ifId = none) (hidEx : l.next.idEx = none) (within : e' ≤ run.length)
    (hretired_le : run.retired e' ≤ n + core.latches.executedCount + l.next.exMem.isSome.toNat)
    (hretired_eq : e' < run.length →
      run.retired e' = n + core.latches.executedCount + l.next.exMem.isSome.toNat)
    (hcontrol : e' < run.length → l.state.control = (run.state e').control)
    (hnext : e' < run.length → l.nextFrontEndPc = (run.state e').pc)
    (hbarrier : l.translationBarrier = true → run.length ≤ e') :
    Later run (n + core.latches.completedCount) e' l := by
  obtain ⟨hw, hholds, -, hq⟩ := h.memoryPass ha memory
  obtain ⟨hcompleted, hexecuted⟩ := h.moved ha memory hmemWb
  constructor
  · rw [hwalker, hw]
    exact h.idle
  · rw [hcompleted, hbus]
    exact hholds
  · rw [hmemWb]
    exact fun y hy _ => hq y hy
  · rw [hcompleted]
    exact hexMem
  · exact within
  · rw [hexecuted]
    exact hretired_le
  · rw [hexecuted]
    exact hretired_eq
  · exact hcontrol
  · rw [hifId, hidEx]
    exact fun hlt => ⟨(fun _ h => by cases h), (fun _ h => by cases h), hnext hlt⟩
  · exact hbarrier

/-- What a cycle leaves if it enters the trap of the step `i` that the run is at. -/
theorem trapped (h : InFlight run n e core bus) (ha : run.Live (n + core.latches.completedCount) e)
    (memory : MemoryPass (core.written bus) core.latches.exMem q w b) {i : Nat} (hi : i < run.length)
    (hretiring : run.retiring i = false) {trap : Trap} {pc : U32} (htrap : trap = run.trap i)
    (hpc : pc = (run.state i).pc) (hcontrol : core.state.control = (run.state i).control)
    (hretired : run.retired i = n + core.latches.executedCount + l.next.exMem.isSome.toNat)
    (hentries : run.entries i = run.entries e)
    (hstate : l.state = (applyTrap (core.written bus).state trap pc).1)
    (hresult : l.trapResult.bind (·.trap) = some trap) (hnext : l.nextFrontEndPc = l.state.pc)
    (hwalker : l.pageWalker = w) (hbus : l.bus = b) (hmemWb : l.next.memWb = q)
    (hexMem : ∀ x, l.next.exMem = some x → n + core.latches.executedCount < run.total →
      x = run.item (n + core.latches.executedCount))
    (hifId : l.next.ifId = none) (hidEx : l.next.idEx = none)
    (noBarrier : l.translationBarrier = false) :
    Later run (n + core.latches.completedCount) (i + 1) l ∧ run.Enters e (i + 1) l.entered := by
  have hw := h.written (live_of_completed ha)
  have hafter := (run.raises i hi hretiring).after
  have hlater : l.state.control = (run.state (i + 1)).control := by
    rw [hstate, control_applyTrap, hw.control, hafter, hcontrol, htrap, hpc]
    rfl
  have hvector : l.nextFrontEndPc = (run.state (i + 1)).pc := by
    rw [hnext, hstate, pc_applyTrap, hw.control, hafter, hcontrol, htrap, hpc]
    rfl
  have hsucc : run.retired (i + 1) = run.retired i := by
    rw [PlainRun.retired_succ, hretiring]
    rfl
  have hlength : i + 1 ≤ run.length := hi
  constructor
  · refine h.flushed ha memory hwalker hbus hmemWb hexMem hifId hidEx hlength ?_ ?_ (fun _ => hlater)
      (fun _ => hvector) (fun hbarrier => ?_)
    · rw [hsucc, hretired]
    · rw [hsucc, hretired]
      exact fun _ => rfl
    · cases noBarrier.symm.trans hbarrier
  · apply Or.inl
    rw [PlainRun.entries_succ, hretiring, hentries, StepLocals.entered, hresult, hlater, hvector, htrap]
    rfl

/-! ### EX and ID at the end of the run, or at its next step -/

omit [Bus β] [BusyMemory β] in
/-- A cycle that enters no trap. -/
theorem enters_of_untrapped {j : Nat} (hentries : run.entries j = run.entries e)
    (htrapless : l.trapResult = (core.written bus).trapResult) : run.Enters e j l.entered := by
  apply Or.inl
  rw [StepLocals.entered_of_untrapped (htrapless.trans (core.written_trapResult bus)), hentries]
  exact (List.append_nil _).symm

/-- If EX raises an exception in the middle of the run, the run raises it at its next step. -/
theorem raised (h : InFlight run n e core bus) (he : e < run.length) (inv : ForwardingInvariant core)
    (unsignalled : core.state.Unsignalled) (memory : MemoryPass (core.written bus) core.latches.exMem q w b)
    {p : IdExPayload} (latch : core.latches.idEx = some p) {t : Trap}
    (execute : core.latches.executeEvent (core.written bus).state p = .trap t) :
    run.retiring e = false ∧ t = run.trap e ∧ p.decoded.pc = (run.state e).pc := by
  have hretiring : run.retiring e = false := by
    cases hretiring : run.retiring e with
    | false => rfl
    | true =>
      obtain ⟨outcome, hexecute, -⟩ := h.executes he hretiring inv unsignalled memory latch
      cases execute.symm.trans hexecute
  exact ⟨hretiring,
    ExecuteEvent.trap.inj (execute.symm.trans (h.raises he hretiring inv unsignalled memory latch)),
    (decode_pc ((h.front he).decoded p latch).1).2⟩

/-- What a cycle leaves in which EX raises an exception. -/
theorem executeTrapped (h : InFlight run n e core bus) (ha : run.Live (n + core.latches.completedCount) e)
    (inv : ForwardingInvariant core) (unsignalled : core.state.Unsignalled)
    (memory : MemoryPass (core.written bus) core.latches.exMem q w b)
    (noBarrier : (core.written bus).translationBarrier = false) {p : IdExPayload}
    (latch : core.latches.idEx = some p) {t : Trap}
    (execute : core.latches.executeEvent (core.written bus).state p = .trap t)
    (hl : l = { core.written bus with
      pageWalker := w, bus := b, fetchStalled := core.fetchBlocked
      next := { memWb := q } }.takeTrap t p.decoded.pc) :
    ∃ e', e ≤ e' ∧ Later run (n + core.latches.completedCount) e' l ∧ run.Enters e e' l.entered := by
  subst hl
  by_cases he : e < run.length
  · obtain ⟨hretiring, htrap, hpc⟩ := h.raised he inv unsignalled memory latch execute
    exact ⟨e + 1, Nat.le_succ e, h.trapped ha memory he hretiring htrap hpc (h.control he)
      (h.retired_eq he) rfl rfl rfl rfl rfl rfl rfl (fun _ h => by cases h) rfl rfl noBarrier⟩
  · -- the instruction is behind the end of the run
    obtain rfl := Nat.le_antisymm h.within (Nat.le_of_not_lt he)
    refine ⟨run.length, Nat.le_refl _, ?_, .inr ⟨Nat.le_refl _, rfl⟩⟩
    exact h.flushed ha memory rfl rfl rfl (fun _ h => by cases h) rfl rfl (Nat.le_refl _) h.retired_le
      (fun hlt => absurd hlt he) (fun hlt => absurd hlt he) (fun hlt => absurd hlt he)
      (fun _ => Nat.le_refl _)

/-- If EX lets an instruction advance in the middle of the run, it is the one of the next step. -/
theorem advanced (h : InFlight run n e core bus) (he : e < run.length) (inv : ForwardingInvariant core)
    (unsignalled : core.state.Unsignalled) (memory : MemoryPass (core.written bus) core.latches.exMem q w b)
    {p : IdExPayload} (latch : core.latches.idEx = some p) {outcome : ExecuteOutcome}
    (execute : core.latches.executeEvent (core.written bus).state p = .advance outcome) :
    run.retiring e = true ∧ ExMemPayload.of p.decoded outcome = run.item (n + core.latches.executedCount) ∧
      outcome.nextPc = (run.state (e + 1)).pc ∧
      isTranslationBarrierPayload p.decoded outcome.csrWrite = false := by
  have hretiring : run.retiring e = true := by
    cases hretiring : run.retiring e with
    | true => rfl
    | false => cases execute.symm.trans (h.raises he hretiring inv unsignalled memory latch)
  obtain ⟨outcome', hexecute, hpayload⟩ := h.executes he hretiring inv unsignalled memory latch
  obtain rfl := ExecuteEvent.advance.inj (execute.symm.trans hexecute)
  have retires := run.retires e he hretiring
  have hwithin := retires
  rw [← hpayload] at hwithin
  have hcsr : outcome.csrWrite = none := hwithin.csrWrite_eq
  have hplain : p.decoded.kind.isPlain = true := hwithin.plain
  refine ⟨hretiring, ?_, ?_, ?_⟩
  · rw [← h.retired_eq he, PlainRun.item_retired hretiring]
    exact hpayload
  · rw [retires.after, ArchState.after, ← hpayload]
    rfl
  · rw [hcsr]
    exact InstructionKind.isPlain.unserialized hplain

/-- What a cycle leaves in which EX redirects the front end. -/
theorem redirected (h : InFlight run n e core bus) (ha : run.Live (n + core.latches.completedCount) e)
    (inv : ForwardingInvariant core) (unsignalled : core.state.Unsignalled)
    (memory : MemoryPass (core.written bus) core.latches.exMem q w b) {p : IdExPayload}
    (latch : core.latches.idEx = some p) {outcome : ExecuteOutcome}
    (execute : core.latches.executeEvent (core.written bus).state p = .advance outcome)
    (hl : l = { core.written bus with
      pageWalker := w, bus := b, fetchStalled := core.fetchBlocked
      predictor := StepLocals.trainedPredictor core.predictor p.decoded outcome
      flushed := true, nextFrontEndPc := outcome.nextPc
      translationBarrier := isTranslationBarrierPayload p.decoded outcome.csrWrite
      next := { exMem := some (.of p.decoded outcome), memWb := q } }) :
    ∃ e', e ≤ e' ∧ Later run (n + core.latches.completedCount) e' l ∧ run.Enters e e' l.entered := by
  subst hl
  by_cases he : e < run.length
  · obtain ⟨hretiring, hitem, hnext, hserial⟩ := h.advanced he inv unsignalled memory latch execute
    have hsucc : run.retired (e + 1) = n + core.latches.executedCount + 1 := by
      rw [PlainRun.retired_succ, hretiring, h.retired_eq he]
      rfl
    have hentries : run.entries (e + 1) = run.entries e := by
      rw [PlainRun.entries_succ, hretiring]
      exact List.append_nil _
    have hlength : e + 1 ≤ run.length := he
    refine ⟨e + 1, Nat.le_succ e, ?_, enters_of_untrapped hentries rfl⟩
    refine h.flushed ha memory rfl rfl rfl (fun x hx _ => ?_) rfl rfl hlength (Nat.le_of_eq hsucc)
      (fun _ => hsucc) (fun _ => ?_) (fun _ => hnext) fun hbarrier => ?_
    · exact (Option.some.inj hx).symm.trans hitem
    · rw [(run.retires e he hretiring).after]
      exact (h.written (live_of_completed ha)).control.trans (h.control he)
    · cases hserial.symm.trans hbarrier
  · have hretired_le := h.retired_le
    obtain rfl := Nat.le_antisymm h.within (Nat.le_of_not_lt he)
    refine ⟨run.length, Nat.le_refl _, ?_, enters_of_untrapped rfl rfl⟩
    exact h.flushed ha memory rfl rfl rfl (fun _ _ hlt => absurd hlt (Nat.not_lt.2 hretired_le)) rfl rfl
      (Nat.le_refl _) (Nat.le_trans hretired_le (Nat.le_add_right _ _)) (fun hlt => absurd hlt he)
      (fun hlt => absurd hlt he) (fun hlt => absurd hlt he) (fun _ => Nat.le_refl _)

omit [Bus β] [BusyMemory β] in
/-- If ID cannot decode a word in the middle of the run, the run raises the exception at this step. -/
theorem undecoded {j : Nat} (hj : j < run.length) {f : IfIdPayload} (hpc : f.pc = (run.state j).pc)
    (hraw : f.raw = (run.state j).word) {error : DecodeError}
    (hdecode : decode f.raw f.pc = .error error) :
    run.retiring j = false ∧ Trap.exception (.illegalInstruction f.raw) = run.trap j := by
  rw [hraw, hpc] at hdecode
  have hretiring : run.retiring j = false := by
    cases hretiring : run.retiring j with
    | false => rfl
    | true => cases hdecode.symm.trans (run.retires j hj hretiring).decoded
  refine ⟨hretiring, ?_⟩
  have hcauses := (run.raises j hj hretiring).causes
  rw [hraw]
  generalize run.trap j = trap at hcauses
  cases hcauses with
  | illegal => rfl
  | executes decodes => cases hdecode.symm.trans decodes

/-- What a cycle leaves in which ID cannot decode its word. -/
theorem illegalTrapped (h : InFlight run n e core bus) (ha : run.Live (n + core.latches.completedCount) e)
    (inv : ForwardingInvariant core) (unsignalled : core.state.Unsignalled)
    (memory : MemoryPass (core.written bus) core.latches.exMem q w b)
    (noBarrier : (core.written bus).translationBarrier = false) {x : Option ExMemPayload}
    {predictor : BimodalPredictor}
    (execute : ExecutePass core.latches (core.written bus) x predictor) {f : IfIdPayload}
    (latch : core.latches.ifId = some f) {error : DecodeError}
    (hdecode : decode f.raw f.pc = .error error)
    (hl : l = { core.written bus with
      pageWalker := w, bus := b, fetchStalled := core.fetchBlocked, predictor
      next := { exMem := x, memWb := q } }.takeTrap (.exception (.illegalInstruction f.raw)) f.pc) :
    ∃ e', e ≤ e' ∧ Later run (n + core.latches.completedCount) e' l ∧ run.Enters e e' l.entered := by
  subst hl
  obtain ⟨j, resolved⟩ := h.resolve inv unsignalled memory execute
  have hdecoded : core.latches.decodedCount = core.latches.executedCount + x.isSome.toNat := by
    rw [execute.isSome]
    rfl
  by_cases hj : j < run.length
  · have hf := resolved.fetched hj f latch
    obtain ⟨hretiring, htrap⟩ := undecoded hj hf.pc (hf.raw hj hf.pc) hdecode
    have hretired : run.retired j = n + core.latches.executedCount + x.isSome.toNat := by
      rw [resolved.retired_eq hj, hdecoded, Nat.add_assoc]
    exact ⟨j + 1, Nat.le_succ_of_le resolved.le, h.trapped ha memory hj hretiring htrap hf.pc
      (resolved.control hj) hretired resolved.entries rfl rfl rfl rfl rfl rfl resolved.payload rfl rfl
      noBarrier⟩
  · have hle : run.retired j ≤ n + core.latches.executedCount + x.isSome.toNat := by
      rw [Nat.add_assoc, ← hdecoded]
      exact resolved.retired_le
    refine ⟨j, resolved.le, ?_, .inr ⟨Nat.le_of_not_lt hj, resolved.entries⟩⟩
    exact h.flushed ha memory rfl rfl rfl resolved.payload rfl rfl resolved.within hle
      (fun hlt => absurd hlt hj) (fun hlt => absurd hlt hj) (fun hlt => absurd hlt hj)
      (fun _ => Nat.le_of_not_lt hj)

/-- **Every cycle in the middle of a run** keeps what the pipeline holds of it, and enters its traps. -/
theorem cycle (h : InFlight run n e core bus) (ha : run.Live (n + core.latches.completedCount) e)
    (inv : ForwardingInvariant core) (unsignalled : core.state.Unsignalled)
    (cycle : RunningCycle core bus l) :
    ∃ e', e ≤ e' ∧ Later run (n + core.latches.completedCount) e' l ∧ run.Enters e e' l.entered := by
  have hw := h.written (live_of_completed ha)
  have direct := hw.direct h.direct
  have noInterrupt := hw.noInterrupt unsignalled
  cases cycle with
  | interrupt taken =>
    rw [noInterrupt] at taken
    cases taken
  | memoryTrap _ latch access =>
    have haccessed := h.accessed ha latch
    rw [access] at haccessed
    cases haccessed
  | @memoryWait p w b _ latch access =>
    have haccessed := h.accessed ha latch
    rw [access] at haccessed
    cases haccessed with
    | stall _ busy holds =>
      have hexecuted : n + core.latches.completedCount + 1 = n + core.latches.executedCount := by
        rw [PipelineLatches.executedCount_of_some latch, Nat.add_assoc]
      refine ⟨e, Nat.le_refl e, ?_, enters_of_untrapped rfl rfl⟩
      constructor
      · exact h.idle
      · exact holds
      · exact fun _ h => by cases h
      · rintro x hx -
        exact (Option.some.inj hx).symm
      · exact h.within
      · show run.retired e ≤ n + core.latches.completedCount + 1
        rw [hexecuted]
        exact h.retired_le
      · show e < run.length → run.retired e = n + core.latches.completedCount + 1
        rw [hexecuted]
        exact h.retired_eq
      · exact fun he => hw.control.trans (h.control he)
      · intro he
        have hfront := h.front he
        rw [← core.written_nextFrontEndPc bus] at hfront
        exact hfront
      · exact fun hbarrier => h.barrier (hw.barrier.symm.trans hbarrier)
  | @barrierHold q w b _ memory barrier =>
    have hover := h.barrier (hw.barrier.symm.trans barrier)
    obtain ⟨hwalker, hholds, hisSome, hq⟩ := h.memoryPass ha memory
    have hexecuted : n + core.latches.completedCount + q.isSome.toNat = n + core.latches.executedCount := by
      rw [PipelineLatches.executedCount, hisSome, Nat.add_assoc]
    refine ⟨e, Nat.le_refl e, ?_, enters_of_untrapped rfl rfl⟩
    constructor
    · show w.active = none
      rw [hwalker]
      exact h.idle
    · show BusyMemory.Holds (run.memory (n + core.latches.completedCount + q.isSome.toNat)) b
      rw [hexecuted]
      exact hholds
    · exact fun y hy _ => hq y hy
    · exact fun _ h => by cases h
    · exact h.within
    · show run.retired e ≤ n + core.latches.completedCount + q.isSome.toNat
      rw [hexecuted]
      exact h.retired_le
    · exact fun he => absurd he (Nat.not_lt.2 hover)
    · exact fun he => absurd he (Nat.not_lt.2 hover)
    · exact fun he => absurd he (Nat.not_lt.2 hover)
    · exact fun _ => hover
  | executeTrap _ memory noBarrier latch execute =>
    exact h.executeTrapped ha inv unsignalled memory noBarrier latch execute rfl
  | redirect _ memory noBarrier latch execute flush =>
    exact h.redirected ha inv unsignalled memory latch execute rfl
  | illegal _ memory noBarrier execute latch hdecode =>
    exact h.illegalTrapped ha inv unsignalled memory noBarrier execute latch hdecode rfl
  | @unfetched q w b x predictor i d s _ memory noBarrier execute decode blocked =>
    obtain ⟨j, resolved⟩ := h.resolve inv unsignalled memory execute
    obtain ⟨hwalker, hholds, -, -⟩ := h.memoryPass ha memory
    have hidle : w.active = none := by
      rw [hwalker]
      exact h.idle
    refine ⟨j, resolved.le, ?_, enters_of_untrapped resolved.entries rfl⟩
    refine h.passed ha memory execute resolved (fun _ => rfl) rfl rfl noBarrier hidle hholds fun hj => ?_
    have hnext := resolved.next hj
    rw [← core.written_nextFrontEndPc bus] at hnext
    exact PlainRun.Front.decodePass hj (resolved.fetched hj) hnext decode
  | @fetched q w w' b b' x predictor d payload _ memory noBarrier execute decode unblocked fetch =>
    obtain ⟨j, resolved⟩ := h.resolve inv unsignalled memory execute
    obtain ⟨rfl, hholds, -, -⟩ := h.memoryPass ha memory
    obtain ⟨rfl, hholds'⟩ := direct.fetch_holds h.idle hholds fetch
    refine ⟨j, resolved.le, ?_, enters_of_untrapped resolved.entries rfl⟩
    refine h.passed ha memory execute resolved (fun _ => rfl) rfl rfl noBarrier h.idle hholds' fun hj => ?_
    have he : e < run.length := Nat.lt_of_le_of_lt resolved.le hj
    have hfront := PlainRun.Front.decodePass hj (resolved.fetched hj) (resolved.next hj) decode
    -- the memory that IF reads is the one before the step `e`
    rw [← h.retired_eq he, PlainRun.memory_retired h.within] at hholds
    have hword := direct.fetch h.idle hholds (hfront.accessible hj _) predictor
    rw [fetch] at hword
    cases hword with
    | done _ hpc hraw hpredicted =>
      have hahead : j + d.isSome.toNat ≤ e + 2 := by
        have hd := d.isSome.toNat_le
        have hnear := resolved.near
        omega
      exact hfront.fetch resolved.le hahead hpc hraw hpredicted
  | @fetchStall q w w' b b' x predictor d _ memory noBarrier execute decode unblocked fetch =>
    obtain ⟨j, resolved⟩ := h.resolve inv unsignalled memory execute
    obtain ⟨rfl, hholds, -, -⟩ := h.memoryPass ha memory
    obtain ⟨rfl, hholds'⟩ := direct.fetch_holds h.idle hholds fetch
    refine ⟨j, resolved.le, ?_, enters_of_untrapped resolved.entries rfl⟩
    refine h.passed ha memory execute resolved (fun _ => rfl) rfl rfl noBarrier h.idle hholds' fun hj => ?_
    have hnext := resolved.next hj
    rw [← core.written_nextFrontEndPc bus] at hnext
    exact PlainRun.Front.decodePass hj (resolved.fetched hj) hnext decode
  | @fetchTrap q w w' b b' x predictor d t _ memory noBarrier execute decode unblocked fetch =>
    obtain ⟨j, resolved⟩ := h.resolve inv unsignalled memory execute
    obtain ⟨rfl, hholds, -, -⟩ := h.memoryPass ha memory
    obtain ⟨rfl, hholds'⟩ := direct.fetch_holds h.idle hholds fetch
    -- the front end of a run is at a word it can fetch
    have hj : ¬ j < run.length := by
      intro hj
      have he : e < run.length := Nat.lt_of_le_of_lt resolved.le hj
      have hfront := PlainRun.Front.decodePass hj (resolved.fetched hj) (resolved.next hj) decode
      rw [← h.retired_eq he, PlainRun.memory_retired h.within] at hholds
      have hword := direct.fetch h.idle hholds (hfront.accessible hj _) predictor
      rw [fetch] at hword
      cases hword
    refine ⟨j, resolved.le, ?_, .inr ⟨Nat.le_of_not_lt hj, resolved.entries⟩⟩
    exact h.passed ha memory execute resolved (fun hlt => absurd hlt hj) rfl rfl noBarrier h.idle hholds'
      fun hlt => absurd hlt hj

end InFlight

end RvSim
