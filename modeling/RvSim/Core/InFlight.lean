import RvSim.Core.PlainRun

/-!
# The pipeline in the middle of a run

The latches of the pipeline hold a few instructions of a run behind the ones that have committed. Which
instruction of the run is in MEM/WB or EX/MEM follows from how many are in the latches ahead of it. The front
end stands at a step of the run: the one in ID/EX, or the next one to get there. It may be on a wrong path
behind it, and it goes on at the vector once EX or ID raises the exception of a step.

## Main definitions

* `PipelineLatches.completedCount`, `executedCount`, `decodedCount`: how many instructions are ahead of a latch
* `PlainRun.Front`: what the front end holds in front of a step of the run
* `InFlight`: what the pipeline holds after some instructions of the run have committed
* `InFlight.Resolved`: where the run goes on once EX has let its instruction advance

## Main results

* `InFlight.accessed`, `InFlight.executeEvent`: MEM and EX do what the run has them do
* `InFlight.resolve`: the front end is where the run goes on
-/

namespace RvSim

/-! ## Positions -/

namespace PipelineLatches

/-- How many instructions MEM has completed. -/
def completedCount (latches : PipelineLatches) : Nat := latches.memWb.isSome.toNat

/-- How many instructions EX has executed. -/
def executedCount (latches : PipelineLatches) : Nat :=
  latches.completedCount + latches.exMem.isSome.toNat

/-- How many instructions ID has decoded. -/
def decodedCount (latches : PipelineLatches) : Nat :=
  latches.executedCount + latches.idEx.isSome.toNat

theorem executedCount_of_some {latches : PipelineLatches} {x : ExMemPayload} (h : latches.exMem = some x) :
    latches.executedCount = latches.completedCount + 1 := by
  rw [executedCount, h]
  rfl

theorem completedCount_of_some {latches : PipelineLatches} {q : MemWbPayload} (h : latches.memWb = some q) :
    latches.completedCount = 1 := by
  rw [completedCount, h]
  rfl

end PipelineLatches

namespace PlainRun

variable (run : PlainRun)

/-- The retirement `k` or the step `e` is one of the run. -/
def Live (k e : Nat) : Prop := k < run.total ∨ e < run.length

/-- Where the front end goes on behind ID/EX, if the step `e` of the run is there or is the next one to get
there. -/
def expectedPc (e : Nat) (idEx : Option IdExPayload) : U32 :=
  (idEx.map (·.predictedPc)).getD (run.state e).pc

/-- The word in IF/ID has been fetched where the front end goes on. It is that of the step `j` of the run if
it is on the right path. -/
structure Fetched (j : Nat) (expectedPc : U32) (f : IfIdPayload) : Prop where
  pc : f.pc = expectedPc
  raw : j < run.length → f.pc = (run.state j).pc → f.raw = (run.state j).word
  predicted : ∃ predictor, f.predictedPc = (IfStage.predictFromRaw f.pc f.raw predictor).target

/-- What the front end holds if the step `e` of the run is in ID/EX or is the next one there. -/
structure Front (e : Nat) (idEx : Option IdExPayload) (ifId : Option IfIdPayload)
    (frontEndPc : U32) : Prop where
  decoded : ∀ p, idEx = some p →
    decode (run.state e).word (run.state e).pc = .ok p.decoded ∧ p.predictedPc ∈ p.decoded.predictions
  fetched : ∀ f, ifId = some f → run.Fetched (e + idEx.isSome.toNat) (run.expectedPc e idEx) f
  next : frontEndPc = (ifId.map (·.predictedPc)).getD (run.expectedPc e idEx)

end PlainRun

/-- What the pipeline holds after `n` instructions of the run have committed, with the front end at the step
`e`. -/
structure InFlight {β : Type} [Bus β] [BusyMemory β] (run : PlainRun) (n e : Nat) (core : PipelineCore)
    (bus : β) : Prop where
  running : core.state.halted = false
  direct : core.state.Direct
  undisturbed : core.state.csrs.softwarePending = 0
  idle : core.pageWalker.active = none
  registers : core.state.registers = (run.back n).registers
  holds : BusyMemory.Holds (run.memory (n + core.latches.completedCount)) bus
  memWb : ∀ q, core.latches.memWb = some q → n < run.total →
    q = (run.item n).completed (run.back n).contents
  exMem : ∀ x, core.latches.exMem = some x → n + core.latches.completedCount < run.total →
    x = run.item (n + core.latches.completedCount)
  within : e ≤ run.length
  retired_le : run.retired e ≤ n + core.latches.executedCount
  retired_eq : e < run.length → run.retired e = n + core.latches.executedCount
  control : e < run.length → core.state.control = (run.state e).control
  front : e < run.length → run.Front e core.latches.idEx core.latches.ifId core.frontEndPc
  barrier : core.translationBarrier = true → run.length ≤ e

/-! ## Interrupts -/

/-- No interrupt is pending. -/
def HartState.Unsignalled (state : HartState) : Prop :=
  state.csrs.machine.mip &&& managedInterruptMask = 0

theorem HartState.Unsignalled.pendingInterrupt {state : HartState} (h : state.Unsignalled)
    (privilege : PrivilegeMode) : state.csrs.pendingInterrupt privilege = none := by
  refine List.find?_eq_none.2 fun interrupt _ => ?_
  have hmask : managedInterruptMask &&& interruptPendingMask interrupt =
      interruptPendingMask interrupt := by
    cases interrupt <;> decide
  have hpending : state.csrs.interruptIsPending interrupt = false := by
    unfold CsrFile.interruptIsPending
    rw [← hmask, ← BitVec.and_assoc, h]
    simp
  simp [CsrFile.takesInterrupt, hpending]

/-- A trap raises nothing in software. -/
theorem applyTrap_softwarePending (state : HartState) (trap : Trap) (pc : U32) :
    (applyTrap state trap pc).1.csrs.softwarePending = state.csrs.softwarePending := by
  unfold applyTrap CsrFile.enterTrap
  by_cases hdelegate : state.csrs.delegatesTrapToSupervisor trap state.privilege = true
  · rw [if_pos hdelegate]
    rfl
  · rw [if_neg hdelegate]
    rfl

section Begin

variable {β : Type} [Bus β] {core : PipelineCore} {bus : β}

/-- Without software-pending bits and lines nothing is pending. -/
theorem unsignalled_begun (h : core.state.csrs.softwarePending = 0)
    (hlines : Bus.pendingInterrupts bus = .empty) : (core.begun bus).state.Unsignalled := by
  have hexternal : CsrFile.externalMask .empty = 0 := by decide
  have hsync : ∀ csrs : CsrFile, csrs.softwarePending = 0 →
      (csrs.syncInterrupts .empty).machine.mip &&& managedInterruptMask = 0 := by
    intro csrs hcsrs
    have hclear : ∀ mip mask other : U32,
        (mip &&& ~~~mask ||| 0 &&& other ||| 0 &&& mask) &&& mask = 0 := by
      intro mip mask other
      ext i hi
      simp
    simp only [CsrFile.syncInterrupts, CsrFile.refreshMip, hexternal, hcsrs]
    exact hclear _ _ _
  unfold HartState.Unsignalled PipelineCore.begun beginCycle
  rw [hlines]
  dsimp only
  split
  · exact hsync _ h
  · exact hsync _ h

end Begin

namespace InFlight

variable {β : Type} [Bus β] [BusyMemory β] {run : PlainRun} {n e : Nat} {core : PipelineCore} {bus : β}

/-! ## What is left of the run -/

/-- What is in MEM/WB is an instruction of the run. -/
theorem lt_total_of_memWb (h : InFlight run n e core bus) (live : run.Live n e) {q : MemWbPayload}
    (hq : core.latches.memWb = some q) : n < run.total := by
  rcases live with hn | he
  · exact hn
  · have hle := PlainRun.retired_le_total h.within
    rw [h.retired_eq he, PipelineLatches.executedCount, PipelineLatches.completedCount_of_some hq] at hle
    omega

/-- What is in EX/MEM is an instruction of the run. -/
theorem lt_total_of_exMem (h : InFlight run n e core bus)
    (live : run.Live (n + core.latches.completedCount) e) {x : ExMemPayload}
    (hx : core.latches.exMem = some x) : n + core.latches.completedCount < run.total := by
  rcases live with hn | he
  · exact hn
  · have hle := PlainRun.retired_le_total h.within
    rw [h.retired_eq he, PipelineLatches.executedCount_of_some hx] at hle
    omega

/-- An instruction that has left MEM leaves the run as live as it was. -/
theorem live_of_completed (live : run.Live (n + core.latches.completedCount) e) : run.Live n e :=
  live.imp_left fun h => Nat.lt_of_le_of_lt (Nat.le_add_right _ _) h

/-! ## Write-back -/

/-- The hart after write-back: the instruction in MEM/WB has been committed. -/
structure Written (run : PlainRun) (k : Nat) (core : PipelineCore) (bus : β) : Prop where
  state : (core.written bus).state = { core.state with
    registers := (core.written bus).state.registers, pc := (core.written bus).state.pc }
  registers : (core.written bus).state.registers = (run.back k).registers
  walker : (core.written bus).pageWalker = core.pageWalker
  barrier : (core.written bus).translationBarrier = core.translationBarrier

theorem written (h : InFlight run n e core bus) (live : run.Live n e) :
    Written run (n + core.latches.completedCount) core bus := by
  rcases hq : core.latches.memWb with _ | q
  · have hwritten : core.written bus = core.entry bus := by
      simp [PipelineCore.written, StepLocals.writeBackStage, hq]
    have hcompleted : core.latches.completedCount = 0 := by
      rw [PipelineLatches.completedCount, hq]
      rfl
    constructor
    · rw [hwritten]
      rfl
    · rw [hwritten, hcompleted]
      exact h.registers
    · rw [hwritten]
      rfl
    · rw [hwritten]
      rfl
  · have hn := h.lt_total_of_memWb live hq
    have retires := PlainRun.retires_item hn
    obtain rfl := h.memWb q hq hn
    have hwritten : core.written bus = { core.entry bus with
        state := { core.state with
          registers := (((run.item n).completed (run.back n).contents)).commit core.state.registers
          pc := (run.item n).nextPc }
        commit := some (WbStage.commitEvent ((run.item n).completed (run.back n).contents)
          (run.item n).nextPc)
        retiredInstructions := 1 } := by
      unfold PipelineCore.written StepLocals.writeBackStage
      rw [hq]
      dsimp only
      rw [WbStage.writeBack_plain _ _ retires.plain retires.csrWrite_eq retires.translationFence_eq,
        if_neg]
      · rfl
      · rw [show ((run.item n).completed (run.back n).contents).csrWrite = none from
          retires.csrWrite_eq]
        exact Bool.eq_false_iff.1 (InstructionKind.isPlain.unserialized retires.plain)
    constructor
    · rw [hwritten]
    · rw [hwritten, PipelineLatches.completedCount_of_some hq, (PlainRun.back_succ hn).1, ← h.registers]
    · rw [hwritten]
      rfl
    · rw [hwritten]
      rfl

/-! ## Interrupts and MEM -/

variable {w : PageWalker} {b : β} {q : Option MemWbPayload}

omit [Bus β] [BusyMemory β] in
theorem Written.direct {k : Nat} (hw : Written run k core bus) (h : core.state.Direct) :
    (core.written bus).state.Direct := by
  rw [hw.state]
  exact h

omit [Bus β] [BusyMemory β] in
theorem Written.control {k : Nat} (hw : Written run k core bus) :
    (core.written bus).state.control = core.state.control := by
  rw [hw.state]
  rfl

omit [BusyMemory β] in
theorem Written.noInterrupt {k : Nat} (hw : Written run k core bus)
    (unsignalled : core.state.Unsignalled) : (core.written bus).takenInterrupt = none := by
  have hpending : ∀ privilege, (core.written bus).state.csrs.pendingInterrupt privilege = none := by
    rw [hw.state]
    exact fun privilege => unsignalled.pendingInterrupt privilege
  unfold StepLocals.takenInterrupt
  split
  · exact hpending _
  · rfl

/-- The access MEM makes is that of the instruction of the run. -/
theorem accessed (h : InFlight run n e core bus) (ha : run.Live (n + core.latches.completedCount) e)
    {x : ExMemPayload} (hx : core.latches.exMem = some x) :
    Accessed (fun _ => BusyMemory.Holds) BusyMemory.Holds
      (run.item (n + core.latches.completedCount)) core.pageWalker
      (run.memory (n + core.latches.completedCount)) bus
      (MemStage.access bus (core.written bus).pageWalker (core.written bus).state.csrs
        (core.written bus).state.privilege x) := by
  have hw := h.written (live_of_completed ha)
  have hlt := h.lt_total_of_exMem ha hx
  rw [h.exMem x hx hlt, hw.walker]
  exact (hw.direct h.direct).access h.idle h.holds (PlainRun.retires_item hlt).accesses

/-- MEM lets the instruction of the run advance, and the memory is the one after it. -/
theorem memoryPass (h : InFlight run n e core bus) (ha : run.Live (n + core.latches.completedCount) e)
    (memory : MemoryPass (core.written bus) core.latches.exMem q w b) :
    w = core.pageWalker ∧ BusyMemory.Holds (run.memory (n + core.latches.executedCount)) b ∧
      q.isSome = core.latches.exMem.isSome ∧
      ∀ y, q = some y → y = (run.item (n + core.latches.completedCount)).completed
        (run.back (n + core.latches.completedCount)).contents := by
  have hw := h.written (live_of_completed ha)
  have haccessed := fun x hx => h.accessed (x := x) ha hx
  have hlt := fun x hx => h.lt_total_of_exMem (x := x) ha hx
  have hholds := h.holds
  unfold PipelineLatches.executedCount
  generalize hexMem : core.latches.exMem = exMem at memory haccessed hlt
  cases memory with
  | idle =>
    rw [core.written_bus]
    exact ⟨hw.walker, hholds, rfl, (fun _ h => by cases h)⟩
  | @advance x q w b access =>
    have haccessed := haccessed x rfl
    rw [core.written_bus] at access
    rw [access] at haccessed
    cases haccessed with
    | done holds =>
      refine ⟨rfl, ?_, rfl, fun y hy => (Option.some.inj hy).symm⟩
      show BusyMemory.Holds (run.memory (n + core.latches.completedCount + 1)) b
      unfold PlainRun.memory
      rw [(PlainRun.back_succ (hlt x rfl)).2]
      exact holds

/-! ## EX -/

/-- The registers of all older instructions are those of the run. -/
theorem olderRegisters (h : InFlight run n e core bus) (ha : run.Live (n + core.latches.completedCount) e)
    (unsignalled : core.state.Unsignalled)
    (memory : MemoryPass (core.written bus) core.latches.exMem q w b) :
    core.olderRegisters bus = (run.back (n + core.latches.executedCount)).registers := by
  have hw := h.written (live_of_completed ha)
  obtain ⟨-, -, hisSome, hq⟩ := h.memoryPass ha memory
  have hadvance := memory.memoryAdvance h.running (hw.noInterrupt unsignalled)
  unfold PipelineCore.olderRegisters PipelineLatches.executedCount
  rw [← hadvance, ← hisSome]
  rcases hy : q with _ | y
  · exact hw.registers
  · obtain rfl := hq y hy
    -- something is in EX/MEM, and it is an instruction of the run
    obtain ⟨x, hx⟩ := Option.isSome_iff_exists.1 (hisSome.symm.trans (by rw [hy]; rfl))
    have hlt := h.lt_total_of_exMem ha hx
    have retires := PlainRun.retires_item hlt
    dsimp only
    rw [WbStage.writeBack_plain _ _ retires.plain retires.csrWrite_eq retires.translationFence_eq,
      hw.registers]
    show _ = (run.back (n + core.latches.completedCount + 1)).registers
    rw [(PlainRun.back_succ hlt).1]

/-- **EX executes the instruction in ID/EX as its step of the run does.** -/
theorem executeEvent (h : InFlight run n e core bus) (he : e < run.length)
    (inv : ForwardingInvariant core) (unsignalled : core.state.Unsignalled)
    (memory : MemoryPass (core.written bus) core.latches.exMem q w b) {p : IdExPayload}
    (hp : core.latches.idEx = some p) :
    core.latches.executeEvent (core.written bus).state p =
      ExStage.execute p.decoded ((run.state e).registers.source p.decoded.rs1)
        ((run.state e).registers.source p.decoded.rs2) (core.written bus).state.privilege
        (core.written bus).state.csrs := by
  have ha : run.Live (n + core.latches.completedCount) e := .inr he
  have hw := h.written (live_of_completed ha)
  have hload : ∀ source, (p.decoded.rs1 = source ∨ p.decoded.rs2 = source) → ∀ x,
      core.latches.exMem = some x → ExStage.isLoad x.decoded = true →
      ∀ r, source = some r → r ≠ 0 → x.decoded.rd ≠ some r := by
    rintro source hsource x hx hload r rfl hr
    exact rd_ne_of_not_detectRawHazard (inv.loadUse x p hx hp hload) hr hsource
  have noInterrupt := hw.noInterrupt unsignalled
  have hrs1 := inv.operand ⟨q, w, b, memory⟩ h.running noInterrupt (inv.rs1 p hp) (hload _ (.inl rfl))
  have hrs2 := inv.operand ⟨q, w, b, memory⟩ h.running noInterrupt (inv.rs2 p hp) (hload _ (.inr rfl))
  rw [h.olderRegisters ha unsignalled memory, ← h.retired_eq he, ← (PlainRun.state_back h.within).1]
    at hrs1 hrs2
  unfold PipelineLatches.executeEvent
  rw [hrs1, hrs2]
  rfl

/-- EX lets the instruction of a step that retires advance. -/
theorem executes (h : InFlight run n e core bus) (he : e < run.length) (hretiring : run.retiring e = true)
    (inv : ForwardingInvariant core) (unsignalled : core.state.Unsignalled)
    (memory : MemoryPass (core.written bus) core.latches.exMem q w b) {p : IdExPayload}
    (hp : core.latches.idEx = some p) :
    ∃ outcome, core.latches.executeEvent (core.written bus).state p = .advance outcome ∧
      ExMemPayload.of p.decoded outcome = run.payload e := by
  have retires := run.retires e he hretiring
  have hdecoded := Except.ok.inj (((h.front he).decoded p hp).1.symm.trans retires.decoded)
  obtain ⟨outcome, hexecute, hpayload⟩ := retires.execute
    (core.written bus).state.privilege (core.written bus).state.csrs
  refine ⟨outcome, ?_, ?_⟩
  · rw [h.executeEvent he inv unsignalled memory hp, hdecoded]
    exact hexecute
  · rw [hdecoded]
    exact hpayload.symm

/-- EX raises the exception of a step that does not. -/
theorem raises (h : InFlight run n e core bus) (he : e < run.length) (hretiring : run.retiring e = false)
    (inv : ForwardingInvariant core) (unsignalled : core.state.Unsignalled)
    (memory : MemoryPass (core.written bus) core.latches.exMem q w b) {p : IdExPayload}
    (hp : core.latches.idEx = some p) :
    core.latches.executeEvent (core.written bus).state p = .trap (run.trap e) := by
  have hw := h.written (.inr he)
  have hdecoded := ((h.front he).decoded p hp).1
  have hcontrol : (core.written bus).state.control = (run.state e).control := hw.control.trans (h.control he)
  have hprivilege : (core.written bus).state.privilege = (run.state e).control.privilege :=
    congrArg Control.privilege hcontrol
  have hcsrs : (core.written bus).state.csrs.steady = (run.state e).control.csrs :=
    congrArg Control.csrs hcontrol
  rw [h.executeEvent he inv unsignalled memory hp, ExStage.execute_steady, hprivilege, hcsrs]
  have causes := (run.raises e he hretiring).causes
  generalize run.trap e = trap at causes ⊢
  cases causes with
  | illegal undecoded => cases hdecoded.symm.trans undecoded
  | executes decodes execute =>
    obtain rfl := Except.ok.inj (hdecoded.symm.trans decodes)
    exact execute

end InFlight

theorem ExecutePass.isSome {β : Type} {current : PipelineLatches} {l : StepLocals β}
    {x : Option ExMemPayload} {predictor : BimodalPredictor}
    (execute : ExecutePass current l x predictor) : x.isSome = current.idEx.isSome := by
  cases execute with
  | idle latch => rw [latch]; rfl
  | advance latch => rw [latch]; rfl

/-! ## The front end -/

namespace PlainRun

variable {run : PlainRun} {j : Nat}

/-- Wherever the front end goes on is aligned and mapped. -/
theorem Front.accessible {idEx : Option IdExPayload} {frontEndPc : U32} (hj : j < run.length)
    (h : run.Front j idEx none frontEndPc) (contents : ByteMemory) :
    (fetchRequest frontEndPc).Accessible ⟨run.mapped, contents⟩ := by
  rw [h.next]
  rcases idEx with _ | p
  · have hfetches := fetches hj
    exact ⟨hfetches.aligned, hfetches.maps⟩
  · obtain ⟨hdecoded, hpredicted⟩ := h.decoded p rfl
    exact run.predicted j hj _ hdecoded _ hpredicted contents

/-- What ID and the held word leave of the front end. -/
theorem Front.decodePass {latches : PipelineLatches} {frontEndPc : U32} {registers : RegisterFile}
    {ifId : Option IfIdPayload} {idEx : Option IdExPayload} {s : Bool} (hj : j < run.length)
    (hfetched : ∀ f, latches.ifId = some f → run.Fetched j (run.state j).pc f)
    (hnext : frontEndPc = (latches.ifId.map (·.predictedPc)).getD (run.state j).pc)
    (decode : DecodePass latches registers ifId idEx s) : run.Front j idEx ifId frontEndPc := by
  cases decode with
  | idle latch =>
    rw [latch] at hnext
    exact ⟨(fun _ h => by cases h), (fun _ h => by cases h), hnext⟩
  | @stall f d latch =>
    rw [latch] at hnext
    refine ⟨(fun _ h => by cases h), fun f' hf' => ?_, hnext⟩
    obtain rfl := Option.some.inj hf'
    exact hfetched f latch
  | @advance f d latch decoded =>
    have hf := hfetched f latch
    rw [latch] at hnext
    obtain ⟨predictor, hpredicted⟩ := hf.predicted
    rw [hf.raw hj hf.pc, hf.pc] at decoded
    refine ⟨fun p hp => ?_, (fun _ h => by cases h), hnext⟩
    obtain rfl := Option.some.inj hp
    refine ⟨decoded, ?_⟩
    show f.predictedPc ∈ _
    rw [hpredicted, hf.pc, hf.raw hj hf.pc]
    exact predictFromRaw_mem decoded predictor

/-- A fetched word goes on where the front end was. -/
theorem Front.fetch {idEx : Option IdExPayload} {frontEndPc : U32} {payload : IfIdPayload}
    {i : Nat} {predictor : BimodalPredictor} (hi : i ≤ j) (hahead : j + idEx.isSome.toNat ≤ i + 2)
    (h : run.Front j idEx none frontEndPc) (hpc : payload.pc = frontEndPc)
    (hraw : payload.raw = (run.state i).contents.fetched frontEndPc)
    (hpredicted : payload.predictedPc =
      (IfStage.predictFromRaw frontEndPc payload.raw predictor).target) :
    run.Front j idEx (some payload) payload.predictedPc := by
  refine ⟨h.decoded, fun f hf => ?_, rfl⟩
  obtain rfl := Option.some.inj hf
  refine ⟨hpc.trans h.next, fun hlt hpath => ?_, predictor, ?_⟩
  · rw [hraw, ← hpc, hpath]
    exact run.stable _ _ (by omega) hahead hlt
  · rw [hpc]
    exact hpredicted

end PlainRun

/-! ## Where the run goes on -/

namespace InFlight

variable {β : Type} [Bus β] [BusyMemory β] {run : PlainRun} {n e : Nat} {core : PipelineCore} {bus : β}
  {w : PageWalker} {b : β} {q : Option MemWbPayload}

/-- EX has let the instruction in ID/EX advance as `x`, if there is one, and the run goes on at the step
`j`. -/
structure Resolved (run : PlainRun) (n e j : Nat) (core : PipelineCore) (x : Option ExMemPayload) : Prop where
  le : e ≤ j
  near : j ≤ e + 1
  within : j ≤ run.length
  retired_le : run.retired j ≤ n + core.latches.decodedCount
  retired_eq : j < run.length → run.retired j = n + core.latches.decodedCount
  payload : ∀ y, x = some y → n + core.latches.executedCount < run.total →
    y = run.item (n + core.latches.executedCount)
  control : j < run.length → core.state.control = (run.state j).control
  fetched : j < run.length → ∀ f, core.latches.ifId = some f → run.Fetched j (run.state j).pc f
  next : j < run.length → core.frontEndPc = (core.latches.ifId.map (·.predictedPc)).getD (run.state j).pc
  entries : run.entries j = run.entries e

/-- **An instruction that goes where it was predicted to**: the front end is where the run goes on. -/
theorem resolve (h : InFlight run n e core bus) (inv : ForwardingInvariant core)
    (unsignalled : core.state.Unsignalled)
    (memory : MemoryPass (core.written bus) core.latches.exMem q w b) {x : Option ExMemPayload}
    {predictor : BimodalPredictor}
    (execute : ExecutePass core.latches (core.written bus) x predictor) :
    ∃ j, Resolved run n e j core x := by
  have hdecodedCount : core.latches.executedCount ≤ core.latches.decodedCount := Nat.le_add_right _ _
  by_cases he : e < run.length
  · have hfront := h.front he
    have hretired := h.retired_eq he
    cases execute with
    | idle latch =>
      -- nothing is in ID/EX
      have hdecoded : core.latches.decodedCount = core.latches.executedCount := by
        rw [PipelineLatches.decodedCount, latch]
        rfl
      rw [latch] at hfront
      exact ⟨e,
        { le := Nat.le_refl e
          near := Nat.le_succ e
          within := h.within
          retired_le := by omega
          retired_eq := fun _ => by omega
          payload := (fun _ h => by cases h)
          control := h.control
          fetched := fun _ f hf => hfront.fetched f hf
          next := fun _ => hfront.next
          entries := rfl }⟩
    | @advance p outcome latch execute _ predicted =>
      have hdecoded : core.latches.decodedCount = core.latches.executedCount + 1 := by
        rw [PipelineLatches.decodedCount, latch]
        rfl
      have hretiring : run.retiring e = true := by
        cases hretiring : run.retiring e with
        | true => rfl
        | false =>
          -- EX would raise the exception of the step
          have htrap := h.raises he hretiring inv unsignalled memory latch
          cases execute.symm.trans htrap
      obtain ⟨outcome', hexecute, hpayload⟩ := h.executes he hretiring inv unsignalled memory latch
      obtain rfl := ExecuteEvent.advance.inj (execute.symm.trans hexecute)
      have hafter := (run.retires e he hretiring).after
      have hsucc : run.retired (e + 1) = run.retired e + 1 := by
        rw [PlainRun.retired_succ, hretiring]
        rfl
      have hexpected : run.expectedPc e (some p) = (run.state (e + 1)).pc := by
        rw [hafter, ArchState.after, ← hpayload]
        exact predicted
      rw [latch] at hfront
      have hfetched := hfront.fetched
      have hnext := hfront.next
      rw [hexpected] at hfetched hnext
      refine ⟨e + 1,
        { le := Nat.le_succ e
          near := Nat.le_refl _
          within := he
          retired_le := by omega
          retired_eq := fun _ => by omega
          payload := fun y hy _ => ?_
          control := fun _ => ?_
          fetched := fun _ f hf => hfetched f hf
          next := fun _ => hnext
          entries := ?_ }⟩
      · rw [← hretired, PlainRun.item_retired hretiring, ← hpayload]
        exact (Option.some.inj hy).symm
      · rw [hafter]
        exact h.control he
      · rw [PlainRun.entries_succ, hretiring]
        exact List.append_nil _
  · have hend : e = run.length := Nat.le_antisymm h.within (Nat.le_of_not_lt he)
    have hle := h.retired_le
    subst hend
    refine ⟨run.length,
      { le := Nat.le_refl _
        near := Nat.le_succ _
        within := Nat.le_refl _
        retired_le := by omega
        retired_eq := fun hlt => absurd hlt he
        payload := fun y _ hlt => absurd hlt ?_
        control := fun hlt => absurd hlt he
        fetched := fun hlt => absurd hlt he
        next := fun hlt => absurd hlt he
        entries := rfl }⟩
    exact Nat.not_lt.2 hle

end InFlight

end RvSim
