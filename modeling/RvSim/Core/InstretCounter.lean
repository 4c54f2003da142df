import RvSim.Core.Serialization
import RvSim.System.TestBus

/-!
# Reading the retired-instruction counter

The counter is read in EX, and is counted up at the end of the cycle in which an instruction
retires. An instruction that EX/MEM or MEM/WB holds while EX reads the counter is older than the
reader and not yet counted; only CSR instructions wait for what is ahead of them.

## Main definitions

* `instretAfter`: the counter after a list of retired instructions
* `ReadsInstret`: a retired CSR instruction returned the counter of the instructions before it
* `MissesInFlight`: the cycle in which EX reads a counter that misses instructions in flight

## Main results

* `instretInvariant_step`: the counter of the core and the values on their way to write-back
* `ReferenceCore.executeStep_counts`: what the reference core counts and returns
* `readsInstret_run`: all reads of a run are right if none misses an instruction in flight
-/

namespace RvSim

/-! ## The counter -/

/-- How a CSR of the counter's family shows the counter. -/
def instretView : CsrAddress → Option (U64 → U32)
  | .instret | .minstret => some lowHalf
  | .instreth | .minstreth => some highHalf
  | _ => none

/-- The counter after the CSR write of an instruction. -/
def instretWrite (write : Option CsrWrite) (counter : U64) : U64 :=
  match write with
  | some ⟨.instret, value⟩ | some ⟨.minstret, value⟩ => writeLowHalf counter value
  | some ⟨.instreth, value⟩ | some ⟨.minstreth, value⟩ => writeHighHalf counter value
  | _ => counter

/-- The counter after instructions with these CSR writes have retired in this order. -/
def instretAfter (counter : U64) (writes : List (Option CsrWrite)) : U64 :=
  writes.foldl (fun counter write => instretWrite write counter + 1) counter

@[simp] theorem instretAfter_nil (counter : U64) : instretAfter counter [] = counter := rfl

theorem instretAfter_append (counter : U64) (writes later : List (Option CsrWrite)) :
    instretAfter counter (writes ++ later) = instretAfter (instretAfter counter writes) later :=
  List.foldl_append

@[simp] theorem instretAfter_singleton (counter : U64) (write : Option CsrWrite) :
    instretAfter counter [write] = instretWrite write counter + 1 := rfl

/-- Instructions without a CSR write are counted one by one. -/
theorem instretAfter_of_none (counter : U64) {writes : List (Option CsrWrite)}
    (h : ∀ write ∈ writes, write = none) :
    instretAfter counter writes = counter + BitVec.ofNat 64 writes.length := by
  induction writes generalizing counter with
  | nil => simp
  | cons write writes ih =>
    have hwrite : write = none := h write List.mem_cons_self
    have hlater := ih (counter + 1) fun w hw => h w (List.mem_cons_of_mem _ hw)
    rw [hwrite, instretAfter, List.foldl_cons]
    refine hlater.trans ?_
    rw [List.length_cons, BitVec.ofNat_add, add_assoc, add_comm (BitVec.ofNat 64 writes.length)]
    rfl

namespace CsrFile

theorem read_instret {address : CsrAddress} {view : U64 → U32}
    (h : instretView address = some view) (csrs : CsrFile) :
    csrs.read address = view csrs.machine.minstret := by
  cases address <;> first | (cases h; done) | (cases h; rfl)

theorem write_minstret (csrs : CsrFile) (write : CsrWrite) :
    (csrs.write write.address write.value).machine.minstret =
      instretWrite (some write) csrs.machine.minstret := by
  obtain ⟨address, value⟩ := write
  cases address <;> rfl

end CsrFile

theorem applyTrap_minstret (state : HartState) (trap : Trap) (pc : U32) :
    (applyTrap state trap pc).1.csrs.machine.minstret = state.csrs.machine.minstret := by
  simp only [applyTrap, CsrFile.enterTrap]
  split <;> rfl

theorem returnFromTrap_minstret (state : HartState) (kind : SystemKind) :
    (returnFromTrap state kind).1.csrs.machine.minstret = state.csrs.machine.minstret := by
  cases kind <;> rfl

/-- Write-back makes the CSR write of its payload; only CSR instructions have one. -/
theorem WbStage.writeBack_minstret (state : HartState) (walker : PageWalker) {q : MemWbPayload}
    (hwrite : q.decoded.kind.isCsr = false → q.csrWrite = none) :
    (WbStage.writeBack state walker q).2.1.csrs.machine.minstret =
      instretWrite q.csrWrite state.csrs.machine.minstret := by
  unfold WbStage.writeBack
  split
  · next hk => rw [hwrite (by rw [hk]; rfl)]; exact returnFromTrap_minstret state .mret
  · next hk => rw [hwrite (by rw [hk]; rfl)]; exact returnFromTrap_minstret state .sret
  · rcases q.csrWrite with _ | write
    · rfl
    · exact CsrFile.write_minstret _ write

/-! ## The reads of a run -/

/-- The view of the counter that an instruction returns, if it is a CSR instruction that does. -/
def DecodedInstruction.readsInstret (decoded : DecodedInstruction) : Option (U64 → U32) :=
  if decoded.kind.isCsr then decoded.csr.bind instretView else none

/-- The payload's value is the counter's, if its instruction returns the counter. -/
def ShowsCounter (decoded : DecodedInstruction) (value : Option U32) (counter : U64) : Prop :=
  ∀ view, decoded.readsInstret = some view → value = some (view counter)

/-- Every instruction of `trace` that returns the counter, which starts at `counter`, returns the
count of the instructions retired before it, on from the last value one of them wrote. -/
def ReadsInstret (counter : U64) (trace : List MemWbPayload) : Prop :=
  ∀ older q newer, trace = older ++ q :: newer →
    ShowsCounter q.decoded q.writebackValue (instretAfter counter (older.map (·.csrWrite)))

theorem ReadsInstret.snoc {counter : U64} {trace : List MemWbPayload} {q : MemWbPayload}
    (h : ReadsInstret counter trace)
    (hq : ShowsCounter q.decoded q.writebackValue
      (instretAfter counter (trace.map (·.csrWrite)))) :
    ReadsInstret counter (trace ++ [q]) := by
  intro older q' newer hsplit
  rcases List.eq_nil_or_concat newer with rfl | ⟨newer', last, rfl⟩
  · obtain ⟨rfl, hlast⟩ := List.append_inj' hsplit rfl
    obtain rfl := List.singleton_inj.mp hlast
    exact hq
  · refine h older q' newer' ?_
    rw [List.concat_eq_append, ← List.cons_append, ← List.append_assoc] at hsplit
    exact (List.append_inj' hsplit rfl).1

variable {β : Type} [Bus β]

/-- The instruction that retires in a cycle. -/
def retirement (machine : Machine PipelineCore β) (_tick : β → β) : List MemWbPayload :=
  if machine.cpu.state.halted then [] else machine.cpu.latches.memWb.toList

/-- The instructions that retire in a run. -/
def retirementTrace (machine : Machine PipelineCore β) (ticks : List (β → β)) :
    List MemWbPayload :=
  Automata.outputs Machine.stepCycle retirement machine ticks

/-- How many instructions are between EX and the end of the pipeline. -/
def PipelineLatches.inFlight (latches : PipelineLatches) : Nat :=
  latches.exMem.toList.length + latches.memWb.toList.length

/-- EX lets a CSR instruction return a counter that the instructions in flight would change. -/
def MissesInFlight (machine : Machine PipelineCore β) (tick : β → β) : Prop :=
  let bus := tick machine.bus
  let core := machine.cpu.begun bus
  match core.executeCall bus with
  | none => False
  | some (p, rs1Value, rs2Value) =>
    match p.decoded.readsInstret, ExStage.execute p.decoded rs1Value rs2Value
      (core.written bus).state.privilege (core.written bus).state.csrs with
    | some view, .advance _ =>
      view (core.state.csrs.machine.minstret + BitVec.ofNat 64 core.latches.inFlight) ≠
        view core.state.csrs.machine.minstret
    | _, _ => False

instance (machine : Machine PipelineCore β) (tick : β → β) :
    Decidable (MissesInFlight machine tick) := by
  unfold MissesInFlight
  dsimp only
  split
  · exact inferInstance
  · split
    · exact inferInstance
    · exact inferInstance

/-! ## The invariant -/

/-- The counter of the core and the values on their way to write-back, after `past` has retired. -/
structure InstretInvariant (counter : U64) (past : List MemWbPayload) (core : PipelineCore) :
    Prop where
  counts : core.state.csrs.machine.minstret = instretAfter counter (past.map (·.csrWrite))
  reads : ReadsInstret counter past
  memWb : ∀ q, core.latches.memWb = some q →
    ShowsCounter q.decoded q.writebackValue (instretAfter counter (past.map (·.csrWrite)))
  exMem : ∀ p, core.latches.exMem = some p →
    ShowsCounter p.decoded p.writebackValue
      (instretAfter counter ((past ++ core.latches.memWb.toList).map (·.csrWrite)))
  serialized : Serialized core

/-- An instruction that returns the counter passes through MEM unchanged. -/
theorem not_memory_of_readsInstret {decoded : DecodedInstruction} {view : U64 → U32}
    (h : decoded.readsInstret = some view) :
    decoded.kind.isCsr = true ∧ ExStage.usesMemory decoded = false ∧
      ExStage.isLoad decoded = false := by
  unfold DecodedInstruction.readsInstret at h
  split at h
  · next hcsr =>
    refine ⟨hcsr, ?_⟩
    unfold InstructionKind.isCsr at hcsr
    split at hcsr
    · next hk => simp [ExStage.usesMemory, ExStage.isLoad, hk]
    · cases hcsr
  · cases h

/-- What EX makes of an instruction that returns the counter. -/
theorem showsCounter_of_execute {decoded : DecodedInstruction} {rs1Value rs2Value : U32}
    {privilege : PrivilegeMode} {csrs : CsrFile} {outcome : ExecuteOutcome}
    (h : ExStage.execute decoded rs1Value rs2Value privilege csrs = .advance outcome) :
    ShowsCounter decoded outcome.writebackValue csrs.machine.minstret := by
  intro view hview
  have hview' := hview
  unfold DecodedInstruction.readsInstret at hview
  split at hview
  · next hcsr =>
    unfold InstructionKind.isCsr at hcsr
    split at hcsr
    · next op hk =>
      obtain ⟨address, result, haddress, hresult, rfl⟩ := ExStage.execute_csr hk h
      rw [haddress, Option.bind_some] at hview
      simp only [csrExecute, hk, haddress, Option.some.injEq] at hresult
      subst hresult
      exact congrArg some (CsrFile.read_instret hview csrs)
    · cases hcsr
  · cases hview

/-! ## One cycle -/

section Step

variable {core : PipelineCore} {bus : β} {l : StepLocals β} {counter : U64}
  {past : List MemWbPayload}

theorem begun_minstret : (core.begun bus).state.csrs.machine.minstret =
    core.state.csrs.machine.minstret := by
  simp only [PipelineCore.begun, beginCycle]
  split <;> rfl

omit [Bus β] in
/-- Write-back makes the CSR write of the retiring instruction. -/
theorem InstretInvariant.written_minstret (inv : InstretInvariant counter past core) :
    (core.written bus).state.csrs.machine.minstret =
      match core.latches.memWb with
      | none => core.state.csrs.machine.minstret
      | some q => instretWrite q.csrWrite core.state.csrs.machine.minstret := by
  rw [core.written_state]
  rcases hlatch : core.latches.memWb with _ | q
  · rfl
  · exact WbStage.writeBack_minstret _ _ (inv.serialized.memWbWrite q hlatch)

/-- A running cycle counts the retiring instruction after its CSR write. -/
theorem InstretInvariant.finish_counts (inv : InstretInvariant counter past core)
    (cycle : RunningCycle core bus l) :
    (core.finishCycle l).2.1.state.csrs.machine.minstret =
      instretAfter counter ((past ++ core.latches.memWb.toList).map (·.csrWrite)) := by
  have hstate : l.state.csrs.machine.minstret =
      (core.written bus).state.csrs.machine.minstret := by
    rcases cycle.state_eq with h | ⟨t, pc, h⟩
    · rw [h]
    · rw [h, applyTrap_minstret]
  have hfinish : (core.finishCycle l).2.1.state.csrs.machine.minstret =
      l.state.csrs.machine.minstret + (core.finishCycle l).2.1.lastResult.retired := rfl
  rw [hfinish, cycle.lastResult_retired, hstate, inv.written_minstret]
  rcases core.latches.memWb with _ | q
  · simp [inv.counts]
  · simp [inv.counts, instretAfter_append]

/-- Without a missed instruction, the counter EX reads is the one at the reader's turn. -/
theorem InstretInvariant.executed (inv : InstretInvariant counter past core)
    (running : core.state.halted = false) (cycle : RunningCycle core bus l)
    {p : IdExPayload} {rs1Value rs2Value : U32} {outcome : ExecuteOutcome}
    (hcall : core.executeCall bus = some (p, rs1Value, rs2Value))
    (hexecute : ExStage.execute p.decoded rs1Value rs2Value (core.written bus).state.privilege
      (core.written bus).state.csrs = .advance outcome)
    (hview : ∀ view, p.decoded.readsInstret = some view →
      view (core.state.csrs.machine.minstret + BitVec.ofNat 64 core.latches.inFlight) =
        view core.state.csrs.machine.minstret) :
    ShowsCounter p.decoded outcome.writebackValue
      (instretAfter counter
        ((past ++ core.latches.memWb.toList ++ l.next.memWb.toList).map (·.csrWrite))) := by
  intro view hreads
  obtain ⟨-, noInterrupt, ⟨q, w, b, memory⟩, -, hlatch, -, -⟩ :=
    PipelineCore.executeCall_eq_some_iff.mp hcall
  obtain ⟨hexMem, hmemWb⟩ := inv.serialized.idEx p hlatch
    (by simp [requiresCsrSerialization, (not_memory_of_readsInstret hreads).1])
  have hpassed : l.next.memWb = q :=
    (cycle.memWb_eq running).trans (memory.memoryAdvance running noInterrupt).symm
  have hwritten : (core.written bus).state.csrs.machine.minstret =
      core.state.csrs.machine.minstret := by
    rw [inv.written_minstret]
    rcases hm : core.latches.memWb with _ | m
    · rfl
    · simp [inv.serialized.memWbWrite m hm (hmemWb m hm), instretWrite]
  -- neither instruction ahead of the reader writes a CSR
  have hnone : ∀ write ∈ (core.latches.memWb.toList ++ q.toList).map (·.csrWrite),
      write = none := by
    intro write hwrite
    simp only [List.map_append, List.mem_append, List.mem_map, Option.mem_toList] at hwrite
    rcases hwrite with ⟨m, hm, rfl⟩ | ⟨m, hm, rfl⟩
    · exact inv.serialized.memWbWrite m hm (hmemWb m hm)
    · generalize hx : core.latches.exMem = x at memory
      cases memory with
      | idle => cases hm
      | advance access =>
        obtain rfl := Option.some.inj hm
        rw [(MemStage.access_advance access).1]
        exact inv.serialized.exMemWrite _ hx (hexMem _ hx)
  have hlength : (core.latches.memWb.toList ++ q.toList).length = core.latches.inFlight := by
    rw [List.length_append, PipelineLatches.inFlight, add_comm]
    congr 1
    generalize core.latches.exMem = x at memory
    cases memory <;> rfl
  rw [showsCounter_of_execute hexecute view hreads, hwritten, hpassed, List.append_assoc,
    List.map_append, instretAfter_append, ← inv.counts, instretAfter_of_none _ hnone,
    List.length_map, hlength, hview view hreads]

/-- A running cycle keeps the invariant, unless EX reads a counter that misses an instruction. -/
theorem InstretInvariant.running (inv : InstretInvariant counter past core)
    (running : core.state.halted = false) (cycle : RunningCycle core bus l)
    (hview : ∀ p rs1Value rs2Value outcome view,
      core.executeCall bus = some (p, rs1Value, rs2Value) →
      ExStage.execute p.decoded rs1Value rs2Value (core.written bus).state.privilege
        (core.written bus).state.csrs = .advance outcome →
      p.decoded.readsInstret = some view →
      view (core.state.csrs.machine.minstret + BitVec.ofNat 64 core.latches.inFlight) =
        view core.state.csrs.machine.minstret) :
    InstretInvariant counter (past ++ core.latches.memWb.toList) (core.finishCycle l).2.1 where
  counts := inv.finish_counts cycle
  reads := by
    rcases hm : core.latches.memWb with _ | m
    · simpa using inv.reads
    · exact inv.reads.snoc (inv.memWb m hm)
  memWb q hq := by
    obtain ⟨p, w, b, hp, haccess⟩ := PipelineCore.memoryAdvance_eq_some
      ((cycle.memWb_eq running).symm.trans hq)
    obtain ⟨hq', hvalue⟩ := MemStage.access_advance haccess
    intro view hreads
    have hdecoded : q.decoded = p.decoded := by rw [hq']; rfl
    rw [hdecoded] at hreads
    obtain ⟨-, hmemory, hload⟩ := not_memory_of_readsInstret hreads
    rw [hvalue hload, hmemory, if_neg Bool.false_ne_true]
    exact inv.exMem p hp view hreads
  exMem p hp := by
    rcases cycle.exMem_cases running with ⟨_, -, hw⟩ | hx | ⟨p', _, _, outcome, hcall, hexec, hx⟩
    · have hnone : (core.finishCycle l).2.1.latches.memWb.toList = [] := by simp [hw]
      rw [hnone, List.append_nil]
      exact inv.exMem p (by simpa [hw] using hp)
    · exact absurd (hx.symm.trans hp) (by simp)
    · obtain rfl := Option.some.inj (hx.symm.trans hp)
      exact inv.executed running cycle hcall hexec fun view => hview _ _ _ _ view hcall hexec
  serialized := inv.serialized.running running cycle

end Step

variable {machine : Machine PipelineCore β} {tick : β → β} {counter : U64}
  {past : List MemWbPayload}

theorem InstretInvariant.begun {core : PipelineCore} (inv : InstretInvariant counter past core)
    (bus : β) : InstretInvariant counter past (core.begun bus) :=
  ⟨begun_minstret.trans inv.counts, inv.reads, inv.memWb, inv.exMem, inv.serialized.begun bus⟩

/-- **Every cycle keeps the invariant**, unless EX reads a counter that misses an instruction. -/
theorem instretInvariant_step (inv : InstretInvariant counter past machine.cpu)
    (h : ¬ MissesInFlight machine tick) :
    InstretInvariant counter (past ++ retirement machine tick) (machine.stepCycle tick).cpu := by
  have cycle := machine.stepCycle_cases tick
  have inv' := inv.begun (tick machine.bus)
  generalize machine.stepCycle tick = machine' at cycle ⊢
  obtain ⟨core', bus'⟩ := machine'
  cases cycle with
  | wake halted =>
    have hnone : retirement machine tick = [] := if_pos halted
    rw [hnone, List.append_nil]
    refine ⟨(applyTrap_minstret ..).trans inv'.counts, inv.reads, ?_, ?_, .of_latches rfl⟩
    all_goals simp
  | wait halted =>
    have hnone : retirement machine tick = [] := if_pos halted
    rw [hnone, List.append_nil]
    exact ⟨inv'.counts, inv.reads, inv.memWb, inv.exMem, inv'.serialized.congr rfl⟩
  | running running cycle =>
    have hretired : retirement machine tick = machine.cpu.latches.memWb.toList :=
      if_neg (by simpa using running)
    rw [hretired]
    refine inv'.running running cycle fun p rs1Value rs2Value outcome view hcall hexec hview => ?_
    by_contra hne
    refine h ?_
    simp only [MissesInFlight, hcall, hexec, hview]
    exact hne

/-! ## The reference core

The reference core retires an instruction before it fetches the next one, so the counter it reads
is always `instretAfter` of the instructions before. -/

/-- The CSR write of an instruction that the reference core retires. -/
def referenceWrite (state : HartState) (decoded : DecodedInstruction) : Option CsrWrite :=
  (csrExecute decoded state.csrs ((decoded.rs1.map state.registers.read).getD 0)).bind (·.write)

theorem referenceWrite_of_not_isCsr {decoded : DecodedInstruction}
    (h : decoded.kind.isCsr = false) (state : HartState) :
    referenceWrite state decoded = none := by
  unfold referenceWrite csrExecute
  split
  · next hk _ => rw [hk] at h; cases h
  · rfl

section Reference

variable {state state' : HartState} {walker walker' : PageWalker} {bus bus' : β}
  {decoded : DecodedInstruction} {result : ExecutionResult}

omit [Bus β] in
theorem failedAccess_minstret {error : BusError} {address pc : U32} {access : MemoryAccess}
    {answer : Except CpuError ExecutionResult}
    (h : failedAccess state walker bus error address access pc = (answer, state', walker', bus')) :
    state'.csrs.machine.minstret = state.csrs.machine.minstret := by
  have hstate := congrArg (fun answer => answer.2.1.csrs.machine.minstret) h
  cases error <;> simpa [failedAccess, suspended, trapped, mapBusErrorToTrap, applyTrap_minstret]
    using hstate.symm

/-- Only CSR instructions touch the counter. -/
theorem executeDecoded_minstret (hcsr : decoded.kind.isCsr = false)
    (h : executeDecoded state walker bus decoded = (.ok result, state', walker', bus')) :
    state'.csrs.machine.minstret = state.csrs.machine.minstret := by
  simp only [executeDecoded] at h
  split at h
  all_goals try
    repeat' split at h
  all_goals first
    | exact failedAccess_minstret h
    | next hk => rw [hk] at hcsr; cases hcsr
    | (have hstate := congrArg (fun answer => answer.2.1.csrs.machine.minstret) h
       simpa [retire, suspended, trapped, applyTrap_minstret, returnFromTrap_minstret]
         using hstate.symm)
    | simp [InstructionKind.isCsr, *] at hcsr

/-- An instruction retires at most once. -/
theorem executeDecoded_retired
    (h : executeDecoded state walker bus decoded = (.ok result, state', walker', bus')) :
    result.retired = 0 ∨ result.retired = 1 := by
  have failed : ∀ {error address access pc} {w : PageWalker} {b : β},
      failedAccess state w b error address access pc = (.ok result, state', walker', bus') →
      result.retired = 0 := by
    intro error address access pc w b hfailed
    cases error <;>
      simp only [failedAccess, suspended, trapped, mapBusErrorToTrap, applyTrap, Prod.mk.injEq,
        Except.ok.injEq] at hfailed <;>
      rw [← hfailed.1]
  simp only [executeDecoded] at h
  split at h
  all_goals try
    repeat' split at h
  all_goals first
    | exact .inl (failed h)
    | (simp only [trapped, suspended, retire, Prod.mk.injEq, reduceCtorEq, false_and] at h; done)
    | (simp only [trapped, suspended, retire, Prod.mk.injEq, Except.ok.injEq] at h
       first
         | exact .inl (congrArg ExecutionResult.retired h.1).symm
         | exact .inr (congrArg ExecutionResult.retired h.1).symm)

/-- A CSR instruction traps, or returns the old value and makes its write. -/
theorem executeDecoded_csr (hcsr : decoded.kind.isCsr = true)
    (h : executeDecoded state walker bus decoded = (.ok result, state', walker', bus')) :
    (result.retired = 0 ∧ state'.csrs.machine.minstret = state.csrs.machine.minstret) ∨
      (result.retired = 1 ∧
        state'.csrs.machine.minstret =
          instretWrite (referenceWrite state decoded) state.csrs.machine.minstret ∧
        ∀ view, decoded.readsInstret = some view → state'.registers =
          (writeRd state decoded.rd (view state.csrs.machine.minstret)).registers) := by
  -- a trap neither retires nor counts
  have trap : ∀ {t : Trap}, trapped state walker bus t decoded.pc false =
      (.ok result, state', walker', bus') →
      result.retired = 0 ∧ state'.csrs.machine.minstret = state.csrs.machine.minstret := by
    intro t htrap
    simp only [trapped, Prod.mk.injEq, Except.ok.injEq] at htrap
    obtain ⟨rfl, rfl, -⟩ := htrap
    exact ⟨rfl, applyTrap_minstret ..⟩
  unfold InstructionKind.isCsr at hcsr
  split at hcsr
  · next op hk =>
    simp only [executeDecoded, hk] at h
    split at h
    · next address outcome haddress houtcome =>
      split at h
      · exact .inl (trap h)
      split at h
      · exact .inl (trap h)
      split at h
      · exact .inl (trap h)
      simp only [retire, Prod.mk.injEq, Except.ok.injEq] at h
      obtain ⟨rfl, rfl, -⟩ := h
      refine .inr ⟨rfl, ?_, fun view hview => ?_⟩
      · simp only [referenceWrite, houtcome, Option.bind_some, writeRd_csrs]
        rcases outcome.write with _ | write
        · rfl
        · exact CsrFile.write_minstret _ write
      -- the value that is read goes to the destination register
      · simp only [DecodedInstruction.readsInstret, hk, InstructionKind.isCsr, if_true, haddress,
          Option.bind_some] at hview
        simp only [csrExecute, hk, haddress, Option.some.injEq] at houtcome
        rw [← CsrFile.read_instret hview, ← houtcome]
    · exact .inl (trap h)
  · cases hcsr

/-- The instruction retires and moves the counter by its own write and by one, and returns the counter it
found; or it retires nothing and leaves the counter alone. -/
def ReferenceCore.Counts (core : ReferenceCore) (decoded : DecodedInstruction) (cycle : CpuCycle)
    (core' : ReferenceCore) : Prop :=
  (cycle.retiredInstructions = 0 ∧
      core'.state.csrs.machine.minstret = core.state.csrs.machine.minstret) ∨
    (cycle.retiredInstructions = 1 ∧
      core'.state.csrs.machine.minstret =
        instretAfter core.state.csrs.machine.minstret [referenceWrite core.state decoded] ∧
      ∀ view, decoded.readsInstret = some view → core'.state.registers =
        (writeRd core.state decoded.rd (view core.state.csrs.machine.minstret)).registers)

/-- **The reference core counts every instruction before the next.** -/
theorem ReferenceCore.executeStep_counts {core core' : ReferenceCore} {cycle : CpuCycle}
    (h : core.executeStep walker bus decoded = (.ok cycle, core', bus')) :
    core.Counts decoded cycle core' := by
  unfold ReferenceCore.executeStep at h
  split at h
  · next result state' walker' bus'' hexec =>
    simp only [Prod.mk.injEq, Except.ok.injEq] at h
    obtain ⟨rfl, rfl, rfl⟩ := h
    have hcount : ∀ csrs : CsrFile, (csrs.incrementInstret result.retired).machine.minstret =
        csrs.machine.minstret + result.retired := fun _ => rfl
    by_cases hcsr : decoded.kind.isCsr = true
    · rcases executeDecoded_csr hcsr hexec with ⟨hret, hsame⟩ | ⟨hret, hwrite, hread⟩
      · exact .inl ⟨hret, by rw [hcount, hret, hsame]; simp⟩
      · refine .inr ⟨hret, by rw [hcount, hret, hwrite]; rfl, hread⟩
    · rw [Bool.not_eq_true] at hcsr
      have hsame := executeDecoded_minstret hcsr hexec
      rcases executeDecoded_retired hexec with hret | hret
      · exact .inl ⟨hret, by rw [hcount, hret, hsame]; simp⟩
      · refine .inr ⟨hret, ?_, fun view hview => ?_⟩
        · rw [hcount, hret, hsame, referenceWrite_of_not_isCsr hcsr]
          rfl
        · simp [DecodedInstruction.readsInstret, hcsr] at hview
  · cases h

end Reference

/-! ## Every run -/

/-- **All reads of a run are right** if none misses an instruction in flight: each returns the count of the
instructions retired before it, which is what the reference core counts and returns. -/
theorem readsInstret_run (boot : machine.cpu.Boot) {ticks : List (β → β)}
    (h : Automata.Along Machine.stepCycle (fun m tick => ¬ MissesInFlight m tick) machine ticks) :
    ReadsInstret machine.cpu.state.csrs.machine.minstret (retirementTrace machine ticks) ∧
      ∀ (core core' : ReferenceCore) (walker : PageWalker) (bus bus' : β) (decoded : DecodedInstruction)
        (cycle : CpuCycle), core.executeStep walker bus decoded = (.ok cycle, core', bus') →
        core.Counts decoded cycle core' := by
  refine ⟨?_, fun core core' walker bus bus' decoded cycle => ReferenceCore.executeStep_counts⟩
  have inv : InstretInvariant machine.cpu.state.csrs.machine.minstret [] machine.cpu := by
    refine ⟨rfl, fun older q newer hsplit => by simp at hsplit, ?_, ?_, .of_latches boot.latches⟩
    all_goals simp [boot.latches]
  exact (h.outputs_invariant (I := fun past m => InstretInvariant _ past m.cpu) [] inv
    fun past m tick inv hstep => instretInvariant_step inv hstep).reads

/-- `addi x1, x0, 5`, `csrr x3, minstret` and a jump to itself, with fetches busy behind the first: the read
is behind a retired instruction and returns one. -/
theorem readsInstret_run_first :
    ReadsInstret 0 (retirementTrace
        (Machine.boot id (TestBus.ofWords [0x00500093, 0xb02021f3, 0x0000006f]))
        (id :: List.replicate 5 (TestBus.setFetchBusy true) ++
          List.replicate 8 (TestBus.setFetchBusy false))) ∧
      ((Machine.boot id (TestBus.ofWords [0x00500093, 0xb02021f3, 0x0000006f])).runCycles
        (id :: List.replicate 5 (TestBus.setFetchBusy true) ++
          List.replicate 8 (TestBus.setFetchBusy false))).cpu.state.registers.read 3 = 1 :=
  ⟨(readsInstret_run (Machine.boot_boot id _) (by decide +kernel)).1, by decide +kernel⟩

/-! ## Two instructions that are not counted -/

/-- `addi x1, x0, 5`, `addi x2, x1, 7`, `csrr x3, minstret` and a jump to itself. -/
def countedProgram : TestBus :=
  .ofWords [0x00500093, 0x00708113, 0xb02021f3, 0x0000006f]

/-- The third instruction as it retires, with its value. -/
def missedRead : MemWbPayload where
  decoded :=
    { raw := 0xb02021f3, pc := 8, kind := .csr .readSet, rd := some 3, rs1 := some 0, rs2 := none
      imm := 0, csr := some .minstret }
  writebackValue := some 0
  csrWrite := none
  translationFence := none
  nextPc := 12

/-- **The counter misses the instructions in flight**: the pipeline returns zero for the third
instruction, where the reference core returns two. -/
theorem counter_misses_inFlight :
    (Machine.boot id countedProgram).cpu.Boot ∧
      ¬ ReadsInstret 0 (retirementTrace (Machine.boot id countedProgram) (List.replicate 8 id)) ∧
      ((Machine.boot id countedProgram).runCycles
        (List.replicate 8 id)).cpu.state.registers.read 3 = 0 ∧
      (({ cpu := ReferenceCore.new 0, bus := countedProgram } : Machine _ _).runCycles
        (List.replicate 8 id)).cpu.state.registers.read 3 = 2 := by
  refine ⟨Machine.boot_boot _ _, fun h => ?_, by decide +kernel, by decide +kernel⟩
  have hread := h ((retirementTrace (Machine.boot id countedProgram) (List.replicate 8 id)).take 2)
    missedRead ((retirementTrace (Machine.boot id countedProgram) (List.replicate 8 id)).drop 3)
    (by decide +kernel) lowHalf rfl
  exact absurd hread (by decide +kernel)

end RvSim
