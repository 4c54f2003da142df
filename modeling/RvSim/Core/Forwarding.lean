import RvSim.Core.TranslationBarrier

/-!
# Operand forwarding

EX takes an operand from EX/MEM, from MEM/WB, or as ID latched it. The latched value is the
committed one as long as the instruction waits in ID/EX for at most one cycle; while MEM stalls, a
producer leaves MEM/WB for the register file and the waiting instruction keeps what it had latched.

## Main definitions

* `PipelineCore.olderRegisters`: the registers after all older instructions have committed
* `OperandsCurrent`: EX is called with the operands of those registers
* `LosesOperand`: the cycle in which a waiting instruction loses an operand
* `ForwardingInvariant`: what the latches hold between two cycles

## Main results

* `forwardingInvariant_step`: every cycle that loses no operand keeps the invariant
* `operandsCurrent_run`: in a run without a lost operand EX is always called with the right ones
-/

namespace RvSim

variable {β : Type} [Bus β]

/-! ## The architectural operands -/

/-- The registers after write-back of a payload. -/
def MemWbPayload.commit (q : MemWbPayload) (registers : RegisterFile) : RegisterFile :=
  match q.decoded.rd, q.writebackValue with
  | some rd, some value => registers.write rd value
  | _, _ => registers

/-- What MEM/WB hands on to a source register other than `x0`. -/
def MemWbPayload.forwards (q : MemWbPayload) (r : RegIndex) : Option U32 :=
  if q.decoded.rd = some r then q.writebackValue else none

/-- The registers after write-back and after the instruction MEM lets advance has committed too:
those of all instructions older than the one in ID/EX. -/
def PipelineCore.olderRegisters (core : PipelineCore) (bus : β) : RegisterFile :=
  match core.memoryAdvance bus with
  | none => (core.written bus).state.registers
  | some q =>
    (WbStage.writeBack (core.written bus).state (core.written bus).pageWalker q).2.1.registers

/-- EX is called with the operands that its instruction has in program order. -/
def OperandsCurrent (machine : Machine PipelineCore β) (tick : β → β) : Prop :=
  let bus := tick machine.bus
  let core := machine.cpu.begun bus
  ∀ call ∈ core.executeCall bus,
    call.2.1 = (core.olderRegisters bus).read (call.1.decoded.rs1.getD 0) ∧
    call.2.2 = (core.olderRegisters bus).read (call.1.decoded.rs2.getD 0)

instance (machine : Machine PipelineCore β) (tick : β → β) :
    Decidable (OperandsCurrent machine tick) :=
  inferInstanceAs (Decidable (∀ call ∈ (_ : Option _), _))

/-- Write-back of `q` changes the register that `source` names from what is latched for it. -/
def operandLost (q : MemWbPayload) (source : Option RegIndex) (latched : U32) : Bool :=
  source.any fun r => r != 0 && (q.forwards r).any (· != latched)

/-- MEM stalls, and write-back changes a source of the instruction that waits in ID/EX. -/
def LosesOperand (machine : Machine PipelineCore β) (tick : β → β) : Prop :=
  let bus := tick machine.bus
  let core := machine.cpu.begun bus
  match core.memoryAnswer bus, core.latches.memWb, core.latches.idEx with
  | some (.stall _), some q, some p =>
    (operandLost q p.decoded.rs1 p.rs1Value || operandLost q p.decoded.rs2 p.rs2Value) = true
  | _, _, _ => False

instance (machine : Machine PipelineCore β) (tick : β → β) :
    Decidable (LosesOperand machine tick) := by
  unfold LosesOperand
  dsimp only
  split
  · exact inferInstance
  · exact inferInstance

/-! ## Reading committed registers -/

/-- A commit shows in a register exactly as it is forwarded to it. -/
theorem MemWbPayload.commit_read (q : MemWbPayload) (registers : RegisterFile) {r : RegIndex}
    (hr : r ≠ 0) : (q.commit registers).read r = (q.forwards r).getD (registers.read r) := by
  unfold MemWbPayload.commit MemWbPayload.forwards
  rcases q.decoded.rd with _ | rd
  · simp
  · rcases q.writebackValue with _ | value
    · simp
    · by_cases hrd : rd = r
      · subst hrd
        simpa using registers.read_write_same value hr
      · simpa [hrd] using registers.read_write_ne value fun h => hrd h.symm

/-- Write-back commits the payload's register, unless it returns from a trap. -/
theorem WbStage.writeBack_registers (state : HartState) (walker : PageWalker) {q : MemWbPayload}
    (h : q.decoded.kind.isXret = true → q.writebackValue = none) :
    (WbStage.writeBack state walker q).2.1.registers = q.commit state.registers := by
  have hnone : ∀ kind, q.decoded.kind = .system kind → q.decoded.kind.isXret = true →
      state.registers = q.commit state.registers := by
    intro kind hk hxret
    unfold MemWbPayload.commit
    rw [h hxret]
    rcases q.decoded.rd <;> rfl
  unfold WbStage.writeBack
  split
  · next hk => exact hnone _ hk (by rw [hk]; rfl)
  · next hk => exact hnone _ hk (by rw [hk]; rfl)
  · rfl

/-! ## The invariant -/

/-- What the latches hold between two cycles. -/
structure ForwardingInvariant (core : PipelineCore) : Prop where
  front : BarrierFront core
  rs1 : ∀ p, core.latches.idEx = some p →
    p.rs1Value = core.state.registers.read (p.decoded.rs1.getD 0)
  rs2 : ∀ p, core.latches.idEx = some p →
    p.rs2Value = core.state.registers.read (p.decoded.rs2.getD 0)
  /-- EX/MEM has a value exactly for the kinds whose result EX computes. -/
  exMemValue : ∀ x, core.latches.exMem = some x →
    x.writebackValue.isSome = ExStage.writesValue x.decoded.kind
  /-- A return from a trap writes no register. -/
  memWbValue : ∀ q, core.latches.memWb = some q → q.decoded.kind.isXret = true →
    q.writebackValue = none
  /-- The instruction behind a load does not read what it loads. -/
  loadUse : ∀ x p, core.latches.exMem = some x → core.latches.idEx = some p →
    ExStage.isLoad x.decoded = true →
    detectRawHazard x.decoded.rd p.decoded.rs1 p.decoded.rs2 = false

theorem PipelineCore.Boot.forwardingInvariant {core : PipelineCore} (boot : core.Boot) :
    ForwardingInvariant core := by
  refine ⟨fun h => ?_, ?_, ?_, ?_, ?_, ?_⟩
  · simp [boot.translationBarrier] at h
  all_goals simp [boot.latches]

section Step

variable {core : PipelineCore} {bus : β} {l : StepLocals β}

/-- What EX/MEM hands on to a source register other than `x0`. -/
def ExMemPayload.forwards (x : ExMemPayload) (r : RegIndex) : Option U32 :=
  if x.decoded.rd = some r ∧ ExStage.writesBack x.decoded then x.writebackValue else none

omit [Bus β] in
/-- A register after write-back. -/
theorem ForwardingInvariant.written_read (inv : ForwardingInvariant core) {r : RegIndex}
    (hr : r ≠ 0) : (core.written bus).state.registers.read r =
      (core.latches.memWb.bind (·.forwards r)).getD (core.state.registers.read r) := by
  rw [core.written_state]
  rcases hm : core.latches.memWb with _ | m
  · rfl
  · rw [Option.bind_some, ← m.commit_read _ hr]
    exact congrArg (RegisterFile.read · r) (WbStage.writeBack_registers _ _ (inv.memWbValue m hm))

omit [Bus β] in
/-- The operand of a source register other than `x0`. -/
theorem PipelineLatches.operand_eq (latches : PipelineLatches) {r : RegIndex} (hr : r ≠ 0)
    (latched : U32) :
    latches.operand (some r) latched =
      ((latches.exMem.bind (·.forwards r)).or (latches.memWb.bind (·.forwards r))).getD latched := by
  unfold PipelineLatches.operand PipelineCore.forwardedOperand
  simp only [if_neg hr]
  rfl

omit [Bus β] in
/-- What EX/MEM forwards is what it commits: MEM leaves a value it forwards alone, and the
instruction in ID/EX reads nothing that MEM has yet to load. -/
theorem ForwardingInvariant.exMem_forwards (inv : ForwardingInvariant core) {x : ExMemPayload}
    {q : MemWbPayload} {r : RegIndex} (hr : r ≠ 0) (hx : core.latches.exMem = some x)
    (hq : q = x.advance q.writebackValue)
    (hvalue : ExStage.isLoad x.decoded = false →
      q.writebackValue = if ExStage.usesMemory x.decoded then none else x.writebackValue)
    (hload : ExStage.isLoad x.decoded = true → x.decoded.rd ≠ some r) :
    x.forwards r = q.forwards r := by
  have hrd : q.decoded.rd = x.decoded.rd := by rw [hq]; rfl
  unfold ExMemPayload.forwards MemWbPayload.forwards
  rw [hrd]
  by_cases hsource : x.decoded.rd = some r
  · have hload' : ExStage.isLoad x.decoded = false := by
      by_contra h
      exact hload (by simpa using h) hsource
    have hisSome := inv.exMemValue x hx
    rw [hvalue hload', if_pos hsource]
    -- only the kinds whose result EX computes are left
    rcases hk : x.decoded.kind with _ | _ | _ | _ | k | k | k | k | k | k | k <;>
      simp only [hk, ExStage.writesValue, Option.isSome_eq_false_iff, Option.isNone_iff_eq_none]
        at hisSome <;>
      simp [ExStage.writesBack, ExStage.usesMemory, ExStage.isLoad, hk, hsource, hisSome,
        show ¬ r = 0#5 from hr] at hload' ⊢
  · simp [hsource]

/-- An instruction that MEM lets advance returns from no trap with a value. -/
theorem ForwardingInvariant.memoryAdvance_value (inv : ForwardingInvariant core)
    {q : MemWbPayload} (hq : core.memoryAdvance bus = some q)
    (hxret : q.decoded.kind.isXret = true) : q.writebackValue = none := by
  obtain ⟨x, w, b, hx, haccess⟩ := PipelineCore.memoryAdvance_eq_some hq
  obtain ⟨hq', hvalue⟩ := MemStage.access_advance haccess
  have hdecoded : q.decoded = x.decoded := by rw [hq']; rfl
  have hisSome := inv.exMemValue x hx
  rw [hdecoded] at hxret
  unfold InstructionKind.isXret at hxret
  split at hxret
  · next hk =>
    rw [hvalue (by simp [ExStage.isLoad, hk])]
    simpa [ExStage.usesMemory, hk, ExStage.writesValue] using hisSome
  · next hk =>
    rw [hvalue (by simp [ExStage.isLoad, hk])]
    simpa [ExStage.usesMemory, hk, ExStage.writesValue] using hisSome
  · cases hxret

/-- **The operand EX gets is the register of all older instructions**, if the latched value is the
committed one and MEM has nothing to load for it. -/
theorem ForwardingInvariant.operand (inv : ForwardingInvariant core)
    (hpass : ∃ q w b, MemoryPass (core.written bus) core.latches.exMem q w b)
    (running : core.state.halted = false)
    (noInterrupt : (core.written bus).takenInterrupt = none)
    {source : Option RegIndex} {latched : U32}
    (hlatched : latched = core.state.registers.read (source.getD 0))
    (hload : ∀ x, core.latches.exMem = some x → ExStage.isLoad x.decoded = true →
      ∀ r, source = some r → r ≠ 0 → x.decoded.rd ≠ some r) :
    core.latches.operand source latched = (core.olderRegisters bus).read (source.getD 0) := by
  rcases source with _ | r
  · rw [hlatched]
    exact (RegisterFile.read_zero _).trans (RegisterFile.read_zero _).symm
  by_cases hr : r = 0
  · subst hr
    exact (RegisterFile.read_zero _).symm
  rw [core.latches.operand_eq hr, hlatched, Option.getD_some]
  obtain ⟨q, w, b, memory⟩ := hpass
  have hadvance := memory.memoryAdvance running noInterrupt
  unfold PipelineCore.olderRegisters
  rw [← hadvance]
  generalize hx : core.latches.exMem = exMem at memory
  cases memory with
  | idle => simp [inv.written_read hr]
  | @advance x q w b access =>
    obtain ⟨hq, hvalue⟩ := MemStage.access_advance access
    simp only [Option.bind_some]
    rw [inv.exMem_forwards hr hx hq hvalue fun h => hload x hx h r rfl hr,
      WbStage.writeBack_registers _ _ fun h => inv.memoryAdvance_value hadvance.symm h,
      q.commit_read _ hr, inv.written_read hr]
    rcases q.forwards r with _ | value <;> simp

/-- A load-use hazard that is not there leaves no load for a source. -/
theorem rd_ne_of_not_detectRawHazard {rd rs1 rs2 : Option RegIndex}
    (h : detectRawHazard rd rs1 rs2 = false) {r : RegIndex} (hr : r ≠ 0)
    (hsource : rs1 = some r ∨ rs2 = some r) : rd ≠ some r := by
  rintro rfl
  rcases hsource with rfl | rfl <;> simp [detectRawHazard, show ¬ r = 0#5 from hr] at h

omit [Bus β] in
/-- An operand that write-back does not change under a waiting instruction stays current. -/
theorem ForwardingInvariant.kept (inv : ForwardingInvariant core) {source : Option RegIndex}
    {latched : U32} (hlatched : latched = core.state.registers.read (source.getD 0))
    (hkept : ∀ q, core.latches.memWb = some q → operandLost q source latched = false) :
    latched = (core.written bus).state.registers.read (source.getD 0) := by
  rcases source with _ | r
  · rw [hlatched]
    exact (RegisterFile.read_zero _).trans (RegisterFile.read_zero _).symm
  by_cases hr : r = 0
  · subst hr
    rw [hlatched]
    exact (RegisterFile.read_zero _).trans (RegisterFile.read_zero _).symm
  rw [Option.getD_some] at hlatched ⊢
  rw [inv.written_read hr]
  rcases hm : core.latches.memWb with _ | m
  · exact hlatched
  · have hkept := hkept m hm
    simp only [operandLost, Option.any_some, Bool.and_eq_false_iff, bne_eq_false_iff_eq] at hkept
    rcases hkept with h0 | hkept
    · exact absurd h0 hr
    · rw [Option.bind_some]
      rcases hforwards : m.forwards r with _ | value
      · exact hlatched
      · rw [hforwards, Option.any_some, bne_eq_false_iff_eq] at hkept
        exact hkept.symm

/-- A running cycle that loses no operand keeps the invariant. -/
theorem ForwardingInvariant.running (inv : ForwardingInvariant core)
    (running : core.state.halted = false) (cycle : RunningCycle core bus l)
    (hkept : ∀ x q p, core.memoryAnswer bus = some (.stall x) → core.latches.memWb = some q →
      core.latches.idEx = some p → operandLost q p.decoded.rs1 p.rs1Value = false ∧
        operandLost q p.decoded.rs2 p.rs2Value = false) :
    ForwardingInvariant (core.finishCycle l).2.1 := by
  have hfront : BarrierFront (core.finishCycle l).2.1 :=
    barrierFront_step (.running running cycle) inv.front
  -- the instruction in ID/EX has waited for MEM, or has just been decoded
  have hidEx : ∀ p, l.next.idEx = some p →
      ((∃ x, core.memoryAnswer bus = some (.stall x)) ∧ core.latches.idEx = some p) ∨
        ∃ f d, p = .of f d (core.written bus).state.registers := by
    intro p hp
    rcases cycle.idEx_cases running with
      ⟨x, hstall, hw⟩ | ⟨hbarrier, hd, -⟩ | hd | ⟨f, d, -, -, -, -, hd⟩
    · exact .inl ⟨⟨x, hstall⟩, by simpa [hw] using hp⟩
    · rw [core.written_translationBarrier, Bool.and_eq_true] at hbarrier
      rw [hd, (inv.front hbarrier.1).2] at hp
      cases hp
    · simp [hd] at hp
    · exact .inr ⟨f, d, Option.some.inj (hp.symm.trans hd)⟩
  refine ⟨hfront, fun p hp => ?rs1, fun p hp => ?rs2, fun x hx => ?exMemValue, fun q hq => ?memWbValue,
    fun x p hx hp hload => ?loadUse⟩
  case rs1 =>
    rw [PipelineCore.finishCycle_registers, cycle.registers_eq]
    rcases hidEx p hp with ⟨⟨x, hstall⟩, hlatch⟩ | ⟨f, d, rfl⟩
    · exact inv.kept (inv.rs1 p hlatch) fun q hq => (hkept x q p hstall hq hlatch).1
    · rfl
  case rs2 =>
    rw [PipelineCore.finishCycle_registers, cycle.registers_eq]
    rcases hidEx p hp with ⟨⟨x, hstall⟩, hlatch⟩ | ⟨f, d, rfl⟩
    · exact inv.kept (inv.rs2 p hlatch) fun q hq => (hkept x q p hstall hq hlatch).2
    · rfl
  case exMemValue =>
    rcases cycle.exMem_cases running with ⟨_, -, hw⟩ | hx' | ⟨p, _, _, outcome, -, hexec, hx'⟩
    · exact inv.exMemValue x (by simpa [hw] using hx)
    · simp [hx'] at hx
    · obtain rfl := Option.some.inj (hx'.symm.trans hx)
      exact ExStage.execute_writebackValue hexec
  case memWbValue =>
    exact inv.memoryAdvance_value ((cycle.memWb_eq running).symm.trans hq)
  case loadUse =>
    rcases cycle.exMem_cases running with ⟨_, -, hw⟩ | hx' | ⟨p', _, _, outcome, hcall, -, hx'⟩
    · exact inv.loadUse x p (by simpa [hw] using hx) (by simpa [hw] using hp) hload
    · simp [hx'] at hx
    · obtain ⟨-, -, -, -, hlatch, -, -⟩ := PipelineCore.executeCall_eq_some_iff.mp hcall
      rcases cycle.idEx_cases running with
        ⟨_, -, hw⟩ | ⟨-, -, hnone⟩ | hd | ⟨f, d, -, -, -, hhazard, hd⟩
      · exact inv.loadUse x p (by simpa [hw] using hx) (by simpa [hw] using hp) hload
      · simp [hnone] at hx
      · simp [hd] at hp
      · obtain rfl := Option.some.inj (hx'.symm.trans hx)
        obtain rfl := Option.some.inj (hd.symm.trans hp)
        have hload' : ExStage.isLoad p'.decoded = true := hload
        simp only [StepLocals.decodeHazard, hlatch, Option.any_some, hload', Bool.true_and,
          Bool.or_eq_false_iff] at hhazard
        exact hhazard.1

end Step

variable {machine : Machine PipelineCore β} {tick : β → β}

theorem ForwardingInvariant.begun {core : PipelineCore} (inv : ForwardingInvariant core)
    (bus : β) : ForwardingInvariant (core.begun bus) :=
  ⟨inv.front, inv.rs1, inv.rs2, inv.exMemValue, inv.memWbValue, inv.loadUse⟩

/-- In every state with the invariant EX is called with the right operands. -/
theorem ForwardingInvariant.operandsCurrent (inv : ForwardingInvariant machine.cpu) :
    OperandsCurrent machine tick := by
  rintro ⟨p, rs1Value, rs2Value⟩ hcall
  have inv' := inv.begun (tick machine.bus)
  obtain ⟨running, noInterrupt, hpass, -, hlatch, rfl, rfl⟩ :=
    PipelineCore.executeCall_eq_some_iff.mp hcall
  have hload : ∀ source, (p.decoded.rs1 = source ∨ p.decoded.rs2 = source) → ∀ x,
      machine.cpu.latches.exMem = some x → ExStage.isLoad x.decoded = true →
      ∀ r, source = some r → r ≠ 0 → x.decoded.rd ≠ some r := by
    rintro source hsource x hx hload r rfl hr
    exact rd_ne_of_not_detectRawHazard (inv.loadUse x p hx hlatch hload) hr hsource
  exact ⟨inv'.operand hpass running noInterrupt (inv'.rs1 p hlatch) (hload _ (.inl rfl)),
    inv'.operand hpass running noInterrupt (inv'.rs2 p hlatch) (hload _ (.inr rfl))⟩

/-- **Every cycle that loses no operand keeps the invariant.** -/
theorem forwardingInvariant_step (inv : ForwardingInvariant machine.cpu)
    (h : ¬ LosesOperand machine tick) : ForwardingInvariant (machine.stepCycle tick).cpu := by
  have cycle := machine.stepCycle_cases tick
  have inv' := inv.begun (tick machine.bus)
  generalize machine.stepCycle tick = machine' at cycle ⊢
  obtain ⟨core', bus'⟩ := machine'
  cases cycle with
  | wake =>
    refine ⟨fun _ => ⟨rfl, rfl⟩, ?_, ?_, ?_, ?_, ?_⟩
    all_goals simp
  | wait => exact ⟨inv.front, inv.rs1, inv.rs2, inv.exMemValue, inv.memWbValue, inv.loadUse⟩
  | running running cycle =>
    refine inv'.running running cycle fun x q p hstall hq hp => ?_
    have hq' : machine.cpu.latches.memWb = some q := hq
    have hp' : machine.cpu.latches.idEx = some p := hp
    simpa [LosesOperand, hstall, hq', hp'] using h

/-- **EX is called with the operands of program order** in every cycle of a run in which no waiting
instruction loses an operand. -/
theorem operandsCurrent_run (boot : machine.cpu.Boot) {ticks : List (β → β)}
    (h : Automata.Along Machine.stepCycle (fun m tick => ¬ LosesOperand m tick) machine ticks) :
    Automata.Along Machine.stepCycle OperandsCurrent machine ticks :=
  h.of_invariant (I := fun m => ForwardingInvariant m.cpu) boot.forwardingInvariant
    fun _ _ inv hstep => ⟨inv.operandsCurrent, forwardingInvariant_step inv hstep⟩

/-- `lw x1, 16(x0)`, `add x2, x1, x1` and a jump to itself, while the bus answers the load busy for
three cycles. -/
theorem operandsCurrent_run_loadUse :
    Automata.Along Machine.stepCycle OperandsCurrent
      (Machine.boot id (TestBus.ofWords [0x01002083, 0x00108133, 0x0000006f, 0, 7]))
      (TestBus.setBusy true :: List.replicate 6 id ++ TestBus.setBusy false ::
        List.replicate 5 id) :=
  operandsCurrent_run (Machine.boot_boot id _) (by decide +kernel)

/-! ## An operand that is lost -/

/-- `addi x1, x0, 5`, `lw x2, 16(x0)`, `add x3, x1, x1` and a jump to itself. -/
def staleProgram : TestBus :=
  .ofWords [0x00500093, 0x01002103, 0x001081b3, 0x0000006f, 7]

/-- The bus answers the load busy for one cycle. -/
def staleTicks : List (TestBus → TestBus) :=
  TestBus.setBusy true :: List.replicate 4 id ++ TestBus.setBusy false :: List.replicate 5 id

/-- **A stall loses an operand**: while MEM waits for the load, the `addi` leaves MEM/WB and the
`add` keeps the value it latched before; `x3` is zero in the pipeline and ten in the reference
core. -/
theorem operand_lost_in_stall :
    (Machine.boot id staleProgram).cpu.Boot ∧
      ¬ Automata.Along Machine.stepCycle OperandsCurrent (Machine.boot id staleProgram)
        staleTicks ∧
      ((Machine.boot id staleProgram).runCycles staleTicks).cpu.state.registers.read 3 = 0 ∧
      (({ cpu := ReferenceCore.new 0, bus := staleProgram } : Machine _ _).runCycles
        staleTicks).cpu.state.registers.read 3 = 10 :=
  ⟨Machine.boot_boot _ _, by decide +kernel, by decide +kernel, by decide +kernel⟩

end RvSim
