import RvSim.Core.Alignment
import RvSim.Core.PlainRun

/-!
# Runs of the reference core

The reference core in front of a flat memory is what a program means. As long as every cycle retires a plain
instruction, or raises an exception before any access, its states are a run of such steps.

## Main definitions

* `Reference`, `Reference.after`: the reference core with its memory, after some cycles
* `Reference.Plain`: it retires plain instructions
* `Reference.Straight`: it also raises exceptions, and a front end can run ahead of it
* `Reference.retired`, `Reference.entries`: what it has retired, and the traps it has entered

## Main results

* `Reference.Ready.retires_of`: a cycle that retires a plain instruction
* `Reference.Ready.raises_of`: a cycle that raises an exception
* `Reference.Straight.exists_run`: the run of the reference core
-/

namespace RvSim

/-! ## Executing plain instructions in one step -/

section Execute

variable {decoded : DecodedInstruction} {rs1Value rs2Value : U32} {privilege : PrivilegeMode}
  {csrs : CsrFile}

/-- EX lets a plain instruction advance. -/
theorem ExStage.execute_plain_advance (h : decoded.kind.isPlain = true) :
    ∃ outcome, ExStage.execute decoded rs1Value rs2Value privilege csrs = .advance outcome := by
  unfold ExStage.execute
  rcases hk : decoded.kind with _ | _ | _ | _ | kind | kind | kind | kind | kind | kind | kind
  case csr => simp [InstructionKind.isPlain, hk] at h
  case system => simp [InstructionKind.isPlain, hk] at h
  all_goals exact ⟨_, rfl⟩

variable {state state' : HartState} {walker w : PageWalker} {memory b : FlatMemory}

/-- What a flat memory has let MEM do is aligned and mapped. -/
theorem HartState.Direct.accessible_of_advance (direct : state.Direct) (idle : walker.active = none)
    {x : ExMemPayload} {q : MemWbPayload}
    (h : MemStage.access memory walker state.csrs state.privilege x = (.ok (.advance q), w, b)) :
    ∀ request, x.request = some request → request.Accessible memory := by
  intro request hrequest
  unfold ExMemPayload.request at hrequest
  split at hrequest
  · next kind hk =>
    obtain rfl := Option.some.inj hrequest
    simp only [MemStage.access, hk, direct.translate idle] at h
    rw [show ((x.memoryAddress.getD 0).setWidth 64 : Address) = x.address from rfl, loadValue_eq] at h
    rcases hout : (kind.request x.address).call memory with ⟨error | value, b'⟩
    · rw [hout] at h
      cases error <;> simp [mapValue, Except.map, MemStage.failed, mapBusErrorToTrap] at h
    · exact FlatMemory.accessible_of_ok (congrArg Prod.fst hout)
  · next kind hk =>
    obtain rfl := Option.some.inj hrequest
    simp only [MemStage.access, hk, direct.translate idle] at h
    rw [show ((x.memoryAddress.getD 0).setWidth 64 : Address) = x.address from rfl, storeValue_eq] at h
    rcases hout : (kind.request x.address x.storeValue).call memory with ⟨error | value, b'⟩
    · rw [hout] at h
      cases error <;> simp [mapValue, Except.map, MemStage.failed, mapBusErrorToTrap] at h
    · exact FlatMemory.accessible_of_ok (congrArg Prod.fst hout)
  · cases hrequest

/-- An access of a plain instruction that retires has advanced in MEM. -/
theorem advance_of_retired {x : ExMemPayload} {result : ExecutionResult}
    (hx : x.Executed state.registers) (huses : ExStage.usesMemory x.decoded = true)
    (h : executeDecoded state walker memory x.decoded = (.ok result, state', w, b))
    (hretired : result.retired = 1) :
    ∃ q w b, MemStage.access memory walker state.csrs state.privilege x = (.ok (.advance q), w, b) := by
  rw [executeDecoded_of_usesMemory hx huses] at h
  rcases haccess : MemStage.access memory walker state.csrs state.privilege x with
    ⟨error | (q | p | trap), w, b⟩
  · rw [haccess] at h
    cases h
  · exact ⟨q, w, b, rfl⟩
  · rw [haccess] at h
    obtain rfl := Except.ok.inj (congrArg Prod.fst h)
    cases hretired
  · rw [haccess] at h
    obtain rfl := Except.ok.inj (congrArg Prod.fst h)
    cases hretired

/-- An instruction that does not use MEM makes no access. -/
theorem DecodedInstruction.request_of_usesMemory (huses : ExStage.usesMemory decoded = false)
    (registers : RegisterFile) : decoded.request registers = none := by
  unfold DecodedInstruction.request
  rcases hk : decoded.kind with _ | _ | _ | _ | kind | kind | kind | kind | kind | kind | kind
  case load => simp [ExStage.usesMemory, hk] at huses
  case store => simp [ExStage.usesMemory, hk] at huses
  all_goals rfl

/-- **A plain instruction that retires** in front of a flat memory. -/
theorem HartState.Direct.executeDecoded_plain (direct : state.Direct) (idle : walker.active = none)
    (hplain : decoded.kind.isPlain = true) {result : ExecutionResult}
    (h : executeDecoded state walker memory decoded = (.ok result, state', w, b))
    (hretired : result.retired = 1) :
    ∃ x : ExMemPayload, x.decoded = decoded ∧ x.Executed state.registers ∧
      (∀ request, x.request = some request → request.Accessible memory) ∧
      state' = { state with
        registers := (x.completed memory.contents).commit state.registers, pc := x.nextPc } ∧
      w = walker ∧ b = { memory with contents := x.effect memory.contents } ∧ result.trap = none := by
  obtain ⟨outcome, hexecute⟩ : ∃ outcome, state.executed decoded = .advance outcome :=
    ExStage.execute_plain_advance hplain
  have hx := executed_of hexecute
  have haccessible : ∀ request, (ExMemPayload.of decoded outcome).request = some request →
      request.Accessible memory := by
    intro request hrequest
    by_cases huses : ExStage.usesMemory decoded = true
    · obtain ⟨q, w, b, haccess⟩ := advance_of_retired hx huses h hretired
      exact direct.accessible_of_advance idle haccess request hrequest
    · unfold ExStage.usesMemory at huses
      unfold ExMemPayload.request at hrequest
      split at hrequest
      · next hk => simp [show decoded.kind = _ from hk] at huses
      · next hk => simp [show decoded.kind = _ from hk] at huses
      · cases hrequest
  have haccessed := direct.access idle (show BusyMemory.Holds memory memory from rfl) haccessible
  rcases hout : MemStage.access memory walker state.csrs state.privilege (.of decoded outcome) with
    ⟨answer, w', b'⟩
  rw [hout] at haccessed
  cases haccessed with
  | stall _ busy => exact absurd busy (NeverBusy.call _ memory _)
  | done holds =>
    obtain rfl : b' = _ := holds
    have hsteps := executeDecoded_of_stages hexecute hout
    rw [WbStage.writeBack_plain _ _ hplain (ExStage.execute_csrWrite
      (InstructionKind.isPlain.isCsr hplain) hexecute) (ExStage.execute_plain_fence hplain hexecute),
      h] at hsteps
    simp only [Prod.mk.injEq, Except.ok.injEq] at hsteps
    obtain ⟨rfl, rfl, rfl, rfl⟩ := hsteps
    exact ⟨_, rfl, hx, haccessible, rfl, rfl, rfl, rfl⟩

end Execute

/-! ## The reference core with its memory -/

/-- The reference core in front of a flat memory. -/
abbrev Reference := Machine ReferenceCore FlatMemory

namespace Reference

variable (reference : Reference)

/-- The machine after `i` cycles. -/
def after (reference : Reference) : Nat → Reference
  | 0 => reference
  | i + 1 => (reference.after i).stepCycle id

/-- What its instructions see. -/
def view : ArchState where
  registers := reference.cpu.state.registers
  pc := reference.cpu.state.pc
  contents := reference.bus.contents
  control := reference.cpu.state.control

/-- The instruction of the next cycle. -/
def instruction : Option DecodedInstruction :=
  (reference.cpu.begun reference.bus).executing reference.bus

/-- The access of that instruction. -/
def request : Option BusRequest :=
  reference.instruction.bind (·.request reference.cpu.state.registers)

/-- The next cycle retires a plain instruction. -/
def RetiresPlain : Prop :=
  reference.instruction.any (·.kind.isPlain) = true ∧
    (reference.cpu.stepCycle reference.bus).1.toOption =
      some { retiredInstructions := 1, stalled := false }

instance : Decidable reference.RetiresPlain := inferInstanceAs (Decidable (_ ∧ _))

/-- The word at `target` is aligned and mapped. -/
def fetches (target : U32) : Bool := ((fetchRequest target).call reference.bus).1.isOk

/-- The next cycle raises an exception on a word that it has fetched, and that makes no access. -/
def RaisesEarly : Prop :=
  reference.cpu.state.halted = false ∧ reference.fetches reference.cpu.state.pc = true ∧
    reference.instruction.all (fun decoded => !ExStage.usesMemory decoded) = true ∧
      (reference.stepCycle id).cpu.lastResult.trap.any (fun trap => !trap.isInterrupt) = true

instance : Decidable reference.RaisesEarly := inferInstanceAs (Decidable (_ ∧ _ ∧ _ ∧ _))

/-- Between two instructions, on a hart that translates nothing. -/
structure Ready : Prop where
  direct : reference.cpu.state.Direct
  idle : reference.cpu.pageWalker.active = none
  fresh : reference.cpu.pendingDecoded = none

/-- The reference core retires `length` plain instructions, one a cycle. -/
structure Plain (length : Nat) : Prop where
  ready : reference.Ready
  retires : ∀ i < length, (reference.after i).RetiresPlain

/-- The reference core retires a plain instruction or raises an exception in each of `length` cycles, and a
front end can run ahead of it: where it may go on behind an instruction is aligned and mapped, and none is
overwritten by one of the two before it. -/
structure Straight (length : Nat) : Prop where
  ready : reference.Ready
  steps : ∀ i < length, (reference.after i).RetiresPlain ∨ (reference.after i).RaisesEarly
  predicted : ∀ i < length,
    (reference.after i).instruction.all (·.predictions.all reference.fetches) = true
  stable : ∀ j < length, ∀ i ≤ j, j ≤ i + 2 →
    (reference.after i).bus.contents.fetched (reference.after j).cpu.state.pc =
      (reference.after j).bus.contents.fetched (reference.after j).cpu.state.pc

/-- How many instructions the first cycles retire. -/
def retired (i : Nat) : Nat := Nat.count (fun j => (reference.after j).RetiresPlain) i

/-- The trap that the last cycle has entered. -/
def entered (reference : Reference) : Option TrapEntry :=
  reference.cpu.lastResult.trap.map fun trap =>
    ⟨trap, reference.cpu.state.control, reference.cpu.state.pc⟩

/-- The traps that the first cycles enter, in order. -/
def entries (reference : Reference) (i : Nat) : List TrapEntry :=
  (List.range i).filterMap fun j => (reference.after (j + 1)).entered

end Reference

/-! ## One cycle -/

/-- The start of a cycle does not turn translation on. -/
theorem HartState.Direct.beginCycle {β : Type} [Bus β] {state : HartState} (h : state.Direct)
    (bus : β) : (beginCycle state bus).Direct := by
  unfold RvSim.beginCycle
  dsimp only
  split <;> exact h

namespace ReferenceCore

variable {core : ReferenceCore} {decoded : DecodedInstruction} {bus : FlatMemory}

/-- A cycle that executes an instruction has fetched it, or has it in progress. -/
theorem stepCycle_of_executing (fresh : core.pendingDecoded = none)
    (h : (core.begun bus).executing bus = some decoded) :
    ∃ w b, fetchDecoded (core.begun bus).state core.pageWalker bus =
        (.ok (.instruction decoded), w, b) ∧
      core.stepCycle bus = (core.begun bus).executeStep w b decoded := by
  unfold executing at h
  rw [Option.ite_none_left_eq_some] at h
  obtain ⟨hgoes, hprogress⟩ := h
  rw [Bool.not_eq_true, Bool.or_eq_false_iff, Option.isSome_eq_false_iff, Option.isNone_iff_eq_none]
    at hgoes
  have hfresh : (core.begun bus).pendingDecoded = none := fresh
  unfold inProgress at hprogress
  rw [hfresh] at hprogress
  dsimp only at hprogress
  split at hprogress
  · next hfetch =>
    obtain rfl := Option.some.inj hprogress
    have hfetched : fetchDecoded (core.begun bus).state (core.begun bus).pageWalker bus =
      (.ok (.instruction _), _, _) := Prod.ext hfetch rfl
    refine ⟨_, _, hfetched, ?_⟩
    show (core.begun bus).instructionStep bus = _
    unfold instructionStep interrupt
    rw [hgoes.1, hfresh, hfetched]
    dsimp only
    rw [if_neg (by rw [hgoes.2]; decide)]
  · cases hprogress

/-- The fetch of a hart that translates nothing. -/
theorem fetchDecoded_direct {state : HartState} (direct : state.Direct) {walker w : PageWalker}
    (idle : walker.active = none) {b : FlatMemory}
    (h : fetchDecoded state walker bus = (.ok (.instruction decoded), w, b)) :
    (fetchRequest state.pc).Accessible bus ∧
      decode (bus.contents.fetched state.pc) state.pc = .ok decoded ∧ w = walker ∧ b = bus := by
  simp only [fetchDecoded, direct.translate idle] at h
  rcases hout : Bus.fetch32 bus (state.pc.setWidth 64) with ⟨error | raw, b'⟩
  · rw [hout] at h
    cases error <;> simp [mapBusErrorToTrap] at h
  · have hcall : (fetchRequest state.pc).call bus = (.ok raw, b') := hout
    have haccessible := FlatMemory.accessible_of_ok (congrArg Prod.fst hcall)
    rw [FlatMemory.call_eq haccessible.aligned haccessible.maps, Prod.mk.injEq] at hcall
    obtain ⟨hraw, hbus⟩ := hcall
    rw [hout] at h
    dsimp only at h
    have hraw' : bus.contents.fetched state.pc = raw := Except.ok.inj hraw
    rw [hraw']
    split at h
    · next hdecode =>
      simp only [Prod.mk.injEq, Except.ok.injEq, Fetched.instruction.injEq] at h
      obtain ⟨rfl, rfl, rfl⟩ := h
      exact ⟨haccessible, hdecode, rfl, hbus.symm⟩
    · simp at h

section Accessible

variable {state : HartState} {walker : PageWalker} (direct : state.Direct) (idle : walker.active = none)
  (accessible : (fetchRequest state.pc).Accessible bus)

include direct idle accessible

/-- The fetch of a word that decodes. -/
theorem fetchDecoded_of_decoded
    (decodes : decode (bus.contents.fetched state.pc) state.pc = .ok decoded) :
    fetchDecoded state walker bus = (.ok (.instruction decoded), walker, bus) := by
  have hfetch : Bus.fetch32 bus (state.pc.setWidth 64) = (.ok (bus.contents.fetched state.pc), bus) :=
    FlatMemory.call_eq accessible.aligned accessible.maps
  simp only [fetchDecoded, direct.translate idle, hfetch, decodes]

/-- The fetch of a word that does not decode. -/
theorem fetchDecoded_of_undecoded {error : DecodeError}
    (undecoded : decode (bus.contents.fetched state.pc) state.pc = .error error) :
    fetchDecoded state walker bus =
      (.ok (.trap (.exception (.illegalInstruction (bus.contents.fetched state.pc)))), walker, bus) := by
  have hfetch : Bus.fetch32 bus (state.pc.setWidth 64) = (.ok (bus.contents.fetched state.pc), bus) :=
    FlatMemory.call_eq accessible.aligned accessible.maps
  simp only [fetchDecoded, direct.translate idle, hfetch, undecoded]

end Accessible

/-- The cycle fetches: nothing is in progress, the hart runs, and no interrupt is taken. -/
structure Fetching (core : ReferenceCore) (bus : FlatMemory) : Prop where
  running : core.state.halted = false
  fresh : core.pendingDecoded = none
  untaken : core.state.csrs.pendingInterrupt core.state.privilege = none

variable {w : PageWalker} {b : FlatMemory}

/-- A cycle that fetches an instruction executes it. -/
theorem Fetching.instruction (h : core.Fetching bus)
    (fetch : fetchDecoded core.state core.pageWalker bus = (.ok (.instruction decoded), w, b)) :
    core.executing bus = some decoded ∧ core.instructionStep bus = core.executeStep w b decoded := by
  constructor
  · simp [executing, inProgress, h.running, h.fresh, h.untaken, fetch]
  · simp [instructionStep, interrupt, h.running, h.fresh, h.untaken, fetch]

/-- A cycle that fetches a word with an exception enters its trap. -/
theorem Fetching.trap (h : core.Fetching bus) {trap : Trap}
    (fetch : fetchDecoded core.state core.pageWalker bus = (.ok (.trap trap), w, b)) :
    core.executing bus = none ∧ core.instructionStep bus = (.ok stalledCycle,
      { core with
        state := (applyTrap core.state trap core.state.pc).1, pageWalker := w
        lastResult := (applyTrap core.state trap core.state.pc).2 }, b) := by
  constructor
  · simp [executing, inProgress, h.running, h.fresh, h.untaken, fetch]
  · simp [instructionStep, interrupt, h.running, h.fresh, h.untaken, fetch]

end ReferenceCore

namespace Reference

variable {reference : Reference} {length : Nat}

/-- **A cycle that retires a plain instruction** does what the instruction does. -/
theorem Ready.retires_of (ready : reference.Ready) (h : reference.RetiresPlain) :
    Ready (reference.stepCycle id) ∧ (reference.stepCycle id).bus.mapped = reference.bus.mapped ∧
      (reference.stepCycle id).cpu.lastResult.trap = none ∧
      ∃ x, reference.instruction = some x.decoded ∧
        Retires reference.bus.mapped reference.view x (view (reference.stepCycle id)) := by
  obtain ⟨hany, hanswer⟩ := h
  rcases hinstruction : reference.instruction with _ | decoded
  · rw [hinstruction] at hany
    cases hany
  have hplain : decoded.kind.isPlain = true := by
    rw [hinstruction] at hany
    exact hany
  obtain ⟨w, b, hfetch, hstep⟩ := ReferenceCore.stepCycle_of_executing ready.fresh hinstruction
  have direct : (reference.cpu.begun reference.bus).state.Direct := ready.direct.beginCycle reference.bus
  obtain ⟨haccessible, hdecode, rfl, rfl⟩ :=
    ReferenceCore.fetchDecoded_direct direct ready.idle hfetch
  rw [hstep] at hanswer
  unfold ReferenceCore.executeStep at hanswer hstep
  rcases hexecute : executeDecoded (reference.cpu.begun reference.bus).state reference.cpu.pageWalker
    reference.bus decoded with ⟨error | result, state', w', b'⟩
  · rw [hexecute] at hanswer
    cases hanswer
  rw [hexecute] at hanswer hstep
  have hretired : result.retired = 1 := congrArg CpuCycle.retiredInstructions (Option.some.inj hanswer)
  obtain ⟨x, rfl, hx, haccesses, rfl, rfl, rfl, htrap⟩ :=
    direct.executeDecoded_plain ready.idle hplain hexecute hretired
  have hafter : reference.stepCycle id =
      ⟨(reference.cpu.stepCycle reference.bus).2.1, (reference.cpu.stepCycle reference.bus).2.2⟩ := rfl
  have hcontrol : (reference.cpu.begun reference.bus).state.control = reference.cpu.state.control :=
    control_beginCycle _ _
  rw [hafter, hstep]
  refine ⟨⟨direct, ready.idle, ?_⟩, rfl, htrap, x, rfl, haccessible, hdecode, hplain, hx, haccesses, ?_⟩
  · simp [hretired]
  · rw [ArchState.after, ArchState.mk.injEq]
    exact ⟨rfl, rfl, rfl, hcontrol⟩

/-- A cycle that raises an exception takes no interrupt. -/
theorem RaisesEarly.fetching (h : reference.RaisesEarly) (fresh : reference.cpu.pendingDecoded = none) :
    (reference.cpu.begun reference.bus).Fetching reference.bus := by
  obtain ⟨running, -, -, htrap⟩ := h
  refine ⟨running, fresh, ?_⟩
  have hafter : (reference.stepCycle id).cpu.lastResult =
      ((reference.cpu.begun reference.bus).instructionStep reference.bus).2.1.lastResult := rfl
  rw [hafter] at htrap
  rcases hpending : (reference.cpu.begun reference.bus).state.csrs.pendingInterrupt
    (reference.cpu.begun reference.bus).state.privilege with _ | interrupt
  · rfl
  · have hfresh : (reference.cpu.begun reference.bus).pendingDecoded = none := fresh
    have hidle : Bus.isBusy reference.bus = false := rfl
    unfold ReferenceCore.instructionStep ReferenceCore.interrupt at htrap
    rw [hfresh, hidle, hpending] at htrap
    cases htrap

/-- **A cycle that raises an exception** enters its trap and does nothing else. -/
theorem Ready.raises_of (ready : reference.Ready) (h : reference.RaisesEarly) :
    Ready (reference.stepCycle id) ∧ (reference.stepCycle id).bus.mapped = reference.bus.mapped ∧
      reference.request = none ∧ (∀ decoded, decode reference.view.word reference.view.pc = .ok decoded →
        reference.instruction = some decoded) ∧ ∃ trap, (reference.stepCycle id).cpu.lastResult.trap = some trap ∧
        Raises reference.bus.mapped reference.view trap (view (reference.stepCycle id)) := by
  have fetching := h.fetching ready.fresh
  obtain ⟨-, hfetched, hearly, htrap⟩ := h
  have direct : (reference.cpu.begun reference.bus).state.Direct := ready.direct.beginCycle reference.bus
  have hcontrol : (reference.cpu.begun reference.bus).state.control = reference.cpu.state.control :=
    control_beginCycle _ _
  have accessible : (fetchRequest reference.cpu.state.pc).Accessible reference.bus := by
    unfold fetches at hfetched
    rcases hcall : ((fetchRequest reference.cpu.state.pc).call reference.bus).1 with error | value
    · rw [hcall] at hfetched
      cases hfetched
    · exact FlatMemory.accessible_of_ok hcall
  have hpc : (reference.cpu.begun reference.bus).state.pc = reference.cpu.state.pc := rfl
  have hafter : reference.stepCycle id =
      ⟨((reference.cpu.begun reference.bus).instructionStep reference.bus).2.1,
        ((reference.cpu.begun reference.bus).instructionStep reference.bus).2.2⟩ := rfl
  -- what is left of the hart behind a trap
  have hview (trap : Trap) (pc : U32) (atPc : pc = reference.cpu.state.pc) :
      ArchState.mk reference.cpu.state.registers
        (applyTrap (reference.cpu.begun reference.bus).state trap pc).1.pc reference.bus.contents
        (applyTrap (reference.cpu.begun reference.bus).state trap pc).1.control =
          reference.view.trapped trap := by
    rw [pc_applyTrap, control_applyTrap, hcontrol, atPc]
    rfl
  rcases hdecode : decode (reference.bus.contents.fetched reference.cpu.state.pc) reference.cpu.state.pc with
    error | decoded
  · obtain ⟨hnone, hstep⟩ := fetching.trap
      (ReferenceCore.fetchDecoded_of_undecoded direct ready.idle accessible hdecode)
    rw [hafter, hstep]
    refine ⟨⟨direct.applyTrap _ _, ready.idle, ready.fresh⟩, rfl, ?_, fun decoded h => ?_, _, rfl, accessible,
      .illegal hdecode, hview _ _ rfl⟩
    · unfold request instruction
      rw [hnone]
      rfl
    · cases hdecode.symm.trans h
  · obtain ⟨hsome, hstep⟩ := fetching.instruction
      (ReferenceCore.fetchDecoded_of_decoded direct ready.idle accessible hdecode)
    have huses : ExStage.usesMemory decoded = false := by
      unfold instruction at hearly
      rw [hsome] at hearly
      simpa using hearly
    unfold ReferenceCore.executeStep at hstep
    rw [hafter, hstep] at htrap
    rw [hafter, hstep]
    rcases hexecute : (reference.cpu.begun reference.bus).state.executed decoded with outcome | trap
    · -- what EX lets advance retires
      rw [executeDecoded_of_execute hexecute huses] at htrap
      cases htrap
    · rw [executeDecoded_of_executeTrap hexecute]
      refine ⟨⟨direct.applyTrap _ _, ready.idle, rfl⟩, rfl, ?_, fun decoded' h => ?_, trap, rfl,
        accessible, .executes hdecode ?_, ?_⟩
      · unfold request instruction
        rw [hsome, Option.bind_some]
        exact DecodedInstruction.request_of_usesMemory huses _
      · obtain rfl := Except.ok.inj (hdecode.symm.trans h)
        exact hsome
      · have hsteady := (ExStage.execute_steady decoded _ _ _ _ trap).1 hexecute
        have hprivilege := congrArg Control.privilege hcontrol
        have hcsrs := congrArg Control.csrs hcontrol
        have hprivilege' : (reference.cpu.begun reference.bus).state.privilege =
          reference.view.control.privilege := hprivilege
        have hcsrs' : (reference.cpu.begun reference.bus).state.csrs.steady = reference.view.control.csrs :=
          hcsrs
        rw [hprivilege', hcsrs'] at hsteady
        exact hsteady
      · exact hview trap decoded.pc (decode_pc hdecode).2

/-! ## Whole runs -/

/-- A plain run of the reference core goes on. -/
theorem Plain.ready_after (h : reference.Plain length) {i : Nat} (hi : i ≤ length) :
    (reference.after i).Ready ∧ (reference.after i).bus.mapped = reference.bus.mapped := by
  induction i with
  | zero => exact ⟨h.ready, rfl⟩
  | succ i ih =>
    obtain ⟨ready, hmapped⟩ := ih (by omega)
    obtain ⟨ready', hmapped', -, -⟩ := ready.retires_of (h.retires i (by omega))
    exact ⟨ready', hmapped'.trans hmapped⟩

/-- A straight run of the reference core goes on. -/
theorem Straight.ready_after (h : reference.Straight length) {i : Nat} (hi : i ≤ length) :
    (reference.after i).Ready ∧ (reference.after i).bus.mapped = reference.bus.mapped := by
  induction i with
  | zero => exact ⟨h.ready, rfl⟩
  | succ i ih =>
    obtain ⟨ready, hmapped⟩ := ih (by omega)
    rcases h.steps i (by omega) with retires | raises
    · obtain ⟨ready', hmapped', -, -⟩ := ready.retires_of retires
      exact ⟨ready', hmapped'.trans hmapped⟩
    · obtain ⟨ready', hmapped', -, -, -⟩ := ready.raises_of raises
      exact ⟨ready', hmapped'.trans hmapped⟩

end Reference

/-- The run is that of the reference core over its first `length` cycles. -/
structure PlainRun.Describes (run : PlainRun) (reference : Reference) (length : Nat) : Prop where
  mapped : run.mapped = reference.bus.mapped
  length : run.length = length
  state : ∀ i, run.state i = (reference.after i).view
  retiring : ∀ i < run.length, run.retiring i = decide (reference.after i).RetiresPlain
  instruction : ∀ i < run.length, run.retiring i = true →
    (reference.after i).instruction = some (run.payload i).decoded ∧
      (reference.after (i + 1)).cpu.lastResult.trap = none
  trap : ∀ i < run.length, run.retiring i = false → (reference.after i).request = none ∧
    (reference.after (i + 1)).cpu.lastResult.trap = some (run.trap i)

namespace PlainRun.Describes

variable {run : PlainRun} {reference : Reference} {length : Nat}

/-- The run retires what the reference core retires. -/
theorem retired (h : run.Describes reference length) {i : Nat} (hi : i ≤ run.length) :
    reference.retired i = run.retired i := by
  induction i with
  | zero => rfl
  | succ i ih =>
    have hlt : i < run.length := hi
    rw [Reference.retired, Nat.count_succ, ← Reference.retired, ih (Nat.le_of_lt hlt), retired_succ,
      h.retiring i hlt]
    split <;> simp [*]

/-- The run enters the traps that the reference core enters. -/
theorem entries (h : run.Describes reference length) {i : Nat} (hi : i ≤ run.length) :
    reference.entries i = run.entries i := by
  unfold Reference.entries PlainRun.entries
  apply List.filterMap_congr
  intro j hj
  have hlt : j < run.length := Nat.lt_of_lt_of_le (List.mem_range.1 hj) hi
  unfold Reference.entered
  cases hretiring : run.retiring j with
  | true =>
    rw [(h.instruction j hlt hretiring).2]
    rfl
  | false =>
    rw [(h.trap j hlt hretiring).2, entry, h.state]
    rfl

/-- The run makes the accesses that the reference core makes. -/
theorem requests (h : run.Describes reference length) {i : Nat} (hi : i ≤ run.length) :
    (List.range i).filterMap (fun j => (reference.after j).request) =
      (List.range (run.retired i)).filterMap fun k => (run.item k).request := by
  rw [← requests_retired]
  apply List.filterMap_congr
  intro j hj
  have hlt : j < run.length := Nat.lt_of_lt_of_le (List.mem_range.1 hj) hi
  cases hretiring : run.retiring j with
  | true =>
    have hexecuted := (run.retires j hlt hretiring).executed
    rw [h.state] at hexecuted
    rw [Reference.request, (h.instruction j hlt hretiring).1, if_pos rfl, hexecuted.request_eq]
    rfl
  | false => exact (h.trap j hlt hretiring).1

end PlainRun.Describes

namespace Reference

variable {reference : Reference} {length : Nat}

/-- What the reference core does in a cycle of a straight run. -/
theorem Straight.exists_step (h : reference.Straight length) (i : Nat) :
    ∃ (x : ExMemPayload) (trap : Trap), i < length →
      ((reference.after i).RetiresPlain → (reference.after i).instruction = some x.decoded ∧
        (reference.after (i + 1)).cpu.lastResult.trap = none ∧
        Retires reference.bus.mapped (reference.after i).view x (reference.after (i + 1)).view) ∧
      (¬ (reference.after i).RetiresPlain → (reference.after i).request = none ∧
        (reference.after (i + 1)).cpu.lastResult.trap = some trap ∧
        Raises reference.bus.mapped (reference.after i).view trap (reference.after (i + 1)).view) ∧
      ∀ decoded, decode (reference.after i).view.word (reference.after i).view.pc = .ok decoded →
        (reference.after i).instruction = some decoded := by
  let nothing : ExMemPayload := .of ⟨0, 0, .lui, none, none, none, 0, none⟩ { nextPc := 0 }
  by_cases hi : i < length
  · obtain ⟨ready, hmapped⟩ := h.ready_after (Nat.le_of_lt hi)
    by_cases hplain : (reference.after i).RetiresPlain
    · obtain ⟨-, -, htrap, x, hinstruction, hx⟩ := ready.retires_of hplain
      rw [hmapped] at hx
      refine ⟨x, .exception .breakpoint, fun _ => ⟨fun _ => ⟨hinstruction, htrap, hx⟩,
        fun hnot => absurd hplain hnot, fun decoded hdecode => ?_⟩⟩
      obtain rfl := Except.ok.inj (hx.decoded.symm.trans hdecode)
      exact hinstruction
    · obtain ⟨-, -, hrequest, hinstruction, trap, htrap, hx⟩ :=
        ready.raises_of ((h.steps i hi).resolve_left hplain)
      rw [hmapped] at hx
      exact ⟨nothing, trap, fun _ => ⟨fun hyes => absurd hyes hplain,
        fun _ => ⟨hrequest, htrap, hx⟩, hinstruction⟩⟩
  · exact ⟨nothing, .exception .breakpoint, fun hlt => absurd hlt hi⟩

/-- **A straight run of the reference core** is a run of plain instructions and exceptions. -/
theorem Straight.exists_run (h : reference.Straight length) :
    ∃ run : PlainRun, run.Describes reference length := by
  choose payload trap hstep using h.exists_step
  let retiring (i : Nat) : Bool := if i < length then decide (reference.after i).RetiresPlain else true
  have hretiring (i : Nat) (hi : i < length) : retiring i = decide (reference.after i).RetiresPlain :=
    if_pos hi
  have hyes (i : Nat) (hi : i < length) (hretires : retiring i = true) :
      (reference.after i).RetiresPlain := by
    rw [hretiring i hi] at hretires
    exact of_decide_eq_true hretires
  have hno (i : Nat) (hi : i < length) (hretires : retiring i = false) :
      ¬ (reference.after i).RetiresPlain := by
    rw [hretiring i hi] at hretires
    exact of_decide_eq_false hretires
  refine ⟨{ mapped := reference.bus.mapped, length, state := fun i => (reference.after i).view, retiring
            payload, trap
            retires := fun i hi hretires => ((hstep i hi).1 (hyes i hi hretires)).2.2
            raises := fun i hi hretires => ((hstep i hi).2.1 (hno i hi hretires)).2.2
            endless := fun i hi => if_neg (Nat.not_lt.2 hi)
            predicted := fun i hi decoded hdecode target htarget contents => ?_
            stable := fun i j hij hnear hj => h.stable j hj i hij hnear }, ?_⟩
  · have hpredicted := h.predicted i hi
    rw [(hstep i hi).2.2 decoded hdecode, Option.all_some, List.all_eq_true] at hpredicted
    have hok := hpredicted target htarget
    unfold fetches at hok
    rcases hcall : ((fetchRequest target).call reference.bus).1 with error | value
    · rw [hcall] at hok
      cases hok
    · obtain ⟨aligned, maps⟩ := FlatMemory.accessible_of_ok hcall
      exact ⟨aligned, maps⟩
  · exact
      { mapped := rfl
        length := rfl
        state := fun _ => rfl
        retiring := hretiring
        instruction := fun i hi hretires =>
          ⟨((hstep i hi).1 (hyes i hi hretires)).1, ((hstep i hi).1 (hyes i hi hretires)).2.1⟩
        trap := fun i hi hretires =>
          ⟨((hstep i hi).2.1 (hno i hi hretires)).1, ((hstep i hi).2.1 (hno i hi hretires)).2.1⟩ }

end Reference

end RvSim
