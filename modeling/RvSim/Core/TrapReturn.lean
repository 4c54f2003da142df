import RvSim.System.TestBus

/-!
# Fetching behind a return from a trap

EX computes where an `mret` or `sret` returns to, but the privilege mode and `mstatus` change only
in write-back, two cycles later. In between the front end is flushed if the return address is not
the predicted pc, and is not stopped otherwise; in either case IF fetches in the cycle in which the
return is in EX/MEM, in the mode that is about to end.

## Main definitions

* `HartState.context`: the mode and status an instruction is fetched, decoded and executed with
* `ReturnInstalls`: what is younger than a return is handled in the context it installs
* `ReturnGuarded`: the return address was not predicted, and no fetch completes before write-back

## Main results

* `returnFromTrap_context_ne`: a return never installs the context it was executed in
* `returnInstalls_run`: in a run whose returns are guarded every return installs its context in time
-/

namespace RvSim

/-- The mode and the status word in force. -/
def HartState.context (state : HartState) : PrivilegeMode × U32 :=
  (state.privilege, state.csrs.machine.mstatus)

/-- The context that a return of this kind installs. -/
def HartState.returned (state : HartState) : InstructionKind → PrivilegeMode × U32
  | .system kind => (returnFromTrap state kind).1.context
  | _ => state.context

/-! ## A return changes the context -/

/-- An `mret` clears `MPP`; an `sret` clears `SPP`. So a return that stays in its mode, which the
cleared field has named, changes the field. -/
theorem returnFromTrap_context_ne (state : HartState) (kind : SystemKind)
    (hkind : kind = .mret ∧ state.privilege = .machine ∨
      kind = .sret ∧ state.privilege = .supervisor) :
    (returnFromTrap state kind).1.context ≠ state.context := by
  intro hsame
  have hprivilege : _ = state.privilege := congrArg Prod.fst hsame
  have hstatus : _ = state.csrs.machine.mstatus := congrArg Prod.snd hsame
  rcases hkind with ⟨rfl, hmode⟩ | ⟨rfl, hmode⟩
  · have hcleared : state.csrs.machine.mstatus &&& mstatusMppMask = 0 := by
      rw [← hstatus]
      exact clear_and_self _ _
    rw [hmode] at hprivilege
    simp [HartState.context, returnFromTrap, CsrFile.returnFromMachineTrap, hcleared,
      privilegeFromBits] at hprivilege
  · have hcleared : state.csrs.machine.mstatus &&& mstatusSpp = 0 := by
      rw [← hstatus]
      exact clear_and_self _ _
    rw [hmode] at hprivilege
    simp [HartState.context, returnFromTrap, CsrFile.returnFromSupervisorTrap, hcleared]
      at hprivilege

/-! ## What is younger than a return -/

variable {β : Type} [Bus β]

def FetchEvent.completes : FetchEvent → Bool
  | .stall => false
  | _ => true

namespace PipelineCore

/-- The contexts in which ID decodes and IF completes a fetch in a cycle. -/
def frontContexts (core : PipelineCore) (bus : β) : List (PrivilegeMode × U32) :=
  let context := (core.written bus).state.context
  ((core.decodeCall bus).map fun _ => context).toList
    ++ if (core.fetchAnswer bus).any (·.completes) then [context] else []

/-- The return that EX lets advance in a cycle. -/
def executedReturn (core : PipelineCore) (bus : β) : Option (IdExPayload × ExecuteOutcome) :=
  (core.executed bus).filter (·.1.decoded.kind.isXret)

end PipelineCore

/-- **A return installs its context before anything younger runs**: what ID decodes and IF fetches
while EX lets the return advance, and also what EX executes while the return is in EX/MEM, is
handled in the context the return installs; and the return retires with nothing behind it, so that
all later instructions are fetched in the context it has installed. -/
structure PipelineCore.InstallsReturns (core : PipelineCore) (bus : β) : Prop where
  execute : ∀ r ∈ core.executedReturn bus, ∀ context ∈ core.frontContexts bus,
    context = (core.written bus).state.returned r.1.decoded.kind
  memory : ∀ x ∈ core.latches.exMem, x.decoded.kind.isXret = true →
    (∀ call ∈ (core.executeCall bus).map fun _ => (core.written bus).state.context,
      call = (core.written bus).state.returned x.decoded.kind) ∧
    ∀ context ∈ core.frontContexts bus,
      context = (core.written bus).state.returned x.decoded.kind
  writeBack : ∀ q ∈ core.latches.memWb, q.decoded.kind.isXret = true →
    core.latches = { memWb := some q }

/-- The context of every return is in force for what is younger. -/
def ReturnInstalls (machine : Machine PipelineCore β) (tick : β → β) : Prop :=
  (machine.cpu.begun (tick machine.bus)).InstallsReturns (tick machine.bus)

/-- A return that EX lets advance was not predicted, or nothing has been fetched behind it; and no
fetch completes before its write-back. -/
structure PipelineCore.GuardsReturns (core : PipelineCore) (bus : β) : Prop where
  execute : ∀ r ∈ core.executedReturn bus, r.1.predictedPc ≠ r.2.nextPc ∨
    core.latches.ifId = none ∧ (core.fetchAnswer bus).any (·.completes) = false
  memory : ∀ x ∈ core.latches.exMem, x.decoded.kind.isXret = true →
    (core.fetchAnswer bus).any (·.completes) = false

/-- Every return of the cycle is guarded. -/
def ReturnGuarded (machine : Machine PipelineCore β) (tick : β → β) : Prop :=
  (machine.cpu.begun (tick machine.bus)).GuardsReturns (tick machine.bus)

instance (core : PipelineCore) (bus : β) : Decidable (core.InstallsReturns bus) :=
  decidable_of_iff (_ ∧ _ ∧ _) ⟨fun ⟨h, h', h''⟩ => ⟨h, h', h''⟩, fun ⟨h, h', h''⟩ => ⟨h, h', h''⟩⟩

instance (core : PipelineCore) (bus : β) : Decidable (core.GuardsReturns bus) :=
  decidable_of_iff (_ ∧ _) ⟨fun ⟨h, h'⟩ => ⟨h, h'⟩, fun ⟨h, h'⟩ => ⟨h, h'⟩⟩

instance (machine : Machine PipelineCore β) (tick : β → β) :
    Decidable (ReturnInstalls machine tick) :=
  inferInstanceAs (Decidable (PipelineCore.InstallsReturns _ _))

instance (machine : Machine PipelineCore β) (tick : β → β) :
    Decidable (ReturnGuarded machine tick) :=
  inferInstanceAs (Decidable (PipelineCore.GuardsReturns _ _))

/-! ## The invariant -/

/-- Nothing is behind a return that EX has let advance. -/
structure ReturnInvariant (core : PipelineCore) : Prop where
  exMem : ∀ x, core.latches.exMem = some x → x.decoded.kind.isXret = true →
    core.latches.idEx = none ∧ core.latches.ifId = none
  memWb : ∀ q, core.latches.memWb = some q → q.decoded.kind.isXret = true →
    core.latches = { memWb := some q }

theorem PipelineCore.Boot.returnInvariant {core : PipelineCore} (boot : core.Boot) :
    ReturnInvariant core := by
  constructor
  all_goals simp [boot.latches]

section Step

variable {core : PipelineCore} {bus : β} {l : StepLocals β}

theorem PipelineCore.decodeCall_of_ifId (h : core.latches.ifId = none) :
    core.decodeCall bus = none := by
  unfold decodeCall
  rw [h]
  split
  · rfl
  · split
    · exact ite_self _
    · rfl

theorem PipelineCore.executeCall_of_idEx (h : core.latches.idEx = none) :
    core.executeCall bus = none := by
  rcases hcall : core.executeCall bus with _ | ⟨p, rs1Value, rs2Value⟩
  · rfl
  · obtain ⟨-, -, -, -, hlatch, -, -⟩ := executeCall_eq_some_iff.mp hcall
    cases h.symm.trans hlatch

theorem PipelineCore.executedReturn_eq_some {p : IdExPayload} {outcome : ExecuteOutcome} :
    core.executedReturn bus = some (p, outcome) ↔
      core.executed bus = some (p, outcome) ∧ p.decoded.kind.isXret = true :=
  Option.filter_eq_some_iff

/-- EX lets a return advance only in the mode it returns from. -/
theorem returned_ne_context {state : HartState} {decoded : DecodedInstruction}
    {rs1Value rs2Value : U32} {outcome : ExecuteOutcome} (hxret : decoded.kind.isXret = true)
    (hexecute : ExStage.execute decoded rs1Value rs2Value state.privilege state.csrs =
      .advance outcome) : state.returned decoded.kind ≠ state.context := by
  unfold InstructionKind.isXret at hxret
  split at hxret
  · next hk =>
    simp only [ExStage.execute, hk] at hexecute
    split at hexecute
    · cases hexecute
    · next hmode =>
      rw [hk]
      exact returnFromTrap_context_ne state .mret (.inl ⟨rfl, not_not.mp hmode⟩)
  · next hk =>
    simp only [ExStage.execute, hk] at hexecute
    split at hexecute
    · cases hexecute
    · next hmode =>
      rw [hk]
      exact returnFromTrap_context_ne state .sret
        (.inr ⟨rfl, not_not.mp fun h => hmode (.inl h)⟩)
  · cases hxret

/-- So a return is handled in time only if the front end stands still behind it. -/
theorem PipelineCore.InstallsReturns.frontContexts_eq_nil (installs : core.InstallsReturns bus)
    {p : IdExPayload} {outcome : ExecuteOutcome}
    (hreturn : core.executedReturn bus = some (p, outcome)) : core.frontContexts bus = [] := by
  obtain ⟨hexecuted, hxret⟩ := executedReturn_eq_some.mp hreturn
  obtain ⟨_, _, -, hexecute⟩ := executed_eq_some_iff.mp hexecuted
  by_contra hne
  obtain ⟨context, hcontext⟩ := List.exists_mem_of_ne_nil _ hne
  have hlive : context = (core.written bus).state.context := by
    simp only [frontContexts, List.mem_append, Option.mem_toList, Option.map_eq_some_iff] at hcontext
    rcases hcontext with ⟨_, -, rfl⟩ | hcontext
    · rfl
    · split at hcontext
      · exact List.mem_singleton.mp hcontext
      · cases hcontext
  exact returned_ne_context hxret hexecute
    ((installs.execute _ hreturn context hcontext).symm.trans hlive)

/-- Without a word to decode and without a completed fetch the front end uses no context. -/
theorem PipelineCore.frontContexts_eq_nil (hdecode : core.decodeCall bus = none)
    (hfetch : (core.fetchAnswer bus).any (·.completes) = false) :
    core.frontContexts bus = [] := by
  simp [frontContexts, hdecode, hfetch]

/-- In a state with the invariant, guarded returns install their context in time. -/
theorem ReturnInvariant.installs (inv : ReturnInvariant core) (guarded : core.GuardsReturns bus) :
    core.InstallsReturns bus := by
  refine ⟨?_, ?_, fun q hq => inv.memWb q hq⟩
  · rintro ⟨p, outcome⟩ hreturn context hcontext
    obtain ⟨hexecuted, -⟩ := PipelineCore.executedReturn_eq_some.mp hreturn
    obtain ⟨_, _, hcall, hexecute⟩ := PipelineCore.executed_eq_some_iff.mp hexecuted
    have hnil : core.frontContexts bus = [] := by
      rcases guarded.execute _ hreturn with hpredicted | ⟨hlatch, hfetch⟩
      · have hflush : detectBranchFlush p.predictedPc outcome.nextPc = true := by
          simpa [detectBranchFlush] using hpredicted
        obtain ⟨hdecode, hfetch⟩ := PipelineCore.frontEnd_of_redirect hcall hexecute hflush
        exact PipelineCore.frontContexts_eq_nil hdecode (by rw [hfetch]; rfl)
      · exact PipelineCore.frontContexts_eq_nil (PipelineCore.decodeCall_of_ifId hlatch) hfetch
    rw [hnil] at hcontext
    cases hcontext
  · intro x hx hxret
    obtain ⟨hidEx, hifId⟩ := inv.exMem x hx hxret
    rw [PipelineCore.executeCall_of_idEx hidEx, PipelineCore.frontContexts_eq_nil
      (PipelineCore.decodeCall_of_ifId hifId) (guarded.memory x hx hxret)]
    simp

/-- A return does not wait in MEM. -/
theorem not_usesMemory_of_isXret {decoded : DecodedInstruction}
    (h : decoded.kind.isXret = true) : ExStage.usesMemory decoded = false := by
  unfold InstructionKind.isXret at h
  split at h
  · next hk => simp [ExStage.usesMemory, hk]
  · next hk => simp [ExStage.usesMemory, hk]
  · cases h

/-- Nothing is fetched in a cycle in which no fetch completes. -/
theorem RunningCycle.ifId_of_not_completes (running : core.state.halted = false)
    (cycle : RunningCycle core bus l) (hlatch : core.latches.ifId = none)
    (hfetch : (core.fetchAnswer bus).any (·.completes) = false) : l.next.ifId = none := by
  rcases cycle.ifId_cases running with ⟨_, -, h⟩ | h | ⟨h, -⟩ | ⟨payload, hanswer, -⟩
  · rw [h]
    exact hlatch
  · exact h
  · rw [h, hlatch]
  · simp [hanswer, FetchEvent.completes] at hfetch

/-- Without a word in IF/ID nothing comes to ID/EX. -/
theorem RunningCycle.idEx_of_ifId (running : core.state.halted = false)
    (cycle : RunningCycle core bus l) (hlatch : core.latches.ifId = none)
    (hwaits : ∀ x, core.memoryAnswer bus ≠ some (.stall x))
    (hheld : l.next.exMem = none → core.latches.idEx = none) : l.next.idEx = none := by
  rcases cycle.idEx_cases running with ⟨x, h, -⟩ | ⟨-, h, hexMem⟩ | h | ⟨p, d, -, h, -⟩
  · exact absurd h (hwaits x)
  · rw [h]
    exact hheld hexMem
  · exact h
  · cases hlatch.symm.trans h

/-- A running cycle with guarded returns keeps the invariant. -/
theorem ReturnInvariant.running (inv : ReturnInvariant core) (guarded : core.GuardsReturns bus)
    (running : core.state.halted = false) (cycle : RunningCycle core bus l) :
    ReturnInvariant (core.finishCycle l).2.1 := by
  -- a return in EX/MEM does not wait there
  have hwaits : ∀ x, core.latches.exMem = some x → x.decoded.kind.isXret = true →
      ∀ y, core.memoryAnswer bus ≠ some (.stall y) := by
    intro x hx hxret y hstall
    have huses := PipelineCore.usesMemory_of_stall hstall hx
    rw [not_usesMemory_of_isXret hxret] at huses
    cases huses
  refine ⟨fun x hx hxret => ?exMem, fun q hq hxret => ?memWb⟩
  case exMem =>
    rcases cycle.exMem_cases running with
      ⟨y, hstall, hkept⟩ | hnone | ⟨p, _, _, outcome, hcall, hexecute, hx'⟩
    · have hlatch : core.latches.exMem = some x := by simpa [hkept] using hx
      exact absurd hstall (hwaits x hlatch hxret y)
    · cases hnone.symm.trans hx
    · obtain rfl := Option.some.inj (hx'.symm.trans hx)
      have hreturn := PipelineCore.executedReturn_eq_some.mpr
        ⟨PipelineCore.executed_eq_some_iff.mpr ⟨_, _, hcall, hexecute⟩, hxret⟩
      rcases guarded.execute _ hreturn with hpredicted | ⟨hlatch, hfetch⟩
      · have hflush : detectBranchFlush p.predictedPc outcome.nextPc = true := by
          simpa [detectBranchFlush] using hpredicted
        obtain ⟨w, b, rfl⟩ := cycle.of_redirect hcall hexecute hflush
        exact ⟨rfl, rfl⟩
      · refine ⟨cycle.idEx_of_ifId running hlatch
          (PipelineCore.memoryAnswer_of_executeCall hcall) fun hnone => ?_,
          cycle.ifId_of_not_completes running hlatch hfetch⟩
        cases hnone.symm.trans hx'
  case memWb =>
    obtain ⟨x, hx, hadvance⟩ := cycle.memWb_decoded running hq
    have hdecoded : x.decoded.kind.isXret = true := by
      rw [hadvance] at hxret
      exact hxret
    obtain ⟨hidEx, hifId⟩ := inv.exMem x hx hdecoded
    have hexMem : l.next.exMem = none := by
      rcases cycle.exMem_cases running with ⟨y, hstall, -⟩ | hnone | ⟨_, _, _, _, hcall, -⟩
      · exact absurd hstall (hwaits x hx hdecoded y)
      · exact hnone
      · rw [PipelineCore.executeCall_of_idEx hidEx] at hcall
        cases hcall
    have hidEx' := cycle.idEx_of_ifId running hifId (hwaits x hx hdecoded) fun _ => hidEx
    have hifId' := cycle.ifId_of_not_completes running hifId (guarded.memory x hx hdecoded)
    show l.next = _
    have hq' : l.next.memWb = some q := hq
    generalize l.next = next at hexMem hidEx' hifId' hq'
    obtain ⟨ifId, idEx, exMem, memWb⟩ := next
    subst hexMem hidEx' hifId' hq'
    rfl

end Step

variable {machine : Machine PipelineCore β} {tick : β → β}

/-- **Every cycle whose returns are guarded keeps the invariant.** -/
theorem returnInvariant_step (inv : ReturnInvariant machine.cpu)
    (guarded : ReturnGuarded machine tick) : ReturnInvariant (machine.stepCycle tick).cpu := by
  have inv' : ReturnInvariant (machine.cpu.begun (tick machine.bus)) := ⟨inv.exMem, inv.memWb⟩
  have cycle := machine.stepCycle_cases tick
  generalize machine.stepCycle tick = machine' at cycle ⊢
  obtain ⟨core', bus'⟩ := machine'
  cases cycle with
  | wake =>
    constructor
    all_goals simp
  | wait => exact ⟨inv.exMem, inv.memWb⟩
  | running running cycle => exact inv'.running guarded running cycle

/-- **Every return installs its context in time**, in every run whose returns are guarded. -/
theorem returnInstalls_run (boot : machine.cpu.Boot) {ticks : List (β → β)}
    (h : Automata.Along Machine.stepCycle ReturnGuarded machine ticks) :
    Automata.Along Machine.stepCycle ReturnInstalls machine ticks :=
  h.of_invariant (I := fun m => ReturnInvariant m.cpu) boot.returnInvariant
    fun m tick inv guarded =>
      have hbegun : ReturnInvariant (m.cpu.begun (tick m.bus)) := ⟨inv.exMem, inv.memWb⟩
      ⟨hbegun.installs guarded, returnInvariant_step inv guarded⟩

/-- An `mret` to user mode at address 8, with a jump to itself there. -/
def returnProgram : TestBus :=
  .ofWords [0x30200073, 0x00000013, 0x0000006f]

/-- The return address is not the predicted one, and the bus keeps the next fetch busy. -/
theorem returnInstalls_run_redirected :
    Automata.Along Machine.stepCycle ReturnInstalls
      (Machine.boot (fun state => { state with csrs := state.csrs.write .mepc 8 }) returnProgram)
      ([id, id, id, TestBus.setFetchBusy true, TestBus.setFetchBusy false] ++
        List.replicate 4 id) :=
  returnInstalls_run (Machine.boot_boot _ _) (by decide +kernel)

/-! ## A return to the next instruction -/

/-- `mret` to the instruction behind it in user mode, which reads `mtvec` into `x1`. -/
def escalationRun : Machine PipelineCore TestBus :=
  .boot (fun state => { state with csrs := (state.csrs.write .mepc 4).write .mtvec 64 })
    (.ofWords [0x30200073, 0x305020f3, 0x0000006f])

/-- **Machine privilege outlives the return**: the return address is the predicted one, so nothing
is flushed, and the CSR instruction that is to run in user mode passes its checks in machine mode.
The hart is in user mode and holds the value of `mtvec`; in the reference core the instruction
traps. -/
theorem return_keeps_privilege :
    escalationRun.cpu.Boot ∧
      ¬ Automata.Along Machine.stepCycle ReturnInstalls escalationRun (List.replicate 6 id) ∧
      (escalationRun.runCycles (List.replicate 6 id)).cpu.state.privilege = .user ∧
      (escalationRun.runCycles (List.replicate 6 id)).cpu.state.registers.read 1 = 64 ∧
      (({ cpu := { ReferenceCore.new 0 with state := escalationRun.cpu.state },
          bus := escalationRun.bus } : Machine _ _).runCycles
        (List.replicate 6 id)).cpu.state.registers.read 1 = 0 :=
  ⟨Machine.boot_boot _ _, by decide +kernel, by decide +kernel, by decide +kernel,
    by decide +kernel⟩

end RvSim
