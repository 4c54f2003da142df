import RvSim.Core.ProgramOrder
import RvSim.Core.Serialization

/-!
# Traps that overtake older instructions

A trap is entered in the stage that detects it. The instructions then left in the latches are older
than the trap and retire after its entry: each of them still sets the pc of the hart. `TrapOrder` is
kept beside the core to tell these instructions from those fetched after the entry.

## Main definitions

* `TrapOrder`: how many instructions in flight the last trap has overtaken, and the mode of the rest
* `TrapOrder.next`: what a cycle does to it
* `OrderInvariant`: the instructions that no trap has overtaken are a path to the front end

## Main results

* `OrderInvariant.step`: every cycle in which no overtaken instruction returns or redirects keeps it
-/

namespace RvSim

open Automata (Leads)

/-- Program order beside a core. -/
structure TrapOrder where
  /-- How many instructions in flight are older than the last trap entry: the oldest ones. -/
  overtaken : Nat
  /-- Such an instruction was the last to set the pc. -/
  stale : Bool
  /-- The mode these run in. -/
  older : PrivilegeMode
  /-- The mode the oldest of the other instructions is to run in. -/
  mode : PrivilegeMode
  deriving DecidableEq

namespace TrapOrder

def start (core : PipelineCore) : TrapOrder :=
  { overtaken := 0, stale := false, older := core.state.privilege, mode := core.state.privilege }

section Next

variable {β : Type} [Bus β]

/-- The order after write-back: only a return that is not overtaken changes the mode. -/
def retire (order : TrapOrder) (core : PipelineCore) (bus : β) : TrapOrder :=
  if core.state.halted then order
  else
    match core.latches.memWb with
    | none => order
    | some q =>
      if order.overtaken = 0 then
        { order with
          stale := false
          mode := if q.decoded.kind.isXret then (core.written bus).state.privilege
            else order.mode }
      else { order with overtaken := order.overtaken - 1, stale := true }

/-- EX redirects an instruction that a trap has overtaken. -/
def redirects (order : TrapOrder) (core : PipelineCore) (bus : β) : Bool :=
  (core.executed bus).any fun (p, outcome) =>
    (isTranslationBarrierPayload p.decoded outcome.csrWrite
      || detectBranchFlush p.predictedPc outcome.nextPc)
    && decide (core.latches.exMem.toList.length < order.overtaken)

/-- The order after a cycle from `core` to `core'`. A trap overtakes all that is left in the latches;
if one of these instructions redirects, fetch goes on behind it and not in the trap. -/
def next (order : TrapOrder) (core : PipelineCore) (bus : β) (core' : PipelineCore) : TrapOrder :=
  let order := order.retire core bus
  if core'.lastResult.trap.isSome then
    { overtaken := core'.latches.flow.length
      stale := false
      older := if order.overtaken = 0 then order.mode else order.older
      mode := core'.state.privilege }
  else if order.redirects core bus then
    { order with overtaken := core'.latches.flow.length, mode := order.older }
  else order

/-- In this cycle no overtaken instruction returns from a trap or redirects. -/
structure Kept (order : TrapOrder) (core : PipelineCore) (bus : β) : Prop where
  returns : core.state.halted = false → ∀ q ∈ core.latches.memWb,
    q.decoded.kind.isXret = true → order.overtaken = 0
  redirects : (order.retire core bus).redirects core bus = false

instance (order : TrapOrder) (core : PipelineCore) (bus : β) : Decidable (order.Kept core bus) :=
  decidable_of_iff (_ ∧ _) ⟨fun ⟨h, h'⟩ => ⟨h, h'⟩, fun ⟨h, h'⟩ => ⟨h, h'⟩⟩

end Next

end TrapOrder

/-! ## Returns -/

/-- Where a return of this kind goes. -/
def HartState.returnPc (state : HartState) : InstructionKind → U32
  | .system .sret => state.csrs.supervisor.sepc
  | _ => state.csrs.machine.mepc

/-- EX sends a return where it goes. -/
theorem ExStage.execute_returnPc {state : HartState} {decoded : DecodedInstruction}
    {rs1Value rs2Value : U32} {outcome : ExecuteOutcome} (hxret : decoded.kind.isXret = true)
    (h : ExStage.execute decoded rs1Value rs2Value state.privilege state.csrs =
      .advance outcome) : outcome.nextPc = state.returnPc decoded.kind := by
  unfold InstructionKind.isXret at hxret
  split at hxret
  · next hk =>
    simp only [ExStage.execute, hk] at h
    split at h
    · cases h
    · rw [hk, ← ExecuteEvent.advance.inj h]
      rfl
  · next hk =>
    simp only [ExStage.execute, hk] at h
    split at h
    · cases h
    · rw [hk, ← ExecuteEvent.advance.inj h]
      rfl
  · cases hxret

/-- Write-back of a return goes where the return goes; of another payload, to its next pc. -/
theorem WbStage.writeBack_pc (state : HartState) (walker : PageWalker) (q : MemWbPayload) :
    (WbStage.writeBack state walker q).2.1.pc =
      if q.decoded.kind.isXret then state.returnPc q.decoded.kind else q.nextPc := by
  unfold WbStage.writeBack
  split
  · next hk => rw [hk]; rfl
  · next hk => rw [hk]; rfl
  · next hmret hsret =>
    have hxret : q.decoded.kind.isXret = false := by
      unfold InstructionKind.isXret
      split
      · next hk => exact absurd hk hmret
      · next hk => exact absurd hk hsret
      · rfl
    rw [hxret]
    rfl

/-- Only a return changes the mode in write-back. -/
theorem WbStage.writeBack_privilege (state : HartState) (walker : PageWalker) {q : MemWbPayload}
    (h : q.decoded.kind.isXret = false) :
    (WbStage.writeBack state walker q).2.1.privilege = state.privilege := by
  unfold WbStage.writeBack
  split
  · next hk => simp [hk, InstructionKind.isXret] at h
  · next hk => simp [hk, InstructionKind.isXret] at h
  · rfl

/-- Without a CSR write, write-back leaves the return addresses alone. -/
theorem WbStage.writeBack_returnPc (state : HartState) (walker : PageWalker) {q : MemWbPayload}
    (h : q.csrWrite = none) (kind : InstructionKind) :
    (WbStage.writeBack state walker q).2.1.returnPc kind = state.returnPc kind := by
  unfold WbStage.writeBack
  split
  · unfold HartState.returnPc
    split <;> rfl
  · unfold HartState.returnPc
    split <;> rfl
  · rw [h]
    rfl

theorem begun_returnPc {β : Type} [Bus β] (core : PipelineCore) (bus : β)
    (kind : InstructionKind) :
    (core.begun bus).state.returnPc kind = core.state.returnPc kind := by
  simp only [PipelineCore.begun, beginCycle, HartState.returnPc]
  split <;> split <;> rfl

/-! ## The invariant -/

/-- Between two cycles the instructions that no trap has overtaken lead to the front end: from the
pc of the hart, if none is overtaken and none was the last to set it. A return that is not overtaken
still goes where EX has said. -/
structure OrderInvariant (core : PipelineCore) (order : TrapOrder) : Prop where
  serialized : Serialized core
  bound : order.overtaken ≤ core.latches.flow.length
  path : ∃ start, Leads start (core.latches.flow.drop order.overtaken) core.frontEndPc ∧
    (order.overtaken = 0 → order.stale = false → start = core.state.pc)
  mode : core.state.privilege = order.mode
  exMem : order.overtaken ≤ core.latches.memWb.toList.length → ∀ x, core.latches.exMem = some x →
    x.decoded.kind.isXret = true → x.nextPc = core.state.returnPc x.decoded.kind
  memWb : order.overtaken = 0 → ∀ q, core.latches.memWb = some q →
    q.decoded.kind.isXret = true → q.nextPc = core.state.returnPc q.decoded.kind

theorem PipelineCore.Boot.orderInvariant {core : PipelineCore} (boot : core.Boot) :
    OrderInvariant core (.start core) where
  serialized := .of_latches boot.latches
  bound := Nat.zero_le _
  path := by
    refine ⟨core.state.pc, ?_, fun _ _ => rfl⟩
    rw [boot.latches, boot.frontEndPc]
    rfl
  mode := rfl
  exMem := by simp [boot.latches]
  memWb := by simp [boot.latches]

namespace OrderInvariant

variable {β : Type} [Bus β] {core : PipelineCore} {bus : β} {l : StepLocals β}
  {order : TrapOrder}

variable (bus) in
omit [Bus β] in
/-- The order after write-back counts the instructions behind MEM/WB. -/
theorem retire_bound (inv : OrderInvariant core order) (running : core.state.halted = false) :
    (order.retire core bus).overtaken ≤ core.latches.laterFlow.length := by
  have hbound := inv.bound
  unfold TrapOrder.retire
  rw [if_neg (by simp [running])]
  rcases hm : core.latches.memWb with _ | q
  · simpa [PipelineLatches.flow, hm] using hbound
  · simp only [PipelineLatches.flow, hm, Option.map_some, Option.toList_some, List.length_append,
      List.length_singleton] at hbound
    dsimp only
    split
    · next h => exact h.le.trans (Nat.zero_le _)
    · dsimp only
      omega

variable (bus) in
omit [Bus β] in
/-- Behind MEM/WB, too, the instructions that no trap has overtaken lead to the front end, from the
pc that write-back sets. -/
theorem retire_path (inv : OrderInvariant core order) (running : core.state.halted = false) :
    ∃ start, Leads start (core.latches.laterFlow.drop (order.retire core bus).overtaken)
        core.frontEndPc ∧
      ((order.retire core bus).overtaken = 0 → (order.retire core bus).stale = false →
        start = (core.written bus).state.pc) := by
  obtain ⟨start, hpath, hstart⟩ := inv.path
  unfold TrapOrder.retire
  rw [if_neg (by simp [running]), core.written_state]
  rcases hm : core.latches.memWb with _ | q
  · refine ⟨start, ?_, hstart⟩
    simpa [PipelineLatches.flow, hm] using hpath
  · simp only [PipelineLatches.flow, hm, Option.map_some, Option.toList_some,
      List.singleton_append] at hpath
    dsimp only
    split
    · next hnone =>
      -- the retiring instruction is on the path, and write-back goes to its end
      rw [hnone, List.drop_zero] at hpath
      refine ⟨q.nextPc, by simpa [hnone, MemWbPayload.edge] using hpath.2, fun _ _ => ?_⟩
      rw [WbStage.writeBack_pc]
      split
      · next hxret => exact inv.memWb hnone q hm hxret
      · rfl
    · next hsome =>
      obtain ⟨n, hn⟩ := Nat.exists_eq_succ_of_ne_zero hsome
      rw [hn, List.drop_succ_cons] at hpath
      refine ⟨start, by simpa [hn] using hpath, fun _ hstale => ?_⟩
      cases hstale

/-- The mode after write-back. -/
theorem retire_mode (inv : OrderInvariant core order) (kept : order.Kept core bus)
    (running : core.state.halted = false) :
    (core.written bus).state.privilege = (order.retire core bus).mode := by
  unfold TrapOrder.retire
  rw [if_neg (by simp [running])]
  rcases hm : core.latches.memWb with _ | q
  · rw [core.written_state, hm]
    exact inv.mode
  · by_cases hxret : q.decoded.kind.isXret = true
    · have hnone := kept.returns running q hm hxret
      simp [hnone, hxret]
    · rw [Bool.not_eq_true] at hxret
      have hsame : (core.written bus).state.privilege = order.mode := by
        rw [core.written_state, hm]
        exact (WbStage.writeBack_privilege _ _ hxret).trans inv.mode
      dsimp only
      split
      · simpa [hxret] using hsame
      · exact hsame

omit [Bus β] in
/-- A return behind MEM/WB that no trap has overtaken still goes where EX has said. -/
theorem retire_exMem (inv : OrderInvariant core order) (running : core.state.halted = false)
    (hnone : (order.retire core bus).overtaken = 0) {x : ExMemPayload}
    (hx : core.latches.exMem = some x) (hxret : x.decoded.kind.isXret = true) :
    x.nextPc = (core.written bus).state.returnPc x.decoded.kind := by
  have hle : order.overtaken ≤ core.latches.memWb.toList.length := by
    unfold TrapOrder.retire at hnone
    rw [if_neg (by simp [running])] at hnone
    rcases hm : core.latches.memWb with _ | q
    · simp [hm] at hnone
      simp [hnone]
    · rw [hm] at hnone
      dsimp only at hnone
      split at hnone
      · next h => simp [h]
      · simp only [Option.toList_some, List.length_singleton]
        dsimp only at hnone
        omega
  rw [inv.exMem hle x hx hxret, core.written_state]
  rcases hm : core.latches.memWb with _ | q
  · rfl
  · have hserial : requiresCsrSerialization x.decoded = true := by
      simp [requiresCsrSerialization, hxret]
    have hcsr := inv.serialized.exMem x hx hserial q hm
    exact (WbStage.writeBack_returnPc _ _ (inv.serialized.memWbWrite q hm hcsr) _).symm

/-- A trap overtakes all that it leaves in the latches. -/
theorem of_trap {core' : PipelineCore} (serialized : Serialized core')
    (hpc : core'.frontEndPc = core'.state.pc) (older : PrivilegeMode) :
    OrderInvariant core' { overtaken := core'.latches.flow.length, stale := false, older,
                           mode := core'.state.privilege } where
  serialized := serialized
  bound := le_refl _
  path := ⟨core'.state.pc, by simp [hpc], fun _ _ => rfl⟩
  mode := rfl
  exMem := by
    intro hle x hx
    rcases hm : core'.latches.memWb with _ | q <;>
      simp [PipelineLatches.flow, PipelineLatches.laterFlow, hx, hm] at hle
  memWb := by
    intro hnone q hq
    simp [PipelineLatches.flow, hq] at hnone

/-- What EX and MEM leave of a return still goes where EX has said. -/
theorem returns_of_running (inv : OrderInvariant core order) (running : core.state.halted = false)
    (cycle : RunningCycle core bus l) (hstate : l.state = (core.written bus).state) :
    ((order.retire core bus).overtaken ≤ l.next.memWb.toList.length → ∀ x,
        l.next.exMem = some x → x.decoded.kind.isXret = true →
        x.nextPc = l.state.returnPc x.decoded.kind) ∧
      ((order.retire core bus).overtaken = 0 → ∀ q, l.next.memWb = some q →
        q.decoded.kind.isXret = true → q.nextPc = l.state.returnPc q.decoded.kind) := by
  rw [hstate]
  constructor
  · intro hle x hx hxret
    rcases cycle.exMem_cases running with ⟨y, -, hkept⟩ | hnone | ⟨p, _, _, outcome, -, hexec, hx'⟩
    · have hzero : (order.retire core bus).overtaken = 0 := by simpa [hkept] using hle
      exact inv.retire_exMem running hzero (by simpa [hkept] using hx) hxret
    · cases hnone.symm.trans hx
    · obtain rfl := Option.some.inj (hx'.symm.trans hx)
      exact ExStage.execute_returnPc hxret hexec
  · intro hzero q hq hxret
    obtain ⟨x, hx, hq'⟩ := cycle.memWb_decoded running hq
    rw [hq'] at hxret ⊢
    exact inv.retire_exMem running hzero hx hxret

/-- A running cycle keeps the invariant. -/
theorem running (inv : OrderInvariant core order) (kept : order.Kept core bus)
    (running : core.state.halted = false) (cycle : RunningCycle core bus l) :
    OrderInvariant (core.finishCycle l).2.1
      (order.next core bus (core.finishCycle l).2.1) := by
  have serialized := inv.serialized.running running cycle
  obtain ⟨start, hpath, hstart⟩ := inv.retire_path bus running
  have hbound := inv.retire_bound bus running
  have htrap : (core.finishCycle l).2.1.lastResult.trap = l.trapResult.bind (·.trap) := rfl
  unfold TrapOrder.next
  rw [htrap]
  rcases cycle.flow_cases running with ⟨trap, pc, hstate, hresult, hfront⟩ | ⟨hstate, hresult, hflow⟩
  · rw [hresult]
    exact of_trap serialized hfront _
  · -- no trap is entered, and the order is the one after write-back
    rw [hresult]
    simp only [Option.bind_none, Option.isSome_none, Bool.false_eq_true, if_false, kept.redirects]
    obtain ⟨hexMem, hmemWb⟩ := inv.returns_of_running running cycle hstate
    have hmode : l.state.privilege = (order.retire core bus).mode := by
      rw [hstate]
      exact inv.retire_mode kept running
    rw [← hstate] at hstart
    rcases hflow with ⟨hflow, hfront⟩ | hflow | ⟨p, outcome, hexecuted, hflow, hfront, hflush⟩
    · refine ⟨serialized, ?_, ⟨start, ?_, ?_⟩, hmode, hexMem, hmemWb⟩
      · exact hbound.trans_eq (congrArg List.length hflow.symm)
      · simpa [hflow, hfront] using hpath
      · exact hstart
    · -- the fetched word lengthens the path
      refine ⟨serialized, ?_, ⟨start, ?_, ?_⟩, hmode, hexMem, hmemWb⟩
      · rw [PipelineCore.finishCycle_latches, hflow, List.length_append]
        exact hbound.trans (Nat.le_add_right _ _)
      · rw [PipelineCore.finishCycle_latches, hflow]
        exact hpath.drop_snoc hbound _
      · exact hstart
    · -- the redirected instruction has not been overtaken, and the path ends where it goes
      have hle : (order.retire core bus).overtaken ≤
          (core.latches.exMem.map (·.edge)).toList.length := by
        have hredirects := kept.redirects
        simp only [TrapOrder.redirects, hexecuted, Option.any_some, hflush, Bool.true_and,
          decide_eq_false_iff_not, not_lt] at hredirects
        rcases hx : core.latches.exMem with _ | x <;> simpa [hx] using hredirects
      have hedge : (p.decoded.pc, p.predictedPc) ∈ core.latches.idEx.map (·.edge) := by
        obtain ⟨_, _, hcall, -⟩ := PipelineCore.executed_eq_some_iff.mp hexecuted
        obtain ⟨-, -, -, -, hlatch, -, -⟩ := PipelineCore.executeCall_eq_some_iff.mp hcall
        rw [hlatch]
        rfl
      rw [PipelineLatches.laterFlow, List.drop_append_of_le_length hle,
        Automata.leads_append] at hpath
      obtain ⟨middle, hpath, hrest⟩ := hpath
      rw [PipelineLatches.frontFlow, Option.mem_def.mp hedge] at hrest
      refine ⟨serialized, ?_, ⟨start, ?_, ?_⟩, hmode, hexMem, hmemWb⟩
      · rw [PipelineCore.finishCycle_latches, hflow, List.length_append]
        exact hle.trans (Nat.le_add_right _ _)
      · rw [PipelineCore.finishCycle_latches, hflow, List.drop_append_of_le_length hle,
          PipelineCore.finishCycle_frontEndPc, hfront]
        obtain ⟨rfl, -⟩ := hrest
        exact hpath.snoc _
      · exact hstart

/-- The start of a cycle keeps the invariant. -/
theorem begun (inv : OrderInvariant core order) (bus : β) :
    OrderInvariant (core.begun bus) order where
  serialized := inv.serialized.begun bus
  bound := inv.bound
  path := inv.path
  mode := inv.mode
  exMem hle x hx hxret := by
    rw [begun_returnPc]
    exact inv.exMem hle x hx hxret
  memWb hnone q hq hxret := by
    rw [begun_returnPc]
    exact inv.memWb hnone q hq hxret

/-- **Every cycle keeps the invariant** in which no overtaken instruction returns or redirects. -/
theorem step {machine : Machine PipelineCore β} {tick : β → β}
    (inv : OrderInvariant machine.cpu order)
    (kept : order.Kept (machine.cpu.begun (tick machine.bus)) (tick machine.bus)) :
    OrderInvariant (machine.stepCycle tick).cpu (order.next (machine.cpu.begun (tick machine.bus))
      (tick machine.bus) (machine.stepCycle tick).cpu) := by
  have inv' := inv.begun (tick machine.bus)
  have cycle := machine.stepCycle_cases tick
  generalize machine.stepCycle tick = machine' at cycle ⊢
  obtain ⟨core', bus'⟩ := machine'
  cases cycle with
  | wake => exact of_trap (.of_latches rfl) rfl _
  | wait halted =>
    -- a halted hart retires and executes nothing
    have hnone : (machine.cpu.begun (tick machine.bus)).executed (tick machine.bus) = none :=
      PipelineCore.executed_of_halted halted
    have hretire : order.retire (machine.cpu.begun (tick machine.bus)) (tick machine.bus) = order :=
      if_pos halted
    simp only [TrapOrder.next, TrapOrder.redirects, hnone, hretire, Option.any_none,
      Bool.false_eq_true, if_false, Option.isSome_none]
    exact ⟨inv'.serialized.congr rfl, inv'.bound, inv'.path, inv'.mode, inv'.exMem, inv'.memWb⟩
  | running running cycle => exact inv'.running kept running cycle

end OrderInvariant

end RvSim
