import Mathlib.Data.List.Chain
import RvSim.Core.Control
import RvSim.Core.DataCalls
import RvSim.Core.WalkerProperties
import RvSim.Mmu.Resume
import RvSim.System.TestBus

/-!
# Data accesses and retirements

MEM makes the bus call of a load or store, and write-back retires the instruction one cycle after the call
has been answered. A call that is answered Busy is made again in the next cycle, and the bus may make the
access in the meantime. What is cleared out of EX/MEM behind a busy answer, or out of MEM/WB, has made a
call and never retires: an interrupt does the first, and the wake-up of a halted hart does both.

## Main definitions

* `DataLedger`: a machine with the data calls and the retirements of its run
* `DataLedger.Accounts`: the accesses the bus has made are the retired loads and stores and the one in
  MEM/WB, and a call answered Busy is made again
* `DataLedger.Drops`: the cycle clears an instruction that has made a call

## Main results

* `DataLedger.Sound.next`: a cycle that drops no access keeps the accounts
* `accountsForAccesses_iff`: a run accounts for its accesses exactly when no cycle drops one
-/

namespace RvSim

/-! ## The ledger of a run -/

/-- A data call, or the retirement of a load or store. -/
inductive DataEvent
  | calls (call : DataCall)
  | retires (payload : MemWbPayload)
  deriving DecidableEq

namespace DataEvent

def called : DataEvent → Option DataCall
  | calls call => some call
  | retires _ => none

def retired : DataEvent → Option MemWbPayload
  | calls _ => none
  | retires payload => some payload

end DataEvent

/-- A machine on a bus that records its calls, with the data events of its run. -/
structure DataLedger (β : Type) where
  machine : Machine PipelineCore (RecordedBus β)
  trace : List DataEvent := []

namespace DataLedger

variable {β : Type} [Bus β]

/-- The machine at the start of its run. -/
def start (machine : Machine PipelineCore β) : DataLedger β where
  machine := { cpu := machine.cpu, bus := { inner := machine.bus } }

/-- The data events of a cycle: write-back retires before MEM makes its call. -/
def events (ledger : DataLedger β) (tick : β → β) : List DataEvent :=
  let bus := ledger.machine.bus.under tick
  (if ledger.machine.cpu.state.halted then []
    else (dataAccess ledger.machine.cpu.latches.memWb).map .retires)
    ++ ((ledger.machine.cpu.begun bus).dataCalls bus).map .calls

def next (ledger : DataLedger β) (tick : β → β) : DataLedger β where
  machine := ledger.machine.stepCycle (.under tick)
  trace := ledger.trace ++ ledger.events tick

/-- The data calls of the run, in order. -/
def called (ledger : DataLedger β) : List DataCall := ledger.trace.filterMap DataEvent.called

/-- The loads and stores that have retired, in order. -/
def retired (ledger : DataLedger β) : List MemWbPayload := ledger.trace.filterMap DataEvent.retired

/-- The data accesses of the run are its retired loads and stores: every data call is made for the load or
store in EX/MEM, the calls that the bus has performed are those of the retired loads and stores, in order,
and of the one in MEM/WB, and a call answered Busy is followed by the same call or waits in EX/MEM. -/
structure Accounts (ledger : DataLedger β) : Prop where
  owned : ∀ call ∈ ledger.called, call.Owned
  performed : (ledger.called.filter (·.call.performed)).map DataCall.completes =
    (ledger.retired ++ dataAccess ledger.machine.cpu.latches.memWb).map some
  repeated : ledger.called.IsChain DataCall.RepeatedBy
  waiting : ∀ call ∈ ledger.called.getLast?, call.call.isBusy = true →
    ledger.machine.cpu.latches.exMem = call.target.map Prod.fst

/-- The last data call has been answered Busy. -/
def Waits (ledger : DataLedger β) : Prop := ledger.called.getLast?.any (·.call.isBusy) = true

instance (ledger : DataLedger β) : Decidable ledger.Waits := inferInstanceAs (Decidable (_ = _))

/-- The cycle takes an interrupt, which clears the latches. -/
def Interrupted (ledger : DataLedger β) (tick : β → β) : Prop :=
  let bus := ledger.machine.bus.under tick
  let core := ledger.machine.cpu.begun bus
  (if core.state.halted then core.wakeInterrupt bus else (core.written bus).takenInterrupt).isSome = true

instance (ledger : DataLedger β) (tick : β → β) : Decidable (ledger.Interrupted tick) :=
  inferInstanceAs (Decidable (_ = _))

/-- The cycle clears an instruction that has made a call: out of EX/MEM behind a busy answer, or out of the
MEM/WB of a halted hart. -/
def Drops (ledger : DataLedger β) (tick : β → β) : Prop :=
  ledger.Interrupted tick ∧
    (ledger.Waits ∨
      ledger.machine.cpu.state.halted = true ∧ dataAccess ledger.machine.cpu.latches.memWb ≠ [])

instance (ledger : DataLedger β) (tick : β → β) : Decidable (ledger.Drops tick) :=
  inferInstanceAs (Decidable (_ ∧ (_ ∨ _ ∧ _)))

/-- The run accounts for its data accesses after each of its cycles. -/
def AccountsThroughout (ledger : DataLedger β) (ticks : List (β → β)) : Prop :=
  ∀ past, past <+: ticks → (Automata.run next ledger past).Accounts

end DataLedger

/-! ## One cycle of the ledger -/

namespace ExMemPayload

/-- The request MEM hands to the page walker. -/
def translation (x : ExMemPayload) (state : HartState) (kind : MemoryAccess) : TranslationRequest :=
  .of state.csrs state.privilege (x.memoryAddress.getD 0) kind

/-- The counters and the pending bits have no part in it. -/
theorem translation_congr (x : ExMemPayload) {state state' : HartState} (kind : MemoryAccess)
    (h : state.control = state'.control) : x.translation state kind = x.translation state' kind := by
  have hcontrol : ∀ state : HartState, x.translation state kind =
      .of state.control.csrs state.control.privilege (x.memoryAddress.getD 0) kind := fun _ => rfl
  rw [hcontrol, hcontrol, h]

end ExMemPayload

/-- The walk in progress is one that the TLB could not answer, in every state of a run. -/
theorem keptByWalks_missed {β : Type} [Bus β] : KeptByWalks β PageWalker.Missed where
  translate h _ csrs privilege virtualAddress access :=
    (h.translate csrs privilege virtualAddress access : PageWalker.Answers _ _ _).1
  flushFence h fence := h.flushFence fence

namespace DataLedger

variable {β : Type} [Bus β] {ledger : DataLedger β} {tick : β → β}

/-- What every state of a run that drops no access has. -/
structure Sound (ledger : DataLedger β) : Prop where
  accounts : ledger.Accounts
  missed : ledger.machine.cpu.pageWalker.Missed
  /-- Behind a busy answer the load or store waits in EX/MEM, and its address is found again. -/
  found : ∀ call ∈ ledger.called.getLast?, call.call.isBusy = true →
    ∃ x physicalAddress kind, call.target = some (x, physicalAddress) ∧
      ledger.machine.cpu.latches.exMem = some x ∧ ledger.machine.cpu.latches.memWb = none ∧
      x.accessKind = some kind ∧
      ledger.machine.cpu.pageWalker.Serves (x.translation ledger.machine.cpu.state kind) physicalAddress

omit [Bus β] in
theorem waits_iff : ledger.Waits ↔ ∃ call ∈ ledger.called.getLast?, call.call.isBusy = true := by
  unfold Waits
  rcases ledger.called.getLast? with _ | call
  · simp
  · simp

theorem called_next (ledger : DataLedger β) (tick : β → β) : (ledger.next tick).called = ledger.called ++
    (ledger.machine.cpu.begun (ledger.machine.bus.under tick)).dataCalls (ledger.machine.bus.under tick) := by
  have retires (payloads : List MemWbPayload) :
      (payloads.map DataEvent.retires).filterMap DataEvent.called = [] := by
    simp [List.filterMap_map, Function.comp_def, DataEvent.called]
  show (ledger.trace ++ ledger.events tick).filterMap DataEvent.called = _
  rw [List.filterMap_append, events, List.filterMap_append]
  congr 1
  split
  · simp [List.filterMap_map, Function.comp_def, DataEvent.called]
  · rw [retires]
    simp [List.filterMap_map, Function.comp_def, DataEvent.called]

theorem retired_next (ledger : DataLedger β) (tick : β → β) : (ledger.next tick).retired = ledger.retired ++
    if ledger.machine.cpu.state.halted then [] else dataAccess ledger.machine.cpu.latches.memWb := by
  show (ledger.trace ++ ledger.events tick).filterMap DataEvent.retired = _
  rw [List.filterMap_append, events, List.filterMap_append]
  congr 1
  split <;> simp [List.filterMap_map, Function.comp_def, DataEvent.retired]

/-! ### The cycles -/

/-- A cycle without a data call, in which nothing waits and no access is lost. -/
theorem Sound.quiet (h : ledger.Sound) (hwaits : ¬ ledger.Waits)
    (hcalled : (ledger.next tick).called = ledger.called)
    (hretired : (ledger.next tick).retired ++ dataAccess (ledger.next tick).machine.cpu.latches.memWb =
      ledger.retired ++ dataAccess ledger.machine.cpu.latches.memWb)
    (hmissed : (ledger.next tick).machine.cpu.pageWalker.Missed) : (ledger.next tick).Sound := by
  have settled {call : DataCall} (hcall : call ∈ (ledger.next tick).called.getLast?) :
      ¬ call.call.isBusy = true := fun hbusy =>
    hwaits (waits_iff.mpr ⟨call, hcalled ▸ hcall, hbusy⟩)
  refine ⟨⟨?_, ?_, ?_, fun call hcall hbusy => absurd hbusy (settled hcall)⟩, hmissed,
    fun call hcall hbusy => absurd hbusy (settled hcall)⟩
  · rw [hcalled]
    exact h.accounts.owned
  · rw [hcalled, hretired]
    exact h.accounts.performed
  · rw [hcalled]
    exact h.accounts.repeated

/-- A cycle in which the hart stays halted. -/
theorem Sound.wait (h : ledger.Sound) (hcalled : (ledger.next tick).called = ledger.called)
    (hretired : (ledger.next tick).retired = ledger.retired)
    (hlatches : (ledger.next tick).machine.cpu.latches = ledger.machine.cpu.latches)
    (hwalker : (ledger.next tick).machine.cpu.pageWalker = ledger.machine.cpu.pageWalker)
    (hcontrol : (ledger.next tick).machine.cpu.state.control = ledger.machine.cpu.state.control) :
    (ledger.next tick).Sound := by
  refine ⟨⟨?_, ?_, ?_, ?_⟩, ?_, ?_⟩
  · rw [hcalled]
    exact h.accounts.owned
  · rw [hcalled, hretired, hlatches]
    exact h.accounts.performed
  · rw [hcalled]
    exact h.accounts.repeated
  · rw [hcalled, hlatches]
    exact h.accounts.waiting
  · rw [hwalker]
    exact h.missed
  · rw [hcalled, hlatches, hwalker]
    intro call hcall hbusy
    obtain ⟨x, physicalAddress, kind, htarget, hx, hq, hkind, hserves⟩ := h.found call hcall hbusy
    refine ⟨x, physicalAddress, kind, htarget, hx, hq, hkind, ?_⟩
    rw [x.translation_congr kind hcontrol]
    exact hserves

/-- Behind a busy answer, MEM finds the address again, without any access. -/
theorem Sound.finds_again (h : ledger.Sound) {call : DataCall} {core : PipelineCore} {bus : RecordedBus β}
    (hcall : call ∈ ledger.called.getLast?) (hbusy : call.call.isBusy = true)
    (hcore : core = ledger.machine.cpu.begun bus) :
    ∃ x physicalAddress kind, call.target = some (x, physicalAddress) ∧ core.latches.exMem = some x ∧
      x.accessKind = some kind ∧
      (core.written bus).pageWalker.translate bus (core.written bus).state.csrs
        (core.written bus).state.privilege (x.memoryAddress.getD 0) kind =
          (.ok (.physicalAddress physicalAddress), (core.written bus).pageWalker, bus) := by
  obtain ⟨x, physicalAddress, kind, htarget, hx, hq, hkind, hserves⟩ := h.found call hcall hbusy
  subst hcore
  refine ⟨x, physicalAddress, kind, htarget, hx, hkind, ?_⟩
  have hlatch : (ledger.machine.cpu.begun bus).latches.memWb = none := hq
  have hwritten : (ledger.machine.cpu.begun bus).written bus = (ledger.machine.cpu.begun bus).entry bus := by
    unfold PipelineCore.written StepLocals.writeBackStage
    rw [hlatch]
  rw [hwritten]
  -- the start of the cycle changes the clock and the pending bits only
  have hsame : x.translation (beginCycle ledger.machine.cpu.state bus) kind =
      x.translation ledger.machine.cpu.state kind := x.translation_congr kind (control_beginCycle _ bus)
  have hagain : ledger.machine.cpu.pageWalker.Serves
      (x.translation (beginCycle ledger.machine.cpu.state bus) kind) physicalAddress := by
    rw [hsame]
    exact hserves
  exact hagain.translateLoop _

section Access

variable {core : PipelineCore} {bus walked : RecordedBus β} {x : ExMemPayload} {kind : MemoryAccess}
  {physicalAddress : U32} {w : PageWalker} {request : BusRequest}

/-- What MEM hands on behind a data call: the load or store, exactly where the bus has performed it. -/
theorem completes_access (running : core.state.halted = false)
    (noInterrupt : (core.written bus).takenInterrupt = none) (latch : core.latches.exMem = some x)
    (uses : x.accessKind = some kind)
    (answers : MemStage.access bus (core.written bus).pageWalker (core.written bus).state.csrs
      (core.written bus).state.privilege x = MemStage.answered w x kind (request.call walked)) :
    ([(⟨some (x, physicalAddress), ⟨request, (request.call walked.inner).1⟩⟩ : DataCall)].filter
        (·.call.performed)).map DataCall.completes =
      (dataAccess (core.memoryAdvance bus)).map some := by
  have hanswer : core.memoryAnswer bus = (MemStage.access bus (core.written bus).pageWalker
      (core.written bus).state.csrs (core.written bus).state.privilege x).1.toOption := by
    unfold PipelineCore.memoryAnswer
    rw [running, noInterrupt, latch]
    rfl
  rw [RecordedBus.call_eq] at answers
  rcases hrequest : request.call walked.inner with ⟨error | value, b⟩
  · have hadvance : core.memoryAdvance bus = none := by
      rw [PipelineCore.memoryAdvance, hanswer, answers, hrequest]
      cases error <;> rfl
    rw [hadvance]
    rfl
  · have hadvance : core.memoryAdvance bus = some (x.advance (x.loaded value)) := by
      rw [PipelineCore.memoryAdvance, hanswer, answers, hrequest]
      rfl
    have huses : ExStage.usesMemory (x.advance (x.loaded value)).decoded = true :=
      x.usesMemory_of_accessKind uses
    rw [hadvance, dataAccess_of_usesMemory huses]
    rfl

/-- Behind a busy answer the load or store stays in EX/MEM, and its address is found again. -/
theorem waits_access {l : StepLocals (RecordedBus β)} (cycle : RunningCycle core bus l)
    (noInterrupt : (core.written bus).takenInterrupt = none) (latch : core.latches.exMem = some x)
    (found : (core.written bus).pageWalker.translate bus (core.written bus).state.csrs
      (core.written bus).state.privilege (x.memoryAddress.getD 0) kind =
        (.ok (.physicalAddress physicalAddress), w, walked))
    (answers : MemStage.access bus (core.written bus).pageWalker (core.written bus).state.csrs
      (core.written bus).state.privilege x = MemStage.answered w x kind (request.call walked))
    (missed : core.pageWalker.Missed)
    (hbusy : (⟨request, (request.call walked.inner).1⟩ : RecordedCall).isBusy = true) :
    l.next.exMem = some x ∧ l.next.memWb = none ∧
      l.pageWalker.Serves (x.translation l.state kind) physicalAddress := by
  obtain ⟨n, hn⟩ : ∃ n, (request.call walked.inner).1 = .error (.busy n) := by
    unfold RecordedCall.isBusy at hbusy
    rcases hrequest : (request.call walked.inner).1 with error | value
    · rw [hrequest] at hbusy
      cases error with
      | busy n => exact ⟨n, rfl⟩
      | _ => cases hbusy
    · rw [hrequest] at hbusy
      cases hbusy
  rw [RecordedBus.call_eq, hn] at answers
  have hwritten : (core.written bus).pageWalker.Missed := keptByWalks_missed.written missed
  have hserves := (hwritten.translate (core.written bus).state.csrs (core.written bus).state.privilege
    (x.memoryAddress.getD 0) kind).2 (.physicalAddress physicalAddress) (by rw [found])
    (fun h => by cases h) physicalAddress rfl
  rw [found] at hserves
  rw [cycle.unique (.memoryWait noInterrupt latch answers)]
  exact ⟨rfl, rfl, hserves⟩

/-- **A cycle with a data call.** -/
theorem Sound.access (h : ledger.Sound) {l : StepLocals (RecordedBus β)}
    (hcore : core = ledger.machine.cpu.begun bus) (running : core.state.halted = false)
    (cycle : RunningCycle core bus l) (noInterrupt : (core.written bus).takenInterrupt = none)
    (latch : core.latches.exMem = some x) (uses : x.accessKind = some kind)
    (found : (core.written bus).pageWalker.translate bus (core.written bus).state.csrs
      (core.written bus).state.privilege (x.memoryAddress.getD 0) kind =
        (.ok (.physicalAddress physicalAddress), w, walked))
    (requests : x.requestAt physicalAddress = some request)
    (answers : MemStage.access bus (core.written bus).pageWalker (core.written bus).state.csrs
      (core.written bus).state.privilege x = MemStage.answered w x kind (request.call walked))
    (hcalled : (ledger.next tick).called = ledger.called ++
      [⟨some (x, physicalAddress), ⟨request, (request.call walked.inner).1⟩⟩])
    (hretired : (ledger.next tick).retired = ledger.retired ++ dataAccess ledger.machine.cpu.latches.memWb)
    (hcpu : (ledger.next tick).machine.cpu = (core.finishCycle l).2.1)
    (hmissed : (ledger.next tick).machine.cpu.pageWalker.Missed) : (ledger.next tick).Sound := by
  have hlast : (ledger.next tick).called.getLast? =
      some ⟨some (x, physicalAddress), ⟨request, (request.call walked.inner).1⟩⟩ := by
    rw [hcalled, List.getLast?_concat]
  have missed : core.pageWalker.Missed := by
    rw [hcore]
    exact h.missed
  refine ⟨⟨?_, ?_, ?_, fun call hcall hbusy => ?_⟩, hmissed, fun call hcall hbusy => ?_⟩
  · rw [hcalled]
    intro call hcall
    rcases List.mem_append.mp hcall with hold | hnew
    · exact h.accounts.owned call hold
    · obtain rfl := List.mem_singleton.mp hnew
      exact requests
  · have hmemWb : (ledger.next tick).machine.cpu.latches.memWb = core.memoryAdvance bus := by
      rw [hcpu]
      exact cycle.memWb_eq running
    rw [hcalled, hretired, hmemWb, List.filter_append, List.map_append, h.accounts.performed,
      completes_access running noInterrupt latch uses answers]
    exact List.map_append.symm
  · -- the call is the one that waits, if one does
    rw [hcalled]
    refine List.isChain_append.mpr ⟨h.accounts.repeated, List.isChain_singleton _, ?_⟩
    intro call hcall new hnew hbusy
    obtain rfl := Option.some.inj hnew
    obtain ⟨y, pa, kind', htarget, hy, hkind', hagain⟩ := h.finds_again hcall hbusy hcore
    obtain rfl := Option.some.inj (latch.symm.trans hy)
    obtain rfl := Option.some.inj (uses.symm.trans hkind')
    obtain rfl : physicalAddress = pa := by
      have := found.symm.trans hagain
      simpa using congrArg Prod.fst this
    refine ⟨htarget.symm, ?_⟩
    have howned := h.accounts.owned call (List.mem_of_getLast? hcall)
    unfold DataCall.Owned at howned
    rw [htarget] at howned
    exact Option.some.inj (requests.symm.trans howned)
  · obtain rfl := Option.some.inj (hlast.symm.trans hcall)
    rw [hcpu]
    exact (waits_access cycle noInterrupt latch found answers missed hbusy).1
  · obtain rfl := Option.some.inj (hlast.symm.trans hcall)
    obtain ⟨hx, hq, hserves⟩ := waits_access cycle noInterrupt latch found answers missed hbusy
    refine ⟨x, physicalAddress, kind, rfl, ?_⟩
    rw [hcpu]
    exact ⟨hx, hq, uses, hserves⟩

end Access

/-- **A running cycle** that drops no access. -/
theorem Sound.running (h : ledger.Sound) {core : PipelineCore} {bus : RecordedBus β}
    {l : StepLocals (RecordedBus β)} (hcore : core = ledger.machine.cpu.begun bus)
    (running : core.state.halted = false) (cycle : RunningCycle core bus l)
    (hkeep : (core.written bus).takenInterrupt.isSome = true → ¬ ledger.Waits)
    (hcalled : (ledger.next tick).called = ledger.called ++ core.dataCalls bus)
    (hretired : (ledger.next tick).retired = ledger.retired ++ dataAccess ledger.machine.cpu.latches.memWb)
    (hcpu : (ledger.next tick).machine.cpu = (core.finishCycle l).2.1)
    (hmissed : (ledger.next tick).machine.cpu.pageWalker.Missed) : (ledger.next tick).Sound := by
  have hmemWb : (ledger.next tick).machine.cpu.latches.memWb = core.memoryAdvance bus := by
    rw [hcpu]
    exact cycle.memWb_eq running
  have hcycle : PipelineCore.DataCycle core bus (core.dataCalls bus) := PipelineCore.dataCycle running
  generalize core.dataCalls bus = calls at hcycle hcalled
  cases hcycle with
  | interrupt taken =>
    rw [List.append_nil] at hcalled
    have hanswer : core.memoryAnswer bus = none := by
      unfold PipelineCore.memoryAnswer
      rw [if_pos (by rw [taken, Bool.or_true])]
    have hadvance : core.memoryAdvance bus = none := by
      rw [PipelineCore.memoryAdvance, hanswer]
    refine h.quiet (hkeep taken) hcalled ?_ hmissed
    rw [hretired, hmemWb, hadvance]
    exact List.append_nil _
  | silent noInterrupt unfound hadvance =>
    rw [List.append_nil] at hcalled
    refine h.quiet (fun hwaits => ?_) hcalled ?_ hmissed
    · -- a call that waits would have been made again
      obtain ⟨call, hcall, hbusy⟩ := waits_iff.mp hwaits
      obtain ⟨x, physicalAddress, kind, -, hx, hkind, hfound⟩ := h.finds_again hcall hbusy hcore
      exact unfound x kind hx hkind physicalAddress (by rw [hfound])
    · rw [hretired, hmemWb, hadvance, List.append_nil]
  | access noInterrupt latch uses found requests answers =>
    exact h.access hcore running cycle noInterrupt latch uses found requests answers hcalled hretired hcpu
      hmissed

/-! ### Every cycle -/

/-- A cycle that takes an interrupt makes no data call. -/
theorem called_of_interrupted (h : ledger.Interrupted tick) : (ledger.next tick).called = ledger.called := by
  rw [called_next]
  generalize hbus : ledger.machine.bus.under tick = bus
  generalize hcore : ledger.machine.cpu.begun bus = core
  unfold Interrupted at h
  dsimp only at h
  rw [hbus, hcore] at h
  have hcalls : core.dataCalls bus = [] := by
    by_cases halted : core.state.halted = true
    · unfold PipelineCore.dataCalls
      rw [if_pos halted]
    · rw [if_neg halted] at h
      have hcycle : PipelineCore.DataCycle core bus (core.dataCalls bus) :=
        PipelineCore.dataCycle (Bool.eq_false_iff.mpr halted)
      generalize core.dataCalls bus = calls at hcycle ⊢
      cases hcycle with
      | interrupt => rfl
      | silent => rfl
      | access noInterrupt =>
        rw [noInterrupt] at h
        cases h
  rw [hcalls, List.append_nil]

/-- Behind a cycle that takes an interrupt the latches are empty. -/
theorem latches_of_interrupted (h : ledger.Interrupted tick) :
    (ledger.next tick).machine.cpu.latches = {} := by
  have cycle := ledger.machine.stepCycle_cases (.under tick)
  change (ledger.machine.stepCycle (.under tick)).cpu.latches = {}
  generalize (ledger.machine.stepCycle (.under tick)).cpu = cpu at cycle ⊢
  generalize (ledger.machine.stepCycle (.under tick)).bus = bus' at cycle
  unfold Interrupted at h
  dsimp only at h
  cases cycle with
  | wake => rfl
  | wait halted noInterrupt =>
    rw [if_pos halted, noInterrupt] at h
    cases h
  | running running cycle =>
    rw [running, if_neg Bool.false_ne_true] at h
    obtain ⟨i, hi⟩ := Option.isSome_iff_exists.mp h
    rw [cycle.unique (.interrupt hi)]
    simp

/-- **A cycle that drops no access** keeps it. -/
theorem Sound.next (h : ledger.Sound) (hkeep : ¬ ledger.Drops tick) : (ledger.next tick).Sound := by
  have hmissed : (ledger.next tick).machine.cpu.pageWalker.Missed :=
    PipelineCore.pageWalker_stepCycle keptByWalks_missed h.missed (ledger.machine.bus.under tick)
  have hcalled := ledger.called_next tick
  have hretired := ledger.retired_next tick
  have cycle := ledger.machine.stepCycle_cases (.under tick)
  generalize hcpu : (ledger.machine.stepCycle (.under tick)).cpu = cpu at cycle
  generalize (ledger.machine.stepCycle (.under tick)).bus = bus' at cycle
  have hnext : (ledger.next tick).machine.cpu = cpu := hcpu
  cases cycle with
  | wake halted interrupt =>
    have hinterrupted : ledger.Interrupted tick := by
      unfold Interrupted
      dsimp only
      rw [if_pos halted, interrupt]
      rfl
    have halted' : ledger.machine.cpu.state.halted = true := halted
    rw [if_pos halted', List.append_nil] at hretired
    have hempty : dataAccess ledger.machine.cpu.latches.memWb = [] := by
      by_contra hne
      exact hkeep ⟨hinterrupted, .inr ⟨halted', hne⟩⟩
    refine h.quiet (fun hwaits => hkeep ⟨hinterrupted, .inl hwaits⟩) (called_of_interrupted hinterrupted) ?_
      hmissed
    rw [hretired, latches_of_interrupted hinterrupted, hempty]
    rfl
  | wait halted noInterrupt =>
    have halted' : ledger.machine.cpu.state.halted = true := halted
    rw [if_pos halted', List.append_nil] at hretired
    unfold PipelineCore.dataCalls at hcalled
    rw [if_pos halted, List.append_nil] at hcalled
    refine h.wait hcalled hretired (by rw [hnext]; rfl) (by rw [hnext]; rfl) ?_
    rw [hnext]
    exact control_beginCycle ledger.machine.cpu.state (ledger.machine.bus.under tick)
  | running running cycle =>
    have running' : ledger.machine.cpu.state.halted = false := running
    rw [if_neg (by rw [running']; exact Bool.false_ne_true)] at hretired
    refine h.running rfl running cycle (fun taken hwaits => hkeep ⟨?_, .inl hwaits⟩) hcalled hretired hnext
      hmissed
    unfold Interrupted
    dsimp only
    rw [running, if_neg Bool.false_ne_true]
    exact taken

/-- **A cycle that drops an access** is not accounted for. -/
theorem Drops.not_accounts (h : ledger.Drops tick) (accounts : ledger.Accounts) :
    ¬ (ledger.next tick).Accounts := by
  obtain ⟨hinterrupted, hdrops⟩ := h
  have hcalled := called_of_interrupted hinterrupted
  have hlatches := latches_of_interrupted hinterrupted
  intro after
  rcases hdrops with hwaits | ⟨halted, haccess⟩
  · -- the call that waits has lost its load or store
    obtain ⟨call, hcall, hbusy⟩ := waits_iff.mp hwaits
    have hwaiting := after.waiting call (hcalled ▸ hcall) hbusy
    have howned := accounts.owned call (List.mem_of_getLast? hcall)
    rw [hlatches] at hwaiting
    unfold DataCall.Owned at howned
    rcases htarget : call.target with _ | target
    · rw [htarget] at howned
      cases howned
    · rw [htarget] at hwaiting
      cases hwaiting
  · -- the access of MEM/WB has not retired
    have hperformed := after.performed
    rw [hcalled, accounts.performed, retired_next, if_pos halted, hlatches, List.append_nil,
      List.map_append] at hperformed
    have hlength := congrArg List.length hperformed
    simp only [List.length_append, List.length_map] at hlength
    have hempty : (dataAccess ledger.machine.cpu.latches.memWb).length = 0 := by
      have hnone : (dataAccess none).length = 0 := rfl
      omega
    exact haccess (List.length_eq_zero_iff.mp hempty)

end DataLedger

/-! ## Every run -/

section Run

variable {β : Type} [Bus β] {machine : Machine PipelineCore β}

/-- **The data accesses of a run are its retired loads and stores, each performed once**, in exactly the
runs in which no interrupt clears a load or store that has made a call: out of EX/MEM behind a busy answer,
or out of the MEM/WB of a halted hart. -/
theorem accountsForAccesses_iff (boot : machine.cpu.Boot) (idle : machine.cpu.pageWalker.active = none)
    (ticks : List (β → β)) :
    (DataLedger.start machine).AccountsThroughout ticks ↔
      Automata.Along DataLedger.next (fun ledger tick => ¬ ledger.Drops tick) (DataLedger.start machine)
        ticks := by
  constructor
  · intro h
    rw [Automata.along_iff_forall_prefix]
    intro past tick hpast hdrops
    have hafter := h (past ++ [tick]) hpast
    rw [Automata.run_append] at hafter
    exact hdrops.not_accounts (h past ((List.prefix_append past [tick]).trans hpast)) hafter
  · rintro h past ⟨rest, rfl⟩
    rw [Automata.along_append] at h
    refine (h.1.run_invariant (I := DataLedger.Sound) ?_ fun ledger tick sound hkeep =>
      sound.next hkeep).accounts
    have hlatches : (DataLedger.start machine).machine.cpu.latches = {} := boot.latches
    refine ⟨⟨?_, ?_, ?_, ?_⟩, .of_idle idle, ?_⟩
    · exact fun call hcall => absurd hcall List.not_mem_nil
    · rw [hlatches]
      rfl
    · exact List.isChain_nil
    · exact fun call hcall => by cases hcall
    · exact fun call hcall => by cases hcall

/-- A store and a load whose calls are answered Busy, and a jump to itself. -/
theorem accountsForAccesses_storeLoad :
    DataLedger.AccountsThroughout
      (.start (Machine.boot id (TestBus.ofWords [0x00002623, 0x00c02083, 0x0000006f, 0])))
      (List.replicate 3 id ++ List.replicate 2 (TestBus.setBusy true) ++
        List.replicate 8 (TestBus.setBusy false)) :=
  (accountsForAccesses_iff (Machine.boot_boot id _) rfl _).mpr (by decide +kernel)

end Run

/-! ## A store that is made twice -/

/-- `wfi`, `sw x0, 32(x0)` and a jump to itself, with an `mret` as trap handler behind them, on a
hart that takes machine timer interrupts. -/
def wfiStore : Machine PipelineCore TestBus :=
  .boot
    (fun state => { state with
      csrs := ((state.csrs.write .mie mieMtie).write .mstatus mstatusMie).write .mtvec 12 })
    (TestBus.ofWords [0x10500073, 0x02002023, 0x0000006f, 0x30200073, 0, 0, 0, 0, 0])

/-- Five cycles to halt in the cycle in which MEM stores, one in which the timer wakes the hart, and
nine without an interrupt. -/
def wfiStoreTicks : List (TestBus → TestBus) :=
  List.replicate 5 id ++ TestBus.raise (.fromLine .machineTimer) ::
    List.replicate 9 (TestBus.raise .empty)

/-- **A store is made twice and retires once**: MEM stores in the cycle in which the `wfi` before it
halts the hart, the wake-up drops it, and the handler returns to it. -/
theorem store_repeated_on_wake :
    wfiStore.cpu.Boot ∧ wfiStore.cpu.pageWalker.active = none ∧
      ((Automata.run DataLedger.next (.start wfiStore) wfiStoreTicks).called.map fun call =>
        (call.call.request, call.call.performed)) = [(.store32 32 0, true), (.store32 32 0, true)] ∧
      (Automata.run DataLedger.next (.start wfiStore) wfiStoreTicks).retired.map (·.decoded.pc) = [4] ∧
      ¬ (DataLedger.start wfiStore).AccountsThroughout wfiStoreTicks := by
  refine ⟨Machine.boot_boot _ _, rfl, by decide +kernel, by decide +kernel, fun h => ?_⟩
  have hperformed := (h wfiStoreTicks (List.prefix_refl _)).performed
  exact absurd hperformed (by decide +kernel)

end RvSim
