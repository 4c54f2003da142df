import RvSim.Core.ReferenceRun
import RvSim.System.Cache.Freshness

/-!
# The reference core behind caches

The reference core repeats an access until it is answered, which is what a cache needs of its client. Behind
caches it therefore retires the instructions that it retires in front of a flat memory, one after the other,
whatever the caches make it wait for.

## Main definitions

* `Reference.stored`: the addresses that a program has stored to
* `Machine.retirements`: the machines right behind the cycles that retire an instruction
* `Reference.Reached`: the program stands where the reference core does

## Main results

* `ReferenceCore.executeStep_plain`, `ReferenceCore.fetchDecoded_plain`: the halves of a cycle
* `cached_follows`: the run behind caches
-/

namespace RvSim

/-! ## Harts that take no interrupt -/

/-- The hart enables no interrupt. -/
def HartState.Masked (state : HartState) : Prop := state.csrs.machine.mie = 0

namespace HartState.Masked

variable {state : HartState}

theorem pendingInterrupt (h : state.Masked) (privilege : PrivilegeMode) :
    state.csrs.pendingInterrupt privilege = none := by
  apply List.find?_eq_none.2
  intro interrupt _
  have hmie : state.csrs.machine.mie = 0 := h
  simp [CsrFile.takesInterrupt, CsrFile.interruptIsEnabled, hmie]

theorem beginCycle {β : Type} [Bus β] (h : state.Masked) (bus : β) : (beginCycle state bus).Masked := by
  unfold RvSim.beginCycle
  dsimp only
  split <;> exact h

end HartState.Masked

/-! ## The halves of a cycle -/

namespace ReferenceCore

variable {β : Type} [Bus β] {core : ReferenceCore} {b : β} {memory : FlatMemory}
  {awaiting : BusRequest → FlatMemory → β → Prop} {quiet : FlatMemory → β → Prop}

/-- What the execution of a plain instruction comes to in front of a memory. -/
inductive Executes (awaiting : BusRequest → FlatMemory → β → Prop) (quiet : FlatMemory → β → Prop)
    (core : ReferenceCore) (x : ExMemPayload) (memory : FlatMemory) :
    Except CpuError CpuCycle × ReferenceCore × β → Prop
  | waits {request : BusRequest} {b' : β} (asked : x.request = some request)
      (waits : awaiting request memory b') :
      Executes awaiting quiet core x memory (.ok stalledCycle,
        { core with
          state := { core.state with csrs := core.state.csrs.incrementInstret 0 }
          pendingDecoded := some x.decoded
          lastResult := { memoryAccess := true } }, b')
  | retires {b' : β} {lastResult : ExecutionResult}
      (holds : quiet { memory with contents := x.effect memory.contents } b') :
      Executes awaiting quiet core x memory (.ok { retiredInstructions := 1, stalled := false },
        { core with
          state := { core.state with
            registers := (x.completed memory.contents).commit core.state.registers
            pc := x.nextPc
            csrs := core.state.csrs.incrementInstret 1 }
          pendingDecoded := none
          lastResult }, b')

/-- **The execution of a plain instruction** waits for its access, or retires it. -/
theorem executeStep_plain {mapped : Address → Bool} {s s' : ArchState} {x : ExMemPayload}
    (direct : core.state.Direct) (idle : core.pageWalker.active = none)
    (retires : Retires mapped s x s') (registers : core.state.registers = s.registers)
    (hnone : x.request = none → quiet memory b)
    (hcall : ∀ request, x.request = some request →
      AnsweredAs (awaiting request) quiet request memory (request.call b)) :
    Executes awaiting quiet core x memory (core.executeStep core.pageWalker b x.decoded) := by
  obtain ⟨outcome, hexecute, hx⟩ := retires.execute core.state.privilege core.state.csrs
  rw [← registers] at hexecute
  have hexecute : core.state.executed x.decoded = .advance outcome := hexecute
  have haccessed : Accessed awaiting quiet x core.pageWalker memory b
      (MemStage.access b core.pageWalker core.state.csrs core.state.privilege x) :=
    direct.accesses idle hnone hcall
  generalize haccess : MemStage.access b core.pageWalker core.state.csrs core.state.privilege x = out
    at haccessed
  cases haccessed with
  | @stall request n b' asked busy hwaits =>
    have hexecuted : x.Executed core.state.registers := by
      rw [hx]
      exact executed_of hexecute
    have hstall := executeDecoded_of_stall hexecuted haccess
    unfold executeStep
    rw [hstall]
    exact .waits asked hwaits
  | @done b' holds =>
    have haccess' := haccess
    rw [hx] at haccess'
    have hsteps := executeDecoded_of_stages hexecute haccess'
    -- write-back of a plain instruction writes its register and the pc
    have hwrite := WbStage.writeBack_plain core.state core.pageWalker
      (q := x.completed memory.contents) retires.plain retires.csrWrite_eq retires.translationFence_eq
    rw [← hx] at hsteps
    rw [hwrite] at hsteps
    unfold executeStep
    rw [hsteps]
    exact .retires holds

/-- **The fetch of an instruction** waits, or gives the instruction of the memory. -/
theorem fetchDecoded_plain {state : HartState} {walker : PageWalker} {decoded : DecodedInstruction}
    (direct : state.Direct) (idle : walker.active = none)
    (hdecode : decode (memory.contents.fetched state.pc) state.pc = .ok decoded)
    (hcall : AnsweredAs (awaiting (fetchRequest state.pc)) quiet (fetchRequest state.pc) memory
      ((fetchRequest state.pc).call b)) :
    (∃ b', awaiting (fetchRequest state.pc) memory b' ∧
        fetchDecoded state walker b = (.ok .stall, walker, b')) ∨
      ∃ b', quiet memory b' ∧
        fetchDecoded state walker b = (.ok (.instruction decoded), walker, b') := by
  unfold AnsweredAs at hcall
  simp only [fetchDecoded, direct.translate idle]
  rw [show (fetchRequest state.pc).call b = Bus.fetch32 b (state.pc.setWidth 64) from rfl] at hcall
  rcases hout : Bus.fetch32 b (state.pc.setWidth 64) with ⟨error | raw, b'⟩
  · rw [hout] at hcall
    obtain ⟨hbusy, hwaits⟩ := hcall
    cases error with
    | busy n => exact .inl ⟨b', hwaits, rfl⟩
    | _ => cases hbusy
  · rw [hout] at hcall
    obtain ⟨hraw, hquiet⟩ := hcall
    refine .inr ⟨b', hquiet, ?_⟩
    obtain rfl : raw = memory.contents.fetched state.pc := hraw
    dsimp only
    rw [hdecode]

/-! ## The cycles of a hart that takes no interrupt -/

/-- The hart goes on with its instruction, or with the next one. -/
structure Undisturbed (core : ReferenceCore) : Prop where
  running : core.state.halted = false
  masked : core.state.Masked

theorem Undisturbed.begun (h : core.Undisturbed) (b : β) : (core.begun b).Undisturbed :=
  ⟨h.running, h.masked.beginCycle b⟩

theorem Undisturbed.instructionStep_resumed (h : core.Undisturbed) {decoded : DecodedInstruction}
    (pending : core.pendingDecoded = some decoded) :
    core.instructionStep b = core.executeStep core.pageWalker b decoded := by
  unfold instructionStep interrupt
  simp [h.running, pending]

theorem Undisturbed.instructionStep_fetched (h : core.Undisturbed) {decoded : DecodedInstruction}
    (fresh : core.pendingDecoded = none) {w : PageWalker} {b' : β}
    (hfetch : fetchDecoded core.state core.pageWalker b = (.ok (.instruction decoded), w, b')) :
    core.instructionStep b = core.executeStep w b' decoded := by
  unfold instructionStep interrupt
  simp [h.masked.pendingInterrupt, h.running, fresh, hfetch]

theorem Undisturbed.instructionStep_stalled (h : core.Undisturbed) (fresh : core.pendingDecoded = none)
    {w : PageWalker} {b' : β} (hfetch : fetchDecoded core.state core.pageWalker b = (.ok .stall, w, b')) :
    core.instructionStep b = (.ok stalledCycle,
      { core with pageWalker := w, lastResult := { memoryAccess := true } }, b') := by
  unfold instructionStep interrupt
  simp [h.masked.pendingInterrupt, h.running, fresh, hfetch]

end ReferenceCore

/-! ## The program -/

namespace Reference

/-- The addresses that the instructions before `i` have stored to, the latest first. -/
def stored (reference : Reference) : Nat → List Address
  | 0 => []
  | i + 1 => (reference.after i).request.elim [] (·.stored) ++ reference.stored i

variable {reference : Reference} {length i : Nat}

/-- The instruction `i` of a plain run, and the memory behind it. -/
theorem Plain.exists_retires (h : reference.Plain length) (hi : i < length) :
    ∃ x, (reference.after i).instruction = some x.decoded ∧
      Retires (reference.after i).bus.mapped (reference.after i).view x (reference.after (i + 1)).view ∧
      (reference.after i).request = x.request ∧
      (reference.after (i + 1)).bus =
        { (reference.after i).bus with contents := x.effect (reference.after i).bus.contents } := by
  obtain ⟨ready, -⟩ := h.ready_after (Nat.le_of_lt hi)
  obtain ⟨-, hmapped, -, x, hinstruction, retires⟩ := ready.retires_of (h.retires i hi)
  have hcontents : (reference.after (i + 1)).bus.contents =
      x.effect (reference.after i).bus.contents := congrArg ArchState.contents retires.after
  refine ⟨x, hinstruction, retires, ?_, ?_⟩
  · unfold request
    rw [hinstruction, Option.bind_some, retires.executed.request_eq]
    rfl
  · have hmapped : (reference.after (i + 1)).bus.mapped = (reference.after i).bus.mapped := hmapped
    rw [← hcontents]
    show (reference.after (i + 1)).bus = ⟨(reference.after i).bus.mapped, _⟩
    rw [← hmapped]

end Reference

/-! ## The machine behind caches -/

variable {β : Type} [Bus β]

/-- The answer of a cycle that retires an instruction. -/
def retiring (answer : Except CpuError CpuCycle) : Bool :=
  answer.toOption.any (·.retiredInstructions != 0)

/-- The cycle retires an instruction. -/
def Machine.retires (machine : Machine ReferenceCore β) (tick : β → β) : Bool :=
  retiring (machine.cpu.stepCycle (tick machine.bus)).1

/-- The machines right behind the cycles that retire an instruction. -/
def Machine.retirements (machine : Machine ReferenceCore β) (ticks : List (β → β)) :
    List (Machine ReferenceCore β) :=
  Automata.outputs Machine.stepCycle
    (fun m tick => if m.retires tick then [m.stepCycle tick] else []) machine ticks

/-- The hart stands before the instruction that `s` is the state of. -/
structure ReferenceCore.Stands (core : ReferenceCore) (s : ArchState) : Prop extends core.Undisturbed where
  direct : core.state.Direct
  idle : core.pageWalker.active = none
  registers : core.state.registers = s.registers
  pc : core.state.pc = s.pc

variable [RepeatedMemory β]

/-- The machine stands where the reference core does after `i` instructions, with the same memory. -/
structure Reference.Reached (reference : Reference) (i : Nat) (machine : Machine ReferenceCore β) :
    Prop extends machine.cpu.Stands (reference.after i).view where
  fresh : machine.cpu.pendingDecoded = none
  quiet : RepeatedMemory.Quiet (reference.stored i) (reference.after i).bus machine.bus

/-- What is in progress of the instruction `i`. -/
inductive Reference.Phase (reference : Reference) (i : Nat) (pending : Option DecodedInstruction) (b : β) :
    Prop
  | fetch (fresh : pending = none)
      (quiet : RepeatedMemory.Quiet (reference.stored i) (reference.after i).bus b)
  | fetching (fresh : pending = none) (waits : RepeatedMemory.Awaiting (reference.stored i)
      (fetchRequest (reference.after i).cpu.state.pc) (reference.after i).bus b)
  | accessing {request : BusRequest} (started : pending = (reference.after i).instruction)
      (asked : (reference.after i).request = some request)
      (waits : RepeatedMemory.Awaiting (reference.stored i) request (reference.after i).bus b)

/-- The machine is at the instruction `i`. -/
structure Reference.Runs (reference : Reference) (i : Nat) (machine : Machine ReferenceCore β) :
    Prop extends machine.cpu.Stands (reference.after i).view where
  phase : reference.Phase i machine.cpu.pendingDecoded machine.bus

theorem Reference.Reached.runs {reference : Reference} {i : Nat} {machine : Machine ReferenceCore β}
    (h : reference.Reached i machine) : reference.Runs i machine :=
  ⟨h.toStands, .fetch h.fresh h.quiet⟩

/-! ## One cycle -/

namespace Reference

variable {reference : Reference} {length i : Nat} {core : ReferenceCore} {b : β}

/-- What a cycle comes to at the instruction `i`: it is still there, or the cycle has retired it. -/
inductive Advances (reference : Reference) (i : Nat) :
    Except CpuError CpuCycle × ReferenceCore × β → Prop
  | waits {answer : Except CpuError CpuCycle} {core : ReferenceCore} {b : β}
      (stays : retiring answer = false) (runs : reference.Runs i ⟨core, b⟩) :
      Advances reference i (answer, core, b)
  | retires {answer : Except CpuError CpuCycle} {core : ReferenceCore} {b : β}
      (goes : retiring answer = true) (reached : reference.Reached (i + 1) ⟨core, b⟩) :
      Advances reference i (answer, core, b)

/-- **The execution of the instruction** that the core has fetched, or goes on with. -/
theorem Plain.executeStep (plain : reference.Plain length) (hi : i < length)
    (stands : core.Stands (reference.after i).view) {decoded : DecodedInstruction}
    (hdecoded : (reference.after i).instruction = some decoded)
    (hnone : (reference.after i).request = none →
      RepeatedMemory.Quiet (reference.stored i) (reference.after i).bus b)
    (hcall : ∀ request, (reference.after i).request = some request →
      AnsweredAs (RepeatedMemory.Awaiting (reference.stored i) request)
        (RepeatedMemory.Quiet (request.stored ++ reference.stored i)) request (reference.after i).bus
        (request.call b)) :
    reference.Advances i (core.executeStep core.pageWalker b decoded) := by
  obtain ⟨x, hinstruction, retires, hrequest, hbus⟩ := plain.exists_retires hi
  obtain rfl : decoded = x.decoded := Option.some.inj (hdecoded.symm.trans hinstruction)
  have hstored : reference.stored (i + 1) =
      x.request.elim [] (·.stored) ++ reference.stored i := by
    rw [← hrequest]
    rfl
  rw [hrequest] at hnone hcall
  have hexecutes : ReferenceCore.Executes (RepeatedMemory.Awaiting (reference.stored i))
      (RepeatedMemory.Quiet (reference.stored (i + 1))) core x (reference.after i).bus
      (core.executeStep core.pageWalker b x.decoded) := by
    apply ReferenceCore.executeStep_plain stands.direct stands.idle retires stands.registers
    · intro h
      rw [hstored, h]
      exact hnone h
    · intro request h
      rw [hstored, h]
      exact hcall request h
  generalize core.executeStep core.pageWalker b x.decoded = out at hexecutes
  cases hexecutes with
  | @waits request b' asked hwaits =>
    refine .waits rfl ⟨⟨⟨stands.running, stands.masked⟩, stands.direct, stands.idle, stands.registers, stands.pc⟩,
      .accessing hinstruction.symm (hrequest.trans asked) hwaits⟩
  | @retires b' lastResult holds =>
    rw [← hbus] at holds
    refine .retires rfl ⟨⟨⟨stands.running, stands.masked⟩, stands.direct, stands.idle, ?_, ?_⟩, rfl, holds⟩
    · rw [retires.after]
      show (x.completed _).commit core.state.registers = _
      rw [stands.registers]
      rfl
    · rw [retires.after]
      rfl

/-- **The cycle that fetches the instruction**, or goes on with its fetch. -/
theorem Plain.fetchCycle (plain : reference.Plain length) (hi : i < length)
    (stands : core.Stands (reference.after i).view) (fresh : core.pendingDecoded = none)
    (hcall : AnsweredAs
      (RepeatedMemory.Awaiting (reference.stored i) (fetchRequest (reference.after i).cpu.state.pc))
      (RepeatedMemory.Quiet (reference.stored i)) (fetchRequest (reference.after i).cpu.state.pc)
      (reference.after i).bus ((fetchRequest (reference.after i).cpu.state.pc).call b)) :
    reference.Advances i (core.instructionStep b) := by
  obtain ⟨x, hinstruction, retires, hrequest, -⟩ := plain.exists_retires hi
  have hpc : (reference.after i).cpu.state.pc = core.state.pc := stands.pc.symm
  have hdecode : decode ((reference.after i).bus.contents.fetched (reference.after i).cpu.state.pc)
      (reference.after i).cpu.state.pc = .ok x.decoded := retires.decoded
  rw [hpc] at hcall hdecode
  obtain ⟨b', hwaits, hout⟩ | ⟨b', hquiet, hout⟩ :=
    ReferenceCore.fetchDecoded_plain stands.direct stands.idle hdecode hcall
  · rw [stands.instructionStep_stalled fresh hout]
    rw [← hpc] at hwaits
    exact .waits rfl ⟨⟨⟨stands.running, stands.masked⟩, stands.direct, stands.idle, stands.registers, stands.pc⟩,
      .fetching fresh hwaits⟩
  · rw [stands.instructionStep_fetched fresh hout]
    apply plain.executeStep hi stands hinstruction
    · intro _
      exact hquiet
    · intro request hsome
      rw [hrequest] at hsome
      apply RepeatedMemory.call_quiet (retires.accesses request hsome)
      · intro addr haddr
        exact absurd haddr (ExMemPayload.request_ne_fetch hsome addr)
      · exact hquiet

/-- **The cycle of a machine that is at the instruction `i`.** -/
theorem Runs.step (plain : reference.Plain length) (hi : i < length)
    (hfetches : RepeatedMemory.fetches (β := β) (reference.stored i)
      ((reference.after i).cpu.state.pc.setWidth 64) = true)
    {machine : Machine ReferenceCore β} (h : reference.Runs i machine) {tick : β → β}
    (keeps : KeepsMemory tick) :
    reference.Advances i (machine.cpu.stepCycle (tick machine.bus)) := by
  obtain ⟨x, hinstruction, retires, hrequest, -⟩ := plain.exists_retires hi
  obtain ⟨core, bus⟩ := machine
  obtain ⟨hquiet, hawaiting⟩ := keeps (reference.stored i) (reference.after i).bus bus
  have stands : (core.begun (tick bus)).Stands (reference.after i).view :=
    ⟨h.toUndisturbed.begun (tick bus), h.direct.beginCycle _, h.idle, h.registers, h.pc⟩
  have hphase := h.phase
  show reference.Advances i ((core.begun (tick bus)).instructionStep (tick bus))
  cases hphase with
  | fetch fresh quiet =>
    apply plain.fetchCycle hi stands fresh
    apply RepeatedMemory.call_quiet retires.fetches
    · rintro addr ⟨⟩
      exact hfetches
    · exact hquiet quiet
  | fetching fresh waits =>
    apply plain.fetchCycle hi stands fresh
    exact RepeatedMemory.call_awaiting retires.fetches (hawaiting _ waits)
  | @accessing request started asked waits =>
    have hpending : (core.begun (tick bus)).pendingDecoded = some x.decoded := started.trans hinstruction
    rw [stands.instructionStep_resumed hpending]
    apply plain.executeStep hi stands hinstruction
    · intro hnone
      rw [asked] at hnone
      cases hnone
    · intro request' hsome
      obtain rfl : request = request' := Option.some.inj (asked.symm.trans hsome)
      rw [hrequest] at hsome
      exact RepeatedMemory.call_awaiting (retires.accesses request hsome) (hawaiting _ waits)

end Reference

/-! ## Whole runs -/

/-- The machine starts where the reference core does, in front of the same memory. -/
structure StartsBehind (reference : Reference) (machine : Machine ReferenceCore β) : Prop extends
    machine.cpu.Stands reference.view where
  fresh : machine.cpu.pendingDecoded = none
  quiet : RepeatedMemory.Quiet [] reference.bus machine.bus

/-- Behind caches a program does what it does in front of the memory: right behind its retirement `i`, the
registers, the pc and the memory are those of the reference core after `i + 1` cycles. As long as it has not
come to its end it is at the next instruction. -/
structure FollowsBehind (reference : Reference) (length : Nat) (retirements : List (Machine ReferenceCore β))
    (machine : Machine ReferenceCore β) : Prop where
  retired : ∀ i < length, ∀ m, retirements[i]? = some m → reference.Reached (i + 1) m
  running : retirements.length < length → reference.Runs retirements.length machine

/-- One more cycle of the machine. -/
theorem FollowsBehind.step {reference : Reference} {length : Nat} (plain : reference.Plain length)
    (hfetches : ∀ i < length, RepeatedMemory.fetches (β := β) (reference.stored i)
      ((reference.after i).cpu.state.pc.setWidth 64) = true)
    {past : List (Machine ReferenceCore β)} {machine : Machine ReferenceCore β}
    (h : FollowsBehind reference length past machine) {tick : β → β} (keeps : KeepsMemory tick) :
    FollowsBehind reference length
      (past ++ if machine.retires tick then [machine.stepCycle tick] else [])
      (machine.stepCycle tick) := by
  have hnext : machine.stepCycle tick = ⟨(machine.cpu.stepCycle (tick machine.bus)).2.1,
    (machine.cpu.stepCycle (tick machine.bus)).2.2⟩ := rfl
  by_cases hlt : past.length < length
  · have hadvances := (h.running hlt).step plain hlt (hfetches _ hlt) keeps
    unfold Machine.retires
    rw [hnext]
    generalize machine.cpu.stepCycle (tick machine.bus) = out at hadvances
    cases hadvances with
    | waits stays runs =>
      simp only [stays, Bool.false_eq_true, if_false, List.append_nil]
      exact ⟨h.retired, fun _ => runs⟩
    | retires goes reached =>
      simp only [goes, if_true]
      constructor
      · intro i hi m hm
        rw [List.getElem?_append] at hm
        split at hm
        · exact h.retired i hi m hm
        · -- the new retirement is the last one
          rw [List.getElem?_singleton] at hm
          split at hm
          · obtain rfl := Option.some.inj hm
            obtain rfl : i = past.length := by omega
            exact reached
          · cases hm
      · intro _
        rw [List.length_append]
        exact reached.runs
  · -- the program has come to its end
    constructor
    · intro i hi m hm
      rw [List.getElem?_append_left (by omega)] at hm
      exact h.retired i hi m hm
    · intro hlonger
      rw [List.length_append] at hlonger
      omega

/-- **The reference core behind caches.** Every instruction that is fetched from a line without a store in
it is the one of the memory, and so is every access: a program of plain instructions retires as in front of
a flat memory. -/
theorem cached_follows {reference : Reference} {length : Nat} (plain : reference.Plain length)
    (hfetches : ∀ i < length, RepeatedMemory.fetches (β := β) (reference.stored i)
      ((reference.after i).cpu.state.pc.setWidth 64) = true)
    {machine : Machine ReferenceCore β} (starts : StartsBehind reference machine) {ticks : List (β → β)}
    (keeps : ∀ tick ∈ ticks, KeepsMemory tick) :
    FollowsBehind reference length (machine.retirements ticks) (machine.runCycles ticks) := by
  have hkeeps : Automata.Along Machine.stepCycle (fun _ tick => KeepsMemory tick) machine ticks :=
    .of_forall_mem fun tick htick _ => keeps tick htick
  apply hkeeps.outputs_invariant (I := FollowsBehind reference length) []
  · constructor
    · intro i _ m hm
      cases hm
    · intro _
      exact ⟨starts.toStands, .fetch starts.fresh starts.quiet⟩
  · intro past m tick h hkeep
    exact h.step plain hfetches hkeep

/-! ## A program -/

/-- From 16 on `addi x1, x0, 5`, a store and a load of `x1` at 8 and a jump to 0, where `add x3, x2, x1` and
`addi x4, x3, 1` are. -/
def storeLoadJump : Ram where
  range := ⟨0, 32⟩
  data := [0x001101b3, 0x00118213, 0, 0, 0x00500093, 0x00102423, 0x00802103, 0xfe5ff06f].flatMap
    fun word : U32 => (toLeBytes word).toList

def storeLoadJumpDevices : Vector (DeviceSlot (LatencyAdapter Ram)) 1 :=
  #v[{ range := ⟨0, 32⟩, device := { inner := storeLoadJump, latencyCycles := 1 } }]

def storeLoadJumpReference : Reference where
  cpu := .new 16
  bus := (MemoryMap.fresh storeLoadJumpDevices).memoryOf 0

theorem storeLoadJump_plain : storeLoadJumpReference.Plain 6 :=
  ⟨⟨by decide, rfl, rfl⟩, by decide +kernel⟩

/-- The core behind split caches, a unified cache and a memory map with a slow memory. -/
def storeLoadJumpMachine : Machine ReferenceCore
    (SplitL1Cache twoWords twoWordLine (DirectMappedCache twoWords (MemoryMap (LatencyAdapter Ram) 1))) where
  cpu := .new 16
  bus := .new (.new (.fresh storeLoadJumpDevices) twoWords) twoWords twoWordLine

theorem within_storeLoadJump {config : CacheConfig} (h : config.cachedRanges = [⟨0, 16⟩]) :
    config.Within storeLoadJumpReference.bus.mapped := by
  intro addr hcaches
  have hlt : addr.toNat < 16 := by
    unfold CacheConfig.caches CacheConfig.cachesAddress at hcaches
    rw [h, Bool.and_eq_true, List.any_cons, List.any_nil, Bool.or_false] at hcaches
    unfold AddressRange.contains at hcaches
    rw [Bool.and_eq_true, decide_eq_true_iff, decide_eq_true_iff] at hcaches
    exact BitVec.lt_def.1 hcaches.1.2
  have hmapped : ∀ i : Fin 16, storeLoadJumpReference.bus.mapped (BitVec.ofNat 64 i) = true := by
    decide +kernel
  have hbyte := hmapped ⟨addr.toNat, hlt⟩
  rwa [BitVec.ofNat_toNat, BitVec.setWidth_eq] at hbyte

theorem startsBehind_storeLoadJump : StartsBehind storeLoadJumpReference storeLoadJumpMachine := by
  have hmap : (MemoryMap.fresh storeLoadJumpDevices).QuietAs storeLoadJumpReference.bus :=
    ⟨rfl, rfl, rfl, 0, MemoryMap.backs_memoryOf _ 0⟩
  have hunified : (DirectMappedCache.new (MemoryMap.fresh storeLoadJumpDevices) twoWords).QuietAs
      storeLoadJumpReference.bus :=
    ⟨⟨within_storeLoadJump rfl, rfl⟩, rfl, CacheBank.rests_new twoWords hmap⟩
  exact ⟨⟨⟨rfl, rfl⟩, by decide, rfl, rfl, rfl⟩, rfl,
    SplitL1Cache.freshQuiet_new (within_storeLoadJump rfl) (within_storeLoadJump rfl) hunified⟩

theorem cached_follows_storeLoadJump :
    FollowsBehind storeLoadJumpReference 6
      (storeLoadJumpMachine.retirements (List.replicate 60 Bus.tick))
      (storeLoadJumpMachine.runCycles (List.replicate 60 Bus.tick)) := by
  apply cached_follows storeLoadJump_plain (by decide +kernel) startsBehind_storeLoadJump
  intro tick htick
  obtain rfl := List.eq_of_mem_replicate htick
  exact keepsMemory_tick

end RvSim
