import RvSim.Core.Clock
import RvSim.Mmu.Resume

/-!
# Cycles that the bus suspends

A cycle of the reference core in which the bus is busy changes nothing but what the core needs to go on:
the page walker and the decoded instruction. The core then goes on as on a bus that is never busy.

## Main definitions

* `executing`: an instruction as a computation that the bus can suspend
* `ReferenceCore.CycleAttempt`: a cycle is suspended, or made as on the calm bus

## Main results

* `fetchDecoded_resumes`, `executeDecoded_resumes`: a suspended instruction goes on as on the calm bus
* `ReferenceCore.instructionStep_attempt`: so does a suspended cycle
-/

namespace RvSim

section Resumes

variable {M : Type} [Bus M] {state : HartState} {walker : PageWalker} {b : Scheduled M}
  {decoded : DecodedInstruction}

/-! ## Fetch -/

/-- What `fetchDecoded` answers when the bus is busy. -/
def FetchStalls (answer : Except CpuError ReferenceCore.Fetched) : Prop := answer = .ok .stall

/-- What the fetch of a word gives. -/
def fetchedOf (pc : U32) (answer : Except BusError U32) : Except CpuError ReferenceCore.Fetched :=
  match answer with
  | .ok raw =>
    match decode raw pc with
    | .ok decoded => .ok (.instruction decoded)
    | .error _ => .ok (.trap (.exception (.illegalInstruction raw)))
  | .error (.busy _) => .ok .stall
  | .error error =>
    match mapBusErrorToTrap error pc .instruction with
    | some trap => .ok (.trap trap)
    | none => .error (.bus error)

theorem fetchedOf_error {error : BusError} (h : error.isBusy = false) (pc : U32) :
    ∃ trap, fetchedOf pc (.error error) = .ok (.trap trap) := by
  obtain ⟨trap, htrap⟩ := mapBusErrorToTrap_isSome h pc .instruction
  cases error with
  | busy n => cases h
  | _ => exact ⟨trap, by simp only [fetchedOf, htrap]⟩

theorem fetchedOf_settled {answer : Except BusError U32} (h : Settled answer) (pc : U32) :
    ¬ FetchStalls (fetchedOf pc answer) := by
  rcases h.cases with ⟨raw, rfl⟩ | ⟨error, rfl, hbusy⟩
  · unfold fetchedOf FetchStalls
    dsimp only
    split <;> simp
  · obtain ⟨trap, htrap⟩ := fetchedOf_error hbusy pc
    rw [htrap]
    simp [FetchStalls]

theorem fetchDecoded_eq (state : HartState) :
    (fun walker (b : Scheduled M) => ReferenceCore.fetchDecoded state walker b) =
      accessThrough state.csrs state.privilege state.pc .instruction
        (fun pa b => Bus.fetch32 b (pa.setWidth 64)) (fetchedOf state.pc) (.ok .stall)
        (fun trap => .ok (.trap trap)) (fun error => .error (.bus error)) := by
  funext walker b
  unfold ReferenceCore.fetchDecoded accessThrough
  dsimp only
  rcases walker.translate b state.csrs state.privilege state.pc .instruction with
    ⟨error | ⟨pa | _ | trap⟩, w, b₁⟩
  · rfl
  · dsimp only
    rcases Bus.fetch32 b₁ (pa.setWidth 64) with ⟨error | raw, b₂⟩
    · cases error <;> rfl
    · unfold fetchedOf
      dsimp only
      rcases decode raw state.pc with error | decoded <;> rfl
  · rfl
  · rfl

/-- **A suspended fetch goes on as on the calm bus.** -/
theorem fetchDecoded_resumes [NeverBusy M] (state : HartState) (walker : PageWalker)
    (b : Scheduled M) (missed : walker.Missed) :
    Resumes FetchStalls (fun walker b => ReferenceCore.fetchDecoded state walker b) walker b := by
  rw [fetchDecoded_eq]
  have stalled : FetchStalls (.ok .stall) := rfl
  refine accessThrough_resumes stalled (fun n => ?_) (fun answer h => ?_) (fun trap => ?_)
    (fun error => ?_) (fun pa b => ?_) walker b missed
  · rfl
  · exact fetchedOf_settled h state.pc
  · simp [FetchStalls]
  · simp [FetchStalls]
  · exact b.attempts_fetch32 _

/-- Every fetch answers. -/
theorem fetchDecoded_ok (state : HartState) (walker : PageWalker) (b : Scheduled M) :
    ∃ fetched, (ReferenceCore.fetchDecoded state walker b).1 = .ok fetched := by
  have heq : ReferenceCore.fetchDecoded state walker b = _ :=
    congrFun (congrFun (fetchDecoded_eq state) walker) b
  rw [heq]
  let P (answer : Except CpuError ReferenceCore.Fetched) : Prop := ∃ fetched, answer = .ok fetched
  have hstalled : P (.ok .stall) := ⟨_, rfl⟩
  refine accessThrough_answer hstalled (fun answer => ?_) (fun trap => ⟨_, rfl⟩) walker b
  rcases answer with error | raw
  · rcases hbusy : error.isBusy with _ | _
    · obtain ⟨trap, htrap⟩ := fetchedOf_error hbusy state.pc
      exact ⟨_, htrap⟩
    · cases error with
      | busy n => exact ⟨_, rfl⟩
      | _ => cases hbusy
  · unfold fetchedOf
    dsimp only
    split <;> exact ⟨_, rfl⟩

/-! ## Execution -/

/-- The answer and the state that an instruction leaves. -/
abbrev Executed : Type := Except CpuError ExecutionResult × HartState

/-- What `executeDecoded` answers when the bus is busy. -/
def ExecuteStalls (answer : Executed) : Prop :=
  ∃ result, answer.1 = .ok result ∧ result.retired = 0 ∧ result.trap = none

/-- An instruction with its answer and state together. -/
def executing (state : HartState) (decoded : DecodedInstruction) (walker : PageWalker)
    (b : Scheduled M) : Executed × PageWalker × Scheduled M :=
  let out := executeDecoded state walker b decoded
  ((out.1, out.2.1), out.2.2)

/-- An instruction that is done at once, without the bus. -/
def Immediate {β : Type} (walker : PageWalker)
    (f : β → Except CpuError ExecutionResult × HartState × PageWalker × β) : Prop :=
  ∃ result state' walker', (∀ b, f b = (.ok result, state', walker', b)) ∧
    ¬ ExecuteStalls (.ok result, state') ∧ (walker.Missed → walker'.Missed)

/-- What follows a failed access. -/
def failedOf (state : HartState) (decoded : DecodedInstruction) (virtualAddress : U32)
    (access : MemoryAccess) (error : BusError) : Executed :=
  let out := failedAccess state .default () error virtualAddress access decoded.pc
  (out.1, out.2.1)

theorem failedAccess_failedOf {β : Type} (walker : PageWalker) (bus : β) (error : BusError)
    (virtualAddress : U32) (access : MemoryAccess) :
    failedAccess state walker bus error virtualAddress access decoded.pc =
      ((failedOf state decoded virtualAddress access error).1,
        (failedOf state decoded virtualAddress access error).2, walker, bus) := by
  unfold failedOf failedAccess
  cases error with
  | busy n => rfl
  | _ => rfl

theorem failedOf_settled {error : BusError} (h : error.isBusy = false) (virtualAddress : U32)
    (access : MemoryAccess) : ¬ ExecuteStalls (failedOf state decoded virtualAddress access error) := by
  obtain ⟨trap, htrap⟩ := mapBusErrorToTrap_isSome h virtualAddress access
  cases error with
  | busy n => cases h
  | _ =>
    simp only [failedOf, failedAccess, htrap, ExecuteStalls, trapped, applyTrap]
    simp

section Immediate

variable {β : Type} {trap : Trap} {pc : U32} {memoryAccess : Bool}

theorem Immediate.retire (state : HartState) {walker' : PageWalker}
    (h : walker.Missed → walker'.Missed) :
    Immediate walker (RvSim.retire state walker' : β → _) :=
  ⟨{ retired := 1 }, state, walker', fun _ => rfl, by simp [ExecuteStalls], h⟩

theorem Immediate.trapped (state : HartState) :
    Immediate walker fun b : β => RvSim.trapped state walker b trap pc memoryAccess := by
  refine ⟨_, _, walker, fun _ => rfl, ?_, fun h => h⟩
  simp [ExecuteStalls]

theorem Immediate.ite {p : Prop} [Decidable p]
    {f g : β → Except CpuError ExecutionResult × HartState × PageWalker × β}
    (hf : Immediate walker f) (hg : Immediate walker g) :
    Immediate walker fun b => if p then f b else g b := by
  by_cases h : p
  · simpa only [if_pos h] using hf
  · simpa only [if_neg h] using hg

/-- Every instruction but a load or a store is done at once. -/
theorem executeDecoded_immediate [Bus β] (state : HartState) (walker : PageWalker)
    (hload : ∀ kind, decoded.kind ≠ .load kind) (hstore : ∀ kind, decoded.kind ≠ .store kind) :
    Immediate walker fun b : β => executeDecoded state walker b decoded := by
  have returned : ∀ kind, Immediate walker fun b : β =>
      ((.ok (returnFromTrap state kind).2, (returnFromTrap state kind).1, walker, b) :
        Except CpuError ExecutionResult × HartState × PageWalker × β) := fun kind =>
    ⟨_, _, walker, fun _ => rfl, by simp [ExecuteStalls, returnFromTrap], fun h => h⟩
  unfold executeDecoded
  rcases hkind : decoded.kind with _ | _ | _ | _ | kind | kind | kind | op | op | op | kind
  case load => exact absurd hkind (hload kind)
  case store => exact absurd hkind (hstore kind)
  case branch => exact .ite (.retire _ fun h => h) (.retire _ fun h => h)
  case csr =>
    dsimp only
    rcases decoded.csr with _ | csr
    · exact .trapped _
    · rcases csrExecute decoded state.csrs _ with _ | outcome
      · exact .trapped _
      · exact .ite (.trapped _) (.ite (.trapped _) (.ite (.trapped _) (.retire _ fun h => h)))
  case system =>
    cases kind with
    | ecall => exact .trapped _
    | ebreak => exact .trapped _
    | sfenceVma => exact .ite (.trapped _) (.retire _ fun h => h.flushFence _)
    | wfi => exact .ite (.trapped _) (.retire _ fun h => h)
    | mret => exact .ite (.trapped _) (returned .mret)
    | sret => exact .ite (.trapped _) (returned .sret)
  all_goals exact .retire _ fun h => h

end Immediate

/-- What follows the answer of a load. -/
def loadedOf (state : HartState) (decoded : DecodedInstruction) (virtualAddress : U32)
    (answer : Except BusError U32) : Executed :=
  match answer with
  | .ok value =>
    (.ok { retired := 1, memoryAccess := true },
      { writeRd state decoded.rd value with pc := decoded.pc + 4 })
  | .error error => failedOf state decoded virtualAddress .load error

/-- What follows the answer of a store. -/
def storedOf (state : HartState) (decoded : DecodedInstruction) (virtualAddress : U32)
    (answer : Except BusError Unit) : Executed :=
  match answer with
  | .ok () => (.ok { retired := 1, memoryAccess := true }, { state with pc := decoded.pc + 4 })
  | .error error => failedOf state decoded virtualAddress .store error

/-- What follows a fault of the page walk. -/
def faultedOf (state : HartState) (decoded : DecodedInstruction) (trap : Trap) : Executed :=
  let out := trapped state .default () trap decoded.pc true
  (out.1, out.2.1)

def suspendedOf (state : HartState) : Executed := (.ok { memoryAccess := true }, state)

/-- The address of a load or store. -/
def accessAddress (state : HartState) (decoded : DecodedInstruction) : U32 :=
  effectiveAddress ((decoded.rs1.map state.registers.read).getD 0) decoded.imm

theorem executing_load {kind : LoadKind} (hkind : decoded.kind = .load kind) (state : HartState) :
    (executing state decoded : PageWalker → Scheduled M → _) =
      accessThrough state.csrs state.privilege (accessAddress state decoded) .load
        (fun pa b => loadValue b kind (pa.setWidth 64))
        (loadedOf state decoded (accessAddress state decoded)) (suspendedOf state)
        (faultedOf state decoded) (fun error => (.error (.bus error), state)) := by
  funext walker b
  unfold executing executeDecoded accessThrough
  simp only [hkind]
  rw [← accessAddress]
  rcases walker.translate b state.csrs state.privilege (accessAddress state decoded) .load with
    ⟨error | ⟨pa | _ | trap⟩, w, b₁⟩
  · rfl
  · dsimp only
    rcases loadValue b₁ kind (pa.setWidth 64) with ⟨error | value, b₂⟩
    · dsimp only
      rw [failedAccess_failedOf]
      rfl
    · rfl
  · rfl
  · rfl

theorem executing_store {kind : StoreKind} (hkind : decoded.kind = .store kind)
    (state : HartState) :
    (executing state decoded : PageWalker → Scheduled M → _) =
      accessThrough state.csrs state.privilege (accessAddress state decoded) .store
        (fun pa b => storeValue b kind (pa.setWidth 64)
          ((decoded.rs2.map state.registers.read).getD 0))
        (storedOf state decoded (accessAddress state decoded)) (suspendedOf state)
        (faultedOf state decoded) (fun error => (.error (.bus error), state)) := by
  funext walker b
  unfold executing executeDecoded accessThrough
  simp only [hkind]
  rw [← accessAddress]
  rcases walker.translate b state.csrs state.privilege (accessAddress state decoded) .store with
    ⟨error | ⟨pa | _ | trap⟩, w, b₁⟩
  · rfl
  · dsimp only
    rcases storeValue b₁ kind (pa.setWidth 64) _ with ⟨error | value, b₂⟩
    · dsimp only
      rw [failedAccess_failedOf]
      rfl
    · rfl
  · rfl
  · rfl

theorem loadedOf_settled {answer : Except BusError U32} (h : Settled answer) (virtualAddress : U32) :
    ¬ ExecuteStalls (loadedOf state decoded virtualAddress answer) := by
  rcases h.cases with ⟨value, rfl⟩ | ⟨error, rfl, hbusy⟩
  · simp [loadedOf, ExecuteStalls]
  · exact failedOf_settled hbusy _ _

theorem storedOf_settled {answer : Except BusError Unit} (h : Settled answer)
    (virtualAddress : U32) : ¬ ExecuteStalls (storedOf state decoded virtualAddress answer) := by
  rcases h.cases with ⟨value, rfl⟩ | ⟨error, rfl, hbusy⟩
  · simp [storedOf, ExecuteStalls]
  · exact failedOf_settled hbusy _ _

/-- An instruction has an answer, and leaves the state alone when it is suspended. -/
structure Answered (state : HartState) (answer : Executed) : Prop where
  ok : ∃ result, answer.1 = .ok result
  stalls : ExecuteStalls answer → answer = suspendedOf state

theorem answered_suspendedOf (state : HartState) : Answered state (suspendedOf state) :=
  ⟨⟨_, rfl⟩, fun _ => rfl⟩

theorem Answered.of_settled {answer : Executed} (h : ¬ ExecuteStalls answer)
    (ok : ∃ result, answer.1 = .ok result) : Answered state answer :=
  ⟨ok, fun hstalls => absurd hstalls h⟩

theorem answered_failedOf (virtualAddress : U32) (access : MemoryAccess) (error : BusError) :
    Answered state (failedOf state decoded virtualAddress access error) := by
  rcases hbusy : error.isBusy with _ | _
  · refine .of_settled (failedOf_settled hbusy _ _) ?_
    obtain ⟨trap, htrap⟩ := mapBusErrorToTrap_isSome hbusy virtualAddress access
    cases error with
    | busy n => cases hbusy
    | _ =>
      simp only [failedOf, failedAccess, htrap, trapped]
      exact ⟨_, rfl⟩
  · cases error with
    | busy n => exact answered_suspendedOf state
    | _ => cases hbusy

theorem answered_faultedOf (trap : Trap) : Answered state (faultedOf state decoded trap) := by
  refine .of_settled ?_ ⟨_, rfl⟩
  simp [ExecuteStalls, faultedOf, trapped, applyTrap]

/-- Every instruction has an answer. -/
theorem executing_answered (state : HartState) (decoded : DecodedInstruction) (walker : PageWalker)
    (b : Scheduled M) : Answered state (executing state decoded walker b).1 := by
  by_cases hload : ∃ kind, decoded.kind = .load kind
  · obtain ⟨kind, hkind⟩ := hload
    rw [executing_load hkind]
    refine accessThrough_answer (answered_suspendedOf state) (fun answer => ?_) answered_faultedOf
      walker b
    rcases answer with error | value
    · exact answered_failedOf _ _ error
    · exact .of_settled (by simp [loadedOf, ExecuteStalls]) ⟨_, rfl⟩
  by_cases hstore : ∃ kind, decoded.kind = .store kind
  · obtain ⟨kind, hkind⟩ := hstore
    rw [executing_store hkind]
    refine accessThrough_answer (answered_suspendedOf state) (fun answer => ?_) answered_faultedOf
      walker b
    rcases answer with error | value
    · exact answered_failedOf _ _ error
    · exact .of_settled (by simp [storedOf, ExecuteStalls]) ⟨_, rfl⟩
  · obtain ⟨result, state', walker', heq, hstalls, -⟩ :=
      @executeDecoded_immediate decoded (Scheduled M) _ state walker (not_exists.mp hload)
        (not_exists.mp hstore)
    have h : executeDecoded state walker b decoded = _ := heq b
    unfold executing
    rw [h]
    exact .of_settled hstalls ⟨_, rfl⟩

/-- **A suspended instruction goes on as on the calm bus.** -/
theorem executeDecoded_resumes [NeverBusy M] (state : HartState) (decoded : DecodedInstruction)
    (walker : PageWalker) (b : Scheduled M) (missed : walker.Missed) :
    Resumes ExecuteStalls (executing state decoded) walker b := by
  have faulted : ∀ trap, ¬ ExecuteStalls (faultedOf state decoded trap) := fun trap => by
    simp [ExecuteStalls, faultedOf, trapped, applyTrap]
  have failed : ∀ error, ¬ ExecuteStalls (.error (.bus error), state) := fun error => by
    simp [ExecuteStalls]
  have stalled : ExecuteStalls (suspendedOf state) := ⟨_, rfl, rfl, rfl⟩
  -- loads and stores go through the MMU, the rest makes no access
  by_cases hload : ∃ kind, decoded.kind = .load kind
  · obtain ⟨kind, hkind⟩ := hload
    rw [executing_load hkind]
    refine accessThrough_resumes stalled (fun n => stalled) (fun answer h => ?_) faulted failed
      (fun pa b => ?_) walker b missed
    · exact loadedOf_settled h _
    · exact b.attempts_loadValue _ kind
  by_cases hstore : ∃ kind, decoded.kind = .store kind
  · obtain ⟨kind, hkind⟩ := hstore
    rw [executing_store hkind]
    refine accessThrough_resumes stalled (fun n => stalled) (fun answer h => ?_) faulted failed
      (fun pa b => ?_) walker b missed
    · exact storedOf_settled h _
    · exact b.attempts_storeValue _ kind _
  · obtain ⟨result, state', walker', heq, hstalls, hmissed⟩ :=
      @executeDecoded_immediate decoded (Scheduled M) _ state walker (not_exists.mp hload)
        (not_exists.mp hstore)
    have hout : ∀ b : Scheduled M, executing state decoded walker b =
        ((.ok result, state'), walker', b) := by
      intro b
      have h : executeDecoded state walker b decoded = _ := heq b
      unfold executing
      rw [h]
    have settled : ¬ ExecuteStalls (executing state decoded walker b).1 := by
      rw [hout]
      exact hstalls
    refine ⟨fun _ => ?_, fun h => absurd h settled, fun h => absurd h settled, fun _ _ => ?_, ?_, ?_⟩
    · rw [hout, hout]
    · rw [hout]
    · rw [hout]
    · rw [hout]
      exact hmissed missed

/-! ## Cycles -/

namespace ReferenceCore

variable {core : ReferenceCore} {w : PageWalker} {b' : Scheduled M}

/-- The core after a cycle that the bus has suspended. -/
def resumed (core : ReferenceCore) (pageWalker : PageWalker)
    (pendingDecoded : Option DecodedInstruction) : ReferenceCore :=
  { core with pageWalker, pendingDecoded, lastResult := { memoryAccess := true } }

/-- The end of a cycle in which an instruction has been executed. -/
def retiredAs (core : ReferenceCore) (decoded : DecodedInstruction)
    (out : Executed × PageWalker × Scheduled M) (result : ExecutionResult) :
    Except CpuError CpuCycle × ReferenceCore × Scheduled M :=
  (.ok { retiredInstructions := result.retired, stalled := result.retired == 0 },
    { core with
      state := { out.1.2 with csrs := out.1.2.csrs.incrementInstret result.retired }
      pageWalker := out.2.1
      pendingDecoded := if result.retired == 0 && result.trap.isNone then some decoded else none
      lastResult := result },
    out.2.2)

theorem executeStep_eq {result : ExecutionResult}
    (h : (executing core.state decoded walker b).1.1 = .ok result) :
    core.executeStep walker b decoded =
      core.retiredAs decoded (executing core.state decoded walker b) result := by
  unfold executing at h ⊢
  unfold executeStep retiredAs
  rcases hout : executeDecoded core.state walker b decoded with ⟨error | result', state, w, b'⟩
  · rw [hout] at h
    cases h
  · rw [hout] at h
    obtain rfl := Except.ok.inj h
    rfl

/-- What a core has kept of a suspended cycle does not matter. -/
theorem executeStep_resumed (core : ReferenceCore) (w walker : PageWalker)
    (pending : Option DecodedInstruction) (b : Scheduled M) :
    (core.resumed w pending).executeStep walker b decoded = core.executeStep walker b decoded := by
  obtain ⟨result, hresult⟩ := (executing_answered core.state decoded walker b).ok
  rw [executeStep_eq hresult]
  exact executeStep_eq hresult

variable [NeverBusy M]

/-- What executing an instruction in a cycle does on a bus, against the calm bus. -/
theorem executeStep_attempt (core : ReferenceCore) (decoded : DecodedInstruction)
    (walker : PageWalker) (b : Scheduled M) (missed : walker.Missed) :
    (∃ answer w b', core.executeStep walker b decoded =
        (answer, core.resumed w (some decoded), b') ∧ w.Missed ∧
      core.executeStep w b'.calm decoded = core.executeStep walker b.calm decoded ∧
      b.log <+: b'.log ∧ (b'.log = b.log → b'.busy < b.busy)) ∨
    (∃ answer core' b', core.executeStep walker b decoded = (answer, core', b') ∧
      core.executeStep walker b.calm decoded = (answer, core', b'.calm) ∧
      core'.pendingDecoded = none ∧ core'.pageWalker.Missed ∧ b.log <+: b'.log ∧
      (core'.lastResult.retired ≠ 0 ∨ core'.lastResult.trap ≠ none)) := by
  have resumes := executeDecoded_resumes core.state decoded walker b missed
  have answered := executing_answered core.state decoded walker b
  obtain ⟨result, hresult⟩ := answered.ok
  rw [executeStep_eq hresult]
  by_cases hstalls : ExecuteStalls (executing core.state decoded walker b).1
  · left
    -- the instruction is kept, and the next cycle makes the same step
    have hsuspended := answered.stalls hstalls
    refine ⟨.ok stalledCycle, (executing core.state decoded walker b).2.1,
      (executing core.state decoded walker b).2.2, ?_, resumes.missed, ?_, resumes.grows,
      resumes.less hstalls⟩
    · rw [hsuspended] at hresult
      obtain rfl := Except.ok.inj hresult
      unfold retiredAs
      rw [hsuspended]
      simp only [suspendedOf, CsrFile.incrementInstret_zero]
      rfl
    · obtain ⟨result', hresult'⟩ := (executing_answered core.state decoded walker b.calm).ok
      have hagain := resumes.resumes hstalls
      rw [executeStep_eq hresult']
      rw [← hagain] at hresult' ⊢
      exact executeStep_eq hresult'
  · right
    -- the instruction retires or traps, and is not kept
    have hcalm := resumes.done hstalls
    refine ⟨_, _, _, rfl, ?_, ?_, resumes.missed, resumes.grows, ?_⟩
    · have hresult' : (executing core.state decoded walker b.calm).1.1 = .ok result := by
        rw [hcalm]
        exact hresult
      rw [executeStep_eq hresult', hcalm]
      rfl
    · show (if result.retired == 0 && result.trap.isNone then some decoded else none) = none
      rw [if_neg]
      intro hpending
      rw [Bool.and_eq_true, beq_iff_eq, Option.isNone_iff_eq_none] at hpending
      exact hstalls ⟨result, hresult, hpending.1, hpending.2⟩
    · by_contra hnone
      rw [not_or, not_not, not_not] at hnone
      exact hstalls ⟨result, hresult, hnone.1, hnone.2⟩

/-- What a cycle does on a bus, against the calm bus. -/
inductive CycleAttempt (core : ReferenceCore) (b : Scheduled M) :
    Except CpuError CpuCycle × ReferenceCore × Scheduled M → Prop
  | suspended {answer : Except CpuError CpuCycle} {w : PageWalker}
      {pending : Option DecodedInstruction} {b' : Scheduled M} (missed : w.Missed)
      (resumes : (core.resumed w pending).instructionStep b'.calm = core.instructionStep b.calm)
      (same : (core.resumed w pending).inProgress b'.calm = core.inProgress b.calm)
      (grows : b.log <+: b'.log) (less : b'.log = b.log → b'.busy < b.busy) :
      CycleAttempt core b (answer, core.resumed w pending, b')
  | done {answer : Except CpuError CpuCycle} {core' : ReferenceCore} {b' : Scheduled M}
      (eq : core.instructionStep b.calm = (answer, core', b'.calm))
      (boundary : core'.pendingDecoded = none) (missed : core'.pageWalker.Missed)
      (grows : b.log <+: b'.log)
      (ends : core'.lastResult.retired ≠ 0 ∨ core'.lastResult.trap ≠ none) :
      CycleAttempt core b (answer, core', b')

section

omit [NeverBusy M]

theorem instructionStep_pending (core : ReferenceCore) {decoded : DecodedInstruction} (b : Scheduled M)
    (hrunning : core.state.halted = false) (hpending : core.pendingDecoded = some decoded) :
    core.instructionStep b = core.executeStep core.pageWalker b decoded := by
  simp [instructionStep, interrupt, hrunning, hpending]

theorem instructionStep_fetch (core : ReferenceCore) (b : Scheduled M)
    (hinterrupt : core.state.csrs.pendingInterrupt core.state.privilege = none)
    (hrunning : core.state.halted = false) (hpending : core.pendingDecoded = none) :
    core.instructionStep b =
      match fetchDecoded core.state core.pageWalker b with
      | (.ok (.instruction decoded), walker, bus) => core.executeStep walker bus decoded
      | (.ok .stall, pageWalker, bus) =>
        (.ok stalledCycle, { core with pageWalker, lastResult := { memoryAccess := true } }, bus)
      | (.ok (.trap trap), pageWalker, bus) =>
        let (state, lastResult) := applyTrap core.state trap core.state.pc
        (.ok stalledCycle, { core with state, pageWalker, lastResult }, bus)
      | (.error error, pageWalker, bus) => (.error error, { core with pageWalker }, bus) := by
  simp only [instructionStep, interrupt, hinterrupt, hrunning, ite_self,
    Bool.false_eq_true, if_false]
  rw [hpending]
  rcases fetchDecoded core.state core.pageWalker b with ⟨error | ⟨decoded | _ | trap⟩, w, b'⟩ <;> rfl

theorem inProgress_pending (core : ReferenceCore) {decoded : DecodedInstruction} (b : Scheduled M)
    (hpending : core.pendingDecoded = some decoded) : core.inProgress b = some decoded := by
  simp [inProgress, hpending]

theorem inProgress_fetched {decoded : DecodedInstruction} {b : Scheduled M}
    (hpending : core.pendingDecoded = none)
    (h : (fetchDecoded core.state core.pageWalker b).1 = .ok (.instruction decoded)) :
    core.inProgress b = some decoded := by
  simp [inProgress, hpending, h]

end

/-- **A cycle is suspended, or made as on the calm bus.** -/
theorem instructionStep_attempt (core : ReferenceCore) (b : Scheduled M)
    (hinterrupt : core.state.csrs.pendingInterrupt core.state.privilege = none)
    (hrunning : core.state.halted = false) (missed : core.pageWalker.Missed) :
    CycleAttempt core b (core.instructionStep b) := by
  -- a cycle starts with the fetch, or goes on with the instruction that is kept
  rcases hpending : core.pendingDecoded with _ | decoded
  · have fetch := fetchDecoded_resumes core.state core.pageWalker b missed
    obtain ⟨fetched, hfetched⟩ := fetchDecoded_ok core.state core.pageWalker b
    have step := fun b : Scheduled M => instructionStep_fetch core b hinterrupt hrunning hpending
    rcases hf : fetchDecoded core.state core.pageWalker b with ⟨r, w₁, b₁⟩
    rw [hf] at hfetched
    obtain rfl := hfetched
    cases fetched with
    | instruction decoded =>
      have hcalm := fetch.done (by rw [hf]; simp [FetchStalls])
      have hsame := fetch.same (by rw [hf]; simp [FetchStalls])
      have hgrows := fetch.grows
      have hmissed := fetch.missed
      rw [hf] at hcalm hsame hgrows hmissed
      dsimp only at hcalm hsame hgrows hmissed
      have heq : core.instructionStep b = core.executeStep w₁ b₁ decoded := by
        rw [step, hf]
      have heq' : core.instructionStep b.calm = core.executeStep w₁ b₁.calm decoded := by
        rw [step, hcalm]
      rw [heq]
      rcases core.executeStep_attempt decoded w₁ b₁ hmissed with
        ⟨answer, w₂, b₂, hout, hmissed', hagain, hgrows', hless⟩ |
          ⟨answer, core', b₂, hout, hagain, hnone, hmissed', hgrows', hends⟩
      · rw [hout]
        refine .suspended hmissed' ?_ ?_ (hgrows.trans hgrows') fun hlog => ?_
        · rw [instructionStep_pending (core.resumed w₂ (some decoded)) b₂.calm hrunning rfl,
            executeStep_resumed, heq']
          exact hagain
        · rw [inProgress_pending (core.resumed w₂ (some decoded)) b₂.calm rfl,
            inProgress_fetched hpending (by rw [hcalm])]
        · -- no access has been made since the start of the cycle
          have hlog₁ : b₁.log = b.log :=
            List.IsPrefix.eq_of_length_le (hlog ▸ hgrows') hgrows.length_le
          have hbus : b₁ = b := hsame hlog₁
          rw [← hbus] at hlog ⊢
          exact hless hlog
      · rw [hout]
        exact .done (heq'.trans hagain) hnone hmissed' (hgrows.trans hgrows') hends
    | stall =>
      -- the fetch is suspended: nothing is kept, and the next cycle fetches again
      have hstalls : FetchStalls (fetchDecoded core.state core.pageWalker b).1 := by rw [hf]; rfl
      have hagain := fetch.resumes hstalls
      have hless := fetch.less hstalls
      have hgrows := fetch.grows
      have hmissed := fetch.missed
      rw [hf] at hagain hless hgrows hmissed
      dsimp only at hagain hless hgrows hmissed
      have heq : core.instructionStep b = (.ok stalledCycle, core.resumed w₁ none, b₁) := by
        rw [step, hf]
        unfold resumed
        rw [← hpending]
      rw [heq]
      refine .suspended hmissed ?_ ?_ hgrows hless
      · rw [step, instructionStep_fetch (core.resumed w₁ none) b₁.calm hinterrupt hrunning rfl]
        have hfetch : fetchDecoded (core.resumed w₁ none).state (core.resumed w₁ none).pageWalker
            b₁.calm = fetchDecoded core.state core.pageWalker b.calm := hagain
        rw [hfetch]
        obtain ⟨fetched, hfetched⟩ := fetchDecoded_ok core.state core.pageWalker b.calm
        have hcalm := Resumes.calm_settled (fetchDecoded_resumes core.state) missed b
        rcases hc : fetchDecoded core.state core.pageWalker b.calm with ⟨r, w₂, b₂⟩
        rw [hc] at hfetched
        obtain rfl := hfetched
        cases fetched with
        | instruction decoded => exact executeStep_resumed core w₁ w₂ none b₂
        | stall =>
          rw [hc] at hcalm
          exact absurd rfl hcalm
        | trap trap =>
          dsimp only [resumed]
          rw [hpending]
      · have hfetch : fetchDecoded (core.resumed w₁ none).state (core.resumed w₁ none).pageWalker
            b₁.calm = fetchDecoded core.state core.pageWalker b.calm := hagain
        unfold inProgress
        rw [hfetch, hpending]
        rfl
    | trap trap =>
      have hcalm := fetch.done (by rw [hf]; simp [FetchStalls])
      have hgrows := fetch.grows
      have hmissed := fetch.missed
      rw [hf] at hcalm hgrows hmissed
      rw [step, hf]
      -- a fault of the fetch ends the cycle
      refine .done ?_ hpending hmissed hgrows (.inr ?_)
      · rw [step, hcalm]
        rfl
      · simp
  · have step := fun b : Scheduled M => instructionStep_pending core b hrunning hpending
    rw [step]
    rcases core.executeStep_attempt decoded core.pageWalker b missed with
      ⟨answer, w, b', hout, hmissed, hagain, hgrows, hless⟩ |
        ⟨answer, core', b', hout, hagain, hnone, hmissed, hgrows, hends⟩
    · rw [hout]
      refine .suspended hmissed ?_ ?_ hgrows hless
      · rw [step, instructionStep_pending (core.resumed w (some decoded)) b'.calm hrunning rfl,
          executeStep_resumed]
        exact hagain
      · rw [inProgress_pending (core.resumed w (some decoded)) b'.calm rfl,
          inProgress_pending core b.calm hpending]
    · rw [hout]
      exact .done ((step b.calm).trans hagain) hnone hmissed hgrows hends

end ReferenceCore

end Resumes

end RvSim
