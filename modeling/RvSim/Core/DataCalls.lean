import RvSim.Core.Calls
import RvSim.System.BusyMemory
import RvSim.System.RecordedBus

/-!
# The data calls of a cycle

MEM makes the bus call of a load or store behind the translation of its address, and makes none where the
translation waits or faults. On a bus that records its calls, the data calls of a cycle are those that the
stages up to ID have left in the record, but for the page walk of MEM.

## Main definitions

* `ExMemPayload.requestAt`, `ExMemPayload.loaded`: the call of a load or store, and what it hands on
* `DataCall`, `PipelineCore.dataCalls`: the data calls of a cycle, with the load or store they are for
* `PipelineCore.DataCycle`: no data call, or the one call of the load or store in EX/MEM

## Main results

* `MemStage.access_found`, `MemStage.access_unfound`: MEM makes one call behind a translation, or none
* `PipelineCore.dataCycle`: the data calls of a running cycle
-/

namespace RvSim

/-! ## Loads and stores in MEM -/

/-- The load or store in a MEM/WB latch. -/
def dataAccess (latch : Option MemWbPayload) : List MemWbPayload :=
  latch.toList.filter fun q => ExStage.usesMemory q.decoded

theorem dataAccess_of_usesMemory {q : MemWbPayload} (h : ExStage.usesMemory q.decoded = true) :
    dataAccess (some q) = [q] := by
  simp [dataAccess, h]

namespace ExMemPayload

/-- The translation a load or store asks for. -/
def accessKind (x : ExMemPayload) : Option MemoryAccess :=
  match x.decoded.kind with
  | .load _ => some .load
  | .store _ => some .store
  | _ => none

/-- The bus call of a load or store at a physical address. -/
def requestAt (x : ExMemPayload) (physicalAddress : U32) : Option BusRequest :=
  match x.decoded.kind with
  | .load kind => some (kind.request (physicalAddress.setWidth 64))
  | .store kind => some (kind.request (physicalAddress.setWidth 64) x.storeValue)
  | _ => none

/-- What a load or store hands to write-back of the value the bus has answered. -/
def loaded (x : ExMemPayload) (value : U32) : Option U32 :=
  match x.decoded.kind with
  | .load kind => some (kind.extend value)
  | _ => none

theorem accessKind_eq_some {x : ExMemPayload} {kind : MemoryAccess} (h : x.accessKind = some kind) :
    (∃ k, x.decoded.kind = .load k ∧ kind = .load) ∨ ∃ k, x.decoded.kind = .store k ∧ kind = .store := by
  unfold accessKind at h
  generalize x.decoded.kind = instruction at h
  cases instruction with
  | load k => exact .inl ⟨k, rfl, (Option.some.inj h).symm⟩
  | store k => exact .inr ⟨k, rfl, (Option.some.inj h).symm⟩
  | _ => cases h

theorem usesMemory_of_accessKind {x : ExMemPayload} {kind : MemoryAccess} (h : x.accessKind = some kind) :
    ExStage.usesMemory x.decoded = true := by
  unfold ExStage.usesMemory
  obtain ⟨k, hk, -⟩ | ⟨k, hk, -⟩ := accessKind_eq_some h
  · rw [hk]
  · rw [hk]

theorem not_usesMemory_of_accessKind {x : ExMemPayload} (h : x.accessKind = none) :
    ExStage.usesMemory x.decoded = false := by
  unfold accessKind at h
  unfold ExStage.usesMemory
  generalize x.decoded.kind = instruction at h
  cases instruction with
  | load k => cases h
  | store k => cases h
  | _ => rfl

end ExMemPayload

namespace MemStage

variable {β : Type} [Bus β] {bus b : β} {walker w : PageWalker} {csrs : CsrFile} {privilege : PrivilegeMode}
  {x : ExMemPayload} {kind : MemoryAccess}

/-- What MEM makes of the answer of the bus. -/
def answered (w : PageWalker) (x : ExMemPayload) (kind : MemoryAccess) :
    Except BusError U32 × β → Except BusError MemoryEvent × PageWalker × β
  | (.ok value, b) => (.ok (.advance (x.advance (x.loaded value))), w, b)
  | (.error error, b) => failed w b x error (x.memoryAddress.getD 0) kind

/-- **Behind a translation that has found an address, MEM makes one call** and answers as the bus does. -/
theorem access_found {physicalAddress : U32} (hkind : x.accessKind = some kind)
    (found : walker.translate bus csrs privilege (x.memoryAddress.getD 0) kind =
      (.ok (.physicalAddress physicalAddress), w, b)) :
    ∃ request, x.requestAt physicalAddress = some request ∧
      access bus walker csrs privilege x = answered w x kind (request.call b) := by
  obtain ⟨k, hk, rfl⟩ | ⟨k, hk, rfl⟩ := ExMemPayload.accessKind_eq_some hkind
  · refine ⟨k.request (physicalAddress.setWidth 64), ?_, ?_⟩
    · rw [ExMemPayload.requestAt, hk]
    unfold access
    simp only [hk, found, loadValue_eq]
    rcases (k.request (physicalAddress.setWidth 64)).call b with ⟨error | value, b'⟩
    · rfl
    · simp only [answered, ExMemPayload.loaded, hk]
      rfl
  · refine ⟨k.request (physicalAddress.setWidth 64) x.storeValue, ?_, ?_⟩
    · rw [ExMemPayload.requestAt, hk]
    unfold access
    simp only [hk, found, storeValue_eq]
    rcases (k.request (physicalAddress.setWidth 64) x.storeValue).call b with ⟨error | value, b'⟩
    · rfl
    · simp only [answered, ExMemPayload.loaded, hk]
      rfl

/-- **Behind any other translation, MEM makes no call** and completes nothing. -/
theorem access_unfound {answer : Except BusError TranslationResult} (hkind : x.accessKind = some kind)
    (unfound : walker.translate bus csrs privilege (x.memoryAddress.getD 0) kind = (answer, w, b))
    (hanswer : ∀ physicalAddress, answer ≠ .ok (.physicalAddress physicalAddress)) :
    (access bus walker csrs privilege x).2.2 = b ∧
      ∀ q, (access bus walker csrs privilege x).1 ≠ .ok (.advance q) := by
  obtain ⟨k, hk, rfl⟩ | ⟨k, hk, rfl⟩ := ExMemPayload.accessKind_eq_some hkind
  all_goals
    unfold access
    simp only [hk, unfound]
    rcases answer with error | ⟨pa | _ | trap⟩
    · exact ⟨rfl, fun q h => by cases h⟩
    · exact absurd rfl (hanswer pa)
    · exact ⟨rfl, fun q h => by cases h⟩
    · exact ⟨rfl, fun q h => by cases h⟩

end MemStage

/-! ## The data calls of a cycle -/

/-- A bus call that is neither of a page walk nor of IF: the load or store in EX/MEM, with the address its
own has been translated to in this cycle, and the call. -/
structure DataCall where
  target : Option (ExMemPayload × U32)
  call : RecordedCall
  deriving DecidableEq

namespace DataCall

/-- The call is that of its load or store, at the address found for it. -/
def Owned (call : DataCall) : Prop :=
  (call.target.bind fun (x, physicalAddress) => x.requestAt physicalAddress) = some call.call.request

instance (call : DataCall) : Decidable call.Owned := inferInstanceAs (Decidable (_ = _))

/-- The load or store in MEM/WB behind a call that the bus has performed. -/
def completes (call : DataCall) : Option MemWbPayload :=
  match call.target, call.call.answer with
  | some (x, _), .ok value => some (x.advance (x.loaded value))
  | _, _ => none

/-- Behind a call answered Busy, `next` is the same call again. -/
def RepeatedBy (call next : DataCall) : Prop :=
  call.call.isBusy = true → next.target = call.target ∧ next.call.request = call.call.request

instance : DecidableRel RepeatedBy := fun _ _ => inferInstanceAs (Decidable (_ → _))

end DataCall

/-- The address that a translation has found. -/
def foundAddress (answer : Except BusError TranslationResult) : Option U32 :=
  match answer with
  | .ok (.physicalAddress physicalAddress) => some physicalAddress
  | _ => none

namespace PipelineCore

variable {β : Type} [Bus β]

/-- The translation of MEM in a running cycle. -/
def dataTranslation (core : PipelineCore) (bus : β) :
    Option (ExMemPayload × Except BusError TranslationResult × PageWalker × β) :=
  if (core.written bus).takenInterrupt.isSome then none
  else core.latches.exMem.bind fun x => x.accessKind.map fun kind =>
    (x, (core.written bus).pageWalker.translate bus (core.written bus).state.csrs
      (core.written bus).state.privilege (x.memoryAddress.getD 0) kind)

/-- The bus that the stages up to ID leave. -/
def backBus (core : PipelineCore) (bus : β) : β :=
  match core.backStages bus with
  | .ok l => l.bus
  | .error (_, l) => l.bus

/-- The data calls of a cycle. -/
def dataCalls (core : PipelineCore) (bus : RecordedBus β) : List DataCall :=
  if core.state.halted then []
  else
    let record := (core.backBus bus).record
    match core.dataTranslation bus with
    | none => (record.drop bus.record.length).map (⟨none, ·⟩)
    | some (x, answer, _, walked) =>
      (record.drop walked.record.length).map (⟨(foundAddress answer).map (x, ·), ·⟩)

end PipelineCore

/-! ## The calls of one cycle -/

namespace StepLocals

variable {β : Type} (l : StepLocals β) (current : PipelineLatches)

@[simp] theorem executeStage_bus : (l.executeStage current).bus = l.bus := by
  unfold executeStage
  split
  · rfl
  · split
    · dsimp only
      split <;> rfl
    · rfl

@[simp] theorem decodeStage_bus : (l.decodeStage current).bus = l.bus := by
  unfold decodeStage
  split
  · split
    · rfl
    · split
      · split <;> rfl
      · rfl
  · split <;> rfl

end StepLocals

namespace PipelineCore

section Back

variable {β : Type} [Bus β] {core : PipelineCore} {bus : β}

/-- A cycle that takes an interrupt makes no call before IF. -/
theorem backBus_of_interrupt (taken : (core.written bus).takenInterrupt.isSome = true) :
    core.backBus bus = bus := by
  obtain ⟨i, hi⟩ := Option.isSome_iff_exists.mp taken
  unfold backBus backStages
  simp [StepLocals.interruptStage, hi, StepLocals.memoryStage, StepLocals.takeTrap]

/-- Without an instruction in EX/MEM, a cycle makes no call before IF. -/
theorem backBus_of_idle (noInterrupt : (core.written bus).takenInterrupt = none)
    (hlatch : core.latches.exMem = none) : core.backBus bus = bus := by
  unfold backBus backStages
  simp [StepLocals.interruptStage, noInterrupt, StepLocals.memoryStage, hlatch]

/-- The calls before IF are those of MEM. -/
theorem backBus_of_access {x : ExMemPayload} (noInterrupt : (core.written bus).takenInterrupt = none)
    (hlatch : core.latches.exMem = some x) :
    core.backBus bus = (MemStage.access bus (core.written bus).pageWalker (core.written bus).state.csrs
      (core.written bus).state.privilege x).2.2 := by
  unfold backBus backStages
  simp only [StepLocals.interruptStage, noInterrupt, StepLocals.memoryStage, hlatch, written_flushed,
    written_bus, Bool.false_eq_true, if_false]
  rcases MemStage.access bus (core.written bus).pageWalker (core.written bus).state.csrs
    (core.written bus).state.privilege x with ⟨error | (q | y | t), w, b⟩
  · rfl
  · simp
  · simp
  · simp [StepLocals.takeTrap]

end Back

section Calls

variable {β : Type} [Bus β] {core : PipelineCore} {bus : RecordedBus β}

/-- The data calls of a running cycle: none, and MEM completes no access, or the one call of the load or
store in EX/MEM, whose answer MEM gives. -/
inductive DataCycle (core : PipelineCore) (bus : RecordedBus β) : List DataCall → Prop
  | interrupt (taken : (core.written bus).takenInterrupt.isSome = true) : DataCycle core bus []
  | silent (noInterrupt : (core.written bus).takenInterrupt = none)
      (unfound : ∀ x kind, core.latches.exMem = some x → x.accessKind = some kind → ∀ physicalAddress,
        ((core.written bus).pageWalker.translate bus (core.written bus).state.csrs
          (core.written bus).state.privilege (x.memoryAddress.getD 0) kind).1 ≠
          .ok (.physicalAddress physicalAddress))
      (quiet : dataAccess (core.memoryAdvance bus) = []) : DataCycle core bus []
  | access {x : ExMemPayload} {kind : MemoryAccess} {physicalAddress : U32} {w : PageWalker}
      {walked : RecordedBus β} {request : BusRequest}
      (noInterrupt : (core.written bus).takenInterrupt = none)
      (latch : core.latches.exMem = some x) (uses : x.accessKind = some kind)
      (found : (core.written bus).pageWalker.translate bus (core.written bus).state.csrs
        (core.written bus).state.privilege (x.memoryAddress.getD 0) kind =
          (.ok (.physicalAddress physicalAddress), w, walked))
      (requests : x.requestAt physicalAddress = some request)
      (answers : MemStage.access bus (core.written bus).pageWalker (core.written bus).state.csrs
        (core.written bus).state.privilege x =
          MemStage.answered w x kind (request.call walked)) :
      DataCycle core bus [⟨some (x, physicalAddress), ⟨request, (request.call walked.inner).1⟩⟩]

theorem dataCycle (running : core.state.halted = false) : DataCycle core bus (core.dataCalls bus) := by
  unfold dataCalls
  rw [if_neg (by rw [running]; exact Bool.false_ne_true)]
  rcases htaken : (core.written bus).takenInterrupt with _ | i
  case some =>
    have taken : (core.written bus).takenInterrupt.isSome = true := by rw [htaken]; rfl
    have htranslation : core.dataTranslation bus = none := by
      unfold dataTranslation
      rw [if_pos taken]
    rw [htranslation, backBus_of_interrupt taken]
    dsimp only
    rw [List.drop_length]
    exact .interrupt taken
  have htranslation : core.dataTranslation bus =
      core.latches.exMem.bind fun x => x.accessKind.map fun kind =>
        (x, (core.written bus).pageWalker.translate bus (core.written bus).state.csrs
          (core.written bus).state.privilege (x.memoryAddress.getD 0) kind) := by
    unfold dataTranslation
    rw [if_neg (by rw [htaken]; exact Bool.false_ne_true)]
  rcases hlatch : core.latches.exMem with _ | x
  · rw [htranslation, hlatch, backBus_of_idle htaken hlatch]
    dsimp only [Option.bind_none]
    rw [List.drop_length]
    refine .silent htaken (fun x kind hx => ?_) ?_
    · rw [hlatch] at hx
      cases hx
    · simp [memoryAdvance, memoryAnswer, hlatch, running, htaken, dataAccess]
  rcases hkind : x.accessKind with _ | kind
  · -- an instruction that accesses no memory passes through MEM
    have hmemory := MemStage.access_of_not_usesMemory (x.not_usesMemory_of_accessKind hkind) bus
      (core.written bus).pageWalker (core.written bus).state.csrs (core.written bus).state.privilege
    rw [htranslation, hlatch, backBus_of_access htaken hlatch, hmemory]
    dsimp only [Option.bind_some]
    rw [hkind]
    dsimp only [Option.map_none]
    rw [List.drop_length]
    refine .silent htaken (fun y kind hy hkind' => ?_) ?_
    · obtain rfl := Option.some.inj (hlatch.symm.trans hy)
      rw [hkind] at hkind'
      cases hkind'
    · have huses := x.not_usesMemory_of_accessKind hkind
      simp [memoryAdvance, memoryAnswer, hlatch, running, htaken, hmemory, Except.toOption, dataAccess,
        ExMemPayload.advance, huses]
  rcases htranslate : (core.written bus).pageWalker.translate bus (core.written bus).state.csrs
    (core.written bus).state.privilege (x.memoryAddress.getD 0) kind with ⟨answer, w, walked⟩
  rw [htranslation, hlatch, backBus_of_access htaken hlatch]
  dsimp only [Option.bind_some]
  rw [hkind]
  dsimp only [Option.map_some]
  rw [htranslate]
  dsimp only
  by_cases hfound : ∃ physicalAddress, answer = .ok (.physicalAddress physicalAddress)
  · obtain ⟨physicalAddress, rfl⟩ := hfound
    obtain ⟨request, hrequest, haccess⟩ := MemStage.access_found hkind htranslate
    have hrecord : (MemStage.access bus (core.written bus).pageWalker (core.written bus).state.csrs
        (core.written bus).state.privilege x).2.2.record =
          walked.record ++ [⟨request, (request.call walked.inner).1⟩] := by
      rw [haccess, RecordedBus.call_eq]
      rcases (request.call walked.inner) with ⟨error | value, b⟩
      · cases error <;> rfl
      · rfl
    rw [hrecord, List.drop_left]
    exact .access htaken hlatch hkind htranslate hrequest haccess
  · have hunfound : ∀ physicalAddress, answer ≠ .ok (.physicalAddress physicalAddress) :=
      fun physicalAddress h => hfound ⟨physicalAddress, h⟩
    obtain ⟨hbus, hadvance⟩ := MemStage.access_unfound hkind htranslate hunfound
    rw [hbus, List.drop_length]
    refine .silent htaken (fun y kind' hy hkind' physicalAddress => ?_) ?_
    · obtain rfl := Option.some.inj (hlatch.symm.trans hy)
      obtain rfl := Option.some.inj (hkind.symm.trans hkind')
      rw [htranslate]
      exact hunfound physicalAddress
    · rcases hmemory : core.memoryAdvance bus with _ | q
      · rfl
      · obtain ⟨y, w', b, hy, haccess⟩ := memoryAdvance_eq_some hmemory
        obtain rfl := Option.some.inj (hlatch.symm.trans hy)
        exact absurd (congrArg Prod.fst haccess) (hadvance q)

end Calls

end PipelineCore

end RvSim
