import Mathlib.Data.Nat.Nth
import RvSim.Core.Control
import RvSim.Core.Forwarding
import RvSim.Pipeline.Agreement
import RvSim.State.StatusWord
import RvSim.System.BusyMemory

/-!
# Runs of plain instructions and exceptions

An instruction is plain if it is neither a CSR instruction nor a system instruction. On a hart without
address translation, in front of a memory, it reads and writes registers, the pc and the memory, and
nothing else. A run consists of such instructions, and of words that raise an exception in ID or EX: they
do not decode, or EX does not let them advance.

## Main definitions

* `HartState.Direct`: a hart that translates no address
* `ExMemPayload.completed`, `ExMemPayload.effect`: what MEM makes of an executed instruction
* `ArchState`, `Retires`, `Raises`: the state an instruction sees, and what it does to it
* `PlainRun`: a run that the front end of the pipeline can run ahead of
* `PlainRun.retired`, `PlainRun.index`: how many steps of it retire, and which

## Main results

* `HartState.Direct.accesses`, `HartState.Direct.fetch`: MEM and IF in front of a memory
* `predictFromRaw_mem`: where IF may go on behind an instruction
* `PlainRun.back_succ`: what is behind one more retirement
-/

namespace RvSim

/-- An instruction that is neither a CSR instruction nor a system instruction. -/
def InstructionKind.isPlain : InstructionKind → Bool
  | .csr _ | .system _ => false
  | _ => true

theorem InstructionKind.isPlain.isCsr {kind : InstructionKind} (h : kind.isPlain = true) :
    kind.isCsr = false := by
  cases kind <;> first | rfl | cases h

theorem InstructionKind.isPlain.ne_system {kind : InstructionKind} (h : kind.isPlain = true)
    (system : SystemKind) : kind ≠ .system system := by
  rintro rfl
  cases h

/-- A plain instruction sets no translation barrier. -/
theorem InstructionKind.isPlain.unserialized {decoded : DecodedInstruction}
    (h : decoded.kind.isPlain = true) : isTranslationBarrierPayload decoded none = false := by
  simp [isTranslationBarrierPayload, InstructionKind.isPlain.ne_system h]

/-! ## Harts without translation -/

/-- The hart translates no address: translation is off, or does not apply to the mode it is in. -/
def HartState.Direct (state : HartState) : Prop :=
  state.csrs.supervisor.satp >>> satpModeShift ≠ satpModeSv32 ∨
    (state.privilege = .machine ∧ state.csrs.machine.mstatus &&& mstatusMprv = 0)

instance (state : HartState) : Decidable state.Direct := inferInstanceAs (Decidable (_ ∨ _))

namespace HartState.Direct

variable {state : HartState}

theorem translationEnabled (h : state.Direct) (access : MemoryAccess) :
    translationEnabled (state.csrs.read .satp)
      (effectivePrivilege state.csrs state.privilege access) = false := by
  rcases h with h | ⟨hmode, hmprv⟩
  · have hsatp : (state.csrs.read .satp >>> satpModeShift == satpModeSv32) = false := by
      simpa [CsrFile.read] using h
    rw [RvSim.translationEnabled, hsatp, Bool.and_false]
  · have hprivilege : effectivePrivilege state.csrs state.privilege access = .machine := by
      unfold effectivePrivilege
      split
      · exact hmode
      · exact (if_pos hmprv).trans hmode
    rw [hprivilege]
    rfl

/-- A hart that translates nothing accesses the address it names. -/
theorem translate {β : Type} [Bus β] (h : state.Direct) {walker : PageWalker}
    (hactive : walker.active = none) (virtualAddress : U32) (access : MemoryAccess) (bus : β) :
    walker.translate bus state.csrs state.privilege virtualAddress access =
      (.ok (.physicalAddress virtualAddress), walker, bus) :=
  PageWalker.translate_of_disabled hactive (h.translationEnabled access) virtualAddress bus

/-- A trap does not turn translation on. -/
theorem applyTrap (h : state.Direct) (trap : Trap) (pc : U32) :
    (applyTrap state trap pc).1.Direct := by
  unfold RvSim.applyTrap CsrFile.enterTrap
  by_cases hdelegate : state.csrs.delegatesTrapToSupervisor trap state.privilege = true
  · rw [if_pos hdelegate]
    rcases h with h | ⟨hmode, -⟩
    · exact .inl h
    · simp [CsrFile.delegatesTrapToSupervisor, hmode] at hdelegate
  · rw [if_neg hdelegate]
    rcases h with h | ⟨hmode, hmprv⟩
    · exact .inl h
    · refine .inr ⟨rfl, ?_⟩
      simp only [CsrFile.enterMachineTrap]
      rw [replace_and_of_disjoint (by decide) (privilegeBits_disjoint _ (by decide)),
        clear_and_of_disjoint (by decide), setFlag_and_of_disjoint (by decide)]
      exact hmprv

end HartState.Direct

/-! ## Data accesses -/

/-- The access an instruction makes with these registers. -/
def DecodedInstruction.request (decoded : DecodedInstruction) (registers : RegisterFile) :
    Option BusRequest :=
  let addr : Address :=
    (effectiveAddress (registers.source decoded.rs1) decoded.imm).setWidth 64
  match decoded.kind with
  | .load kind => some (kind.request addr)
  | .store kind => some (kind.request addr (registers.source decoded.rs2))
  | _ => none

namespace ExMemPayload

/-- The address MEM accesses. -/
def address (x : ExMemPayload) : Address := (x.memoryAddress.getD 0).setWidth 64

/-- The access MEM makes. -/
def request (x : ExMemPayload) : Option BusRequest :=
  match x.decoded.kind with
  | .load kind => some (kind.request x.address)
  | .store kind => some (kind.request x.address x.storeValue)
  | _ => none

/-- The value MEM hands on. -/
def result (x : ExMemPayload) (contents : ByteMemory) : Option U32 :=
  match x.decoded.kind with
  | .load kind => some (kind.extend ((kind.request x.address).answer contents))
  | .store _ => none
  | _ => x.writebackValue

/-- The memory after MEM. -/
def effect (x : ExMemPayload) (contents : ByteMemory) : ByteMemory :=
  match x.request with
  | none => contents
  | some request => request.effect contents

/-- What MEM hands to write-back. -/
def completed (x : ExMemPayload) (contents : ByteMemory) : MemWbPayload :=
  x.advance (x.result contents)

/-- The access of an executed instruction. -/
theorem Executed.request_eq {x : ExMemPayload} {registers : RegisterFile} (h : x.Executed registers) :
    x.request = x.decoded.request registers := by
  unfold ExMemPayload.request DecodedInstruction.request
  rcases hk : x.decoded.kind with _ | _ | _ | _ | kind | kind | kind | kind | kind | kind | kind
  case load =>
    dsimp only
    rw [ExMemPayload.address, h.of_load hk]
    rfl
  case store =>
    dsimp only
    rw [ExMemPayload.address, h.of_store hk]
    rfl
  all_goals rfl

/-- MEM fetches nothing. -/
theorem request_ne_fetch {x : ExMemPayload} {request : BusRequest} (h : x.request = some request)
    (addr : Address) : request ≠ .fetch32 addr := by
  unfold ExMemPayload.request at h
  split at h
  · next kind _ =>
    obtain rfl := Option.some.inj h
    cases kind <;> exact fun h => by cases h
  · next kind _ =>
    obtain rfl := Option.some.inj h
    cases kind <;> exact fun h => by cases h
  · cases h

end ExMemPayload

section Access

variable {β : Type} [Bus β] {state : HartState} {walker : PageWalker} {memory : FlatMemory} {b : β}
  {awaiting : BusRequest → FlatMemory → β → Prop} {quiet : FlatMemory → β → Prop}

/-- What MEM answers in front of a memory: it waits for its access, or has done it. -/
inductive Accessed (awaiting : BusRequest → FlatMemory → β → Prop) (quiet : FlatMemory → β → Prop)
    (x : ExMemPayload) (walker : PageWalker) (memory : FlatMemory) (b : β) :
    Except BusError MemoryEvent × PageWalker × β → Prop
  | stall {request : BusRequest} {n : U32} {b' : β} (asked : x.request = some request)
      (busy : (request.call b).1 = .error (.busy n)) (waits : awaiting request memory b') :
      Accessed awaiting quiet x walker memory b (.ok (.stall x), walker, b')
  | done {b' : β} (holds : quiet { memory with contents := x.effect memory.contents } b') :
      Accessed awaiting quiet x walker memory b
        (.ok (.advance (x.completed memory.contents)), walker, b')

/-- **MEM in front of a memory**: its access is answered as the memory answers it. -/
theorem HartState.Direct.accesses (direct : state.Direct) (hactive : walker.active = none)
    {x : ExMemPayload} (hnone : x.request = none → quiet memory b)
    (hcall : ∀ request, x.request = some request →
      AnsweredAs (awaiting request) quiet request memory (request.call b)) :
    Accessed awaiting quiet x walker memory b
      (MemStage.access b walker state.csrs state.privilege x) := by
  by_cases huses : ExStage.usesMemory x.decoded = true
  · unfold ExStage.usesMemory at huses
    split at huses
    · next kind hk =>
      have hrequest : x.request = some (kind.request x.address) := by
        simp only [ExMemPayload.request, hk]
      have hcall := hcall _ hrequest
      simp only [MemStage.access, hk, direct.translate hactive]
      rw [show ((x.memoryAddress.getD 0).setWidth 64 : Address) = x.address from rfl, loadValue_eq]
      have hadvance : x.advance (some (kind.extend ((kind.request x.address).answer memory.contents))) =
          x.completed memory.contents := by
        simp only [ExMemPayload.completed, ExMemPayload.result, hk]
      have heffect : x.effect memory.contents = (kind.request x.address).effect memory.contents := by
        simp only [ExMemPayload.effect, hrequest]
      unfold AnsweredAs at hcall
      rcases hout : (kind.request x.address).call b with ⟨error | value, b'⟩
      · rw [hout] at hcall
        obtain ⟨hbusy, hwaits⟩ := hcall
        cases error with
        | busy n => exact .stall hrequest (congrArg Prod.fst hout) hwaits
        | _ => cases hbusy
      · rw [hout] at hcall
        obtain ⟨rfl, hholds⟩ := hcall
        dsimp only [mapValue, Except.map]
        rw [hadvance]
        exact .done (by rw [heffect]; exact hholds)
    · next kind hk =>
      have hrequest : x.request = some (kind.request x.address x.storeValue) := by
        simp only [ExMemPayload.request, hk]
      have hcall := hcall _ hrequest
      simp only [MemStage.access, hk, direct.translate hactive]
      rw [show ((x.memoryAddress.getD 0).setWidth 64 : Address) = x.address from rfl, storeValue_eq]
      have hadvance : x.advance none = x.completed memory.contents := by
        simp only [ExMemPayload.completed, ExMemPayload.result, hk]
      have heffect : x.effect memory.contents =
          (kind.request x.address x.storeValue).effect memory.contents := by
        simp only [ExMemPayload.effect, hrequest]
      unfold AnsweredAs at hcall
      rcases hout : (kind.request x.address x.storeValue).call b with ⟨error | value, b'⟩
      · rw [hout] at hcall
        obtain ⟨hbusy, hwaits⟩ := hcall
        cases error with
        | busy n => exact .stall hrequest (congrArg Prod.fst hout) hwaits
        | _ => cases hbusy
      · rw [hout] at hcall
        obtain ⟨-, hholds⟩ := hcall
        dsimp only [mapValue, Except.map]
        rw [hadvance]
        exact .done (by rw [heffect]; exact hholds)
    · cases huses
  · rw [Bool.not_eq_true] at huses
    rw [MemStage.access_of_not_usesMemory huses]
    -- an instruction without an access passes MEM by
    have hpass : x.request = none ∧ x.result memory.contents = x.writebackValue := by
      unfold ExMemPayload.request ExMemPayload.result
      unfold ExStage.usesMemory at huses
      rcases hk : x.decoded.kind with _ | _ | _ | _ | kind | kind | kind | kind | kind | kind | kind
      case load | store => rw [hk] at huses; cases huses
      all_goals exact ⟨rfl, rfl⟩
    have hadvance : x.advance x.writebackValue = x.completed memory.contents := by
      rw [ExMemPayload.completed, hpass.2]
    rw [hadvance]
    exact .done (by rw [ExMemPayload.effect, hpass.1]; exact hnone hpass.1)

end Access

section Stages

variable {β : Type} [Bus β] [BusyMemory β] {state : HartState} {walker : PageWalker}
  {memory : FlatMemory} {b : β}

/-- MEM in front of a memory that may be busy. -/
theorem HartState.Direct.access (direct : state.Direct) (hactive : walker.active = none)
    (holds : BusyMemory.Holds memory b) {x : ExMemPayload}
    (accessible : ∀ request, x.request = some request → request.Accessible memory) :
    Accessed (fun _ => BusyMemory.Holds) BusyMemory.Holds x walker memory b
      (MemStage.access b walker state.csrs state.privilege x) :=
  direct.accesses hactive (fun _ => holds) fun request hrequest =>
    BusyMemory.call (accessible request hrequest) holds

/-- The fetch of the word at a pc. -/
def fetchRequest (pc : U32) : BusRequest := .fetch32 (pc.setWidth 64)

/-- The word at a pc. -/
def ByteMemory.fetched (contents : ByteMemory) (pc : U32) : U32 := contents.word (pc.setWidth 64)

/-- What IF answers in front of a memory. -/
inductive FetchedWord (pc : U32) (predictor : BimodalPredictor) (walker : PageWalker)
    (memory : FlatMemory) (b : β) : Except BusError FetchEvent × PageWalker × β → Prop
  | stall {n : U32} {b' : β} (busy : (Bus.fetch32 b (pc.setWidth 64)).1 = .error (.busy n))
      (holds : BusyMemory.Holds memory b') :
      FetchedWord pc predictor walker memory b (.ok .stall, walker, b')
  | done {b' : β} {payload : IfIdPayload} (holds : BusyMemory.Holds memory b')
      (at_pc : payload.pc = pc) (raw : payload.raw = memory.contents.fetched pc)
      (predicted : payload.predictedPc =
        (IfStage.predictFromRaw pc payload.raw predictor).target) :
      FetchedWord pc predictor walker memory b (.ok (.advance payload), walker, b')

/-- **IF in front of a memory**, at an aligned and mapped pc. -/
theorem HartState.Direct.fetch (direct : state.Direct) (hactive : walker.active = none)
    (holds : BusyMemory.Holds memory b) {pc : U32} (accessible : (fetchRequest pc).Accessible memory)
    (predictor : BimodalPredictor) :
    FetchedWord pc predictor walker memory b
      (IfStage.fetch b walker state.csrs state.privilege pc predictor) := by
  have hcall := BusyMemory.call accessible holds
  unfold AnsweredAs at hcall
  simp only [IfStage.fetch, direct.translate hactive]
  rw [show (fetchRequest pc).call b = Bus.fetch32 b (pc.setWidth 64) from rfl] at hcall
  rcases hout : Bus.fetch32 b (pc.setWidth 64) with ⟨error | raw, b'⟩
  · rw [hout] at hcall
    obtain ⟨hbusy, hholds⟩ := hcall
    cases error with
    | busy n => exact .stall (congrArg Prod.fst hout) hholds
    | _ => cases hbusy
  · rw [hout] at hcall
    obtain ⟨hraw, hholds⟩ := hcall
    exact .done hholds rfl hraw rfl

/-- A fetch leaves the memory alone, wherever it is. -/
theorem HartState.Direct.fetch_holds (direct : state.Direct) (hactive : walker.active = none)
    (holds : BusyMemory.Holds memory b) {pc : U32} {predictor : BimodalPredictor}
    {answer : Except BusError FetchEvent} {w : PageWalker} {b' : β}
    (h : IfStage.fetch b walker state.csrs state.privilege pc predictor = (answer, w, b')) :
    w = walker ∧ BusyMemory.Holds memory b' := by
  have hread : BusyMemory.Holds memory ((fetchRequest pc).call b).2 := BusyMemory.read rfl holds
  rw [show (fetchRequest pc).call b = Bus.fetch32 b (pc.setWidth 64) from rfl] at hread
  simp only [IfStage.fetch, direct.translate hactive] at h
  rcases hout : Bus.fetch32 b (pc.setWidth 64) with ⟨error | raw, b''⟩
  · rw [hout] at h hread
    cases error with
    | _ =>
      simp only [mapBusErrorToTrap, Prod.mk.injEq] at h
      obtain ⟨-, rfl, rfl⟩ := h
      exact ⟨rfl, hread⟩
  · rw [hout] at h hread
    simp only [Prod.mk.injEq] at h
    obtain ⟨-, rfl, rfl⟩ := h
    exact ⟨rfl, hread⟩

end Stages

/-! ## Predictions -/

/-- Where IF may go on behind an instruction before EX has resolved it. -/
def DecodedInstruction.predictions (decoded : DecodedInstruction) : List U32 :=
  match decoded.kind with
  | .branch _ | .jal => [decoded.pc + 4, decoded.pc + decoded.imm]
  | _ => [decoded.pc + 4]

theorem DecodedInstruction.next_mem_predictions (decoded : DecodedInstruction) :
    decoded.pc + 4 ∈ decoded.predictions := by
  unfold DecodedInstruction.predictions
  split <;> exact List.mem_cons_self

/-- **Where IF goes on behind an instruction** is one of its predictions. -/
theorem predictFromRaw_mem {raw pc : U32} {decoded : DecodedInstruction}
    (h : decode raw pc = .ok decoded) (predictor : BimodalPredictor) :
    (IfStage.predictFromRaw pc raw predictor).target ∈ decoded.predictions := by
  have hnext : pc + 4 ∈ decoded.predictions := by
    have hmem := decoded.next_mem_predictions
    rwa [(decode_pc h).2] at hmem
  unfold IfStage.predictFromRaw
  dsimp only
  split
  · next hop =>
    -- a branch goes on at its target or behind it
    unfold decode at h
    rw [hop] at h
    have hbranch : (decodeBranch (((raw >>> 12) &&& 0x7).setWidth 8) raw >>= fun kind =>
        (.ok ⟨raw, pc, .branch kind, none, some (((raw >>> 15) &&& 0x1f).setWidth 5),
          some (((raw >>> 20) &&& 0x1f).setWidth 5), immB raw, none⟩ :
            Except DecodeError DecodedInstruction)) = .ok decoded := h
    rcases hkind : decodeBranch (((raw >>> 12) &&& 0x7).setWidth 8) raw with error | kind
    · rw [hkind] at hbranch
      cases hbranch
    · rw [hkind] at hbranch
      obtain rfl := Except.ok.inj hbranch
      unfold BimodalPredictor.predict
      dsimp only
      split
      · exact List.mem_cons_of_mem _ List.mem_cons_self
      · exact List.mem_cons_self
  · split
    · next hop =>
      unfold decode at h
      rw [hop] at h
      have hjal : (.ok ⟨raw, pc, .jal, some (((raw >>> 7) &&& 0x1f).setWidth 5), none, none,
          immJ raw, none⟩ : Except DecodeError DecodedInstruction) = .ok decoded := h
      obtain rfl := Except.ok.inj hjal
      exact List.mem_cons_of_mem _ List.mem_cons_self
    · exact hnext

/-! ## Steps -/

/-- What an instruction reads and writes: registers, pc and memory, and what decides about exceptions. -/
structure ArchState where
  registers : RegisterFile
  pc : U32
  contents : ByteMemory
  control : Control

namespace ArchState

/-- The word at the pc. -/
def word (s : ArchState) : U32 := s.contents.fetched s.pc

/-- The state after an instruction that EX has made `x` of. -/
def after (s : ArchState) (x : ExMemPayload) : ArchState where
  registers := (x.completed s.contents).commit s.registers
  pc := x.nextPc
  contents := x.effect s.contents
  control := s.control

/-- The state after a trap. -/
def trapped (s : ArchState) (trap : Trap) : ArchState :=
  { s with control := (s.control.enterTrap trap s.pc).1, pc := (s.control.enterTrap trap s.pc).2 }

/-- The word at the pc raises an exception before it accesses memory. -/
inductive Causes (s : ArchState) : Trap → Prop
  | illegal {error : DecodeError} (undecoded : decode s.word s.pc = .error error) :
      Causes s (.exception (.illegalInstruction s.word))
  | executes {decoded : DecodedInstruction} {trap : Trap} (decodes : decode s.word s.pc = .ok decoded)
      (execute : ExStage.execute decoded (s.registers.source decoded.rs1) (s.registers.source decoded.rs2)
        s.control.privilege s.control.csrs = .trap trap) : Causes s trap

end ArchState

/-- A plain instruction retires: it is fetched and decoded at the pc, EX makes `x` of it, and its access, if
it makes one, is aligned and mapped. -/
structure Retires (mapped : Address → Bool) (s : ArchState) (x : ExMemPayload) (s' : ArchState) :
    Prop where
  fetches : (fetchRequest s.pc).Accessible ⟨mapped, s.contents⟩
  decoded : decode s.word s.pc = .ok x.decoded
  plain : x.decoded.kind.isPlain = true
  executed : x.Executed s.registers
  accesses : ∀ request, x.request = some request → request.Accessible ⟨mapped, s.contents⟩
  after : s' = s.after x

/-- A word raises an exception: it is fetched at the pc, and its trap is entered. -/
structure Raises (mapped : Address → Bool) (s : ArchState) (trap : Trap) (s' : ArchState) : Prop where
  fetches : (fetchRequest s.pc).Accessible ⟨mapped, s.contents⟩
  causes : s.Causes trap
  after : s' = s.trapped trap

/-! ## Runs -/

/-- A run of plain instructions that retire and of exceptions, which the front end can run ahead of: where it
predicts behind an instruction is aligned and mapped, and no instruction is overwritten by one of the two that
are due before it. -/
structure PlainRun where
  mapped : Address → Bool
  length : Nat
  state : Nat → ArchState
  /-- whether the step retires an instruction -/
  retiring : Nat → Bool
  payload : Nat → ExMemPayload
  trap : Nat → Trap
  retires : ∀ i < length, retiring i = true → Retires mapped (state i) (payload i) (state (i + 1))
  raises : ∀ i < length, retiring i = false → Raises mapped (state i) (trap i) (state (i + 1))
  /-- behind its end the run is taken to go on -/
  endless : ∀ i, length ≤ i → retiring i = true
  predicted : ∀ i < length, ∀ decoded, decode (state i).word (state i).pc = .ok decoded →
    ∀ target ∈ decoded.predictions, ∀ contents, (fetchRequest target).Accessible ⟨mapped, contents⟩
  stable : ∀ i j, i ≤ j → j ≤ i + 2 → j < length →
    (state i).contents.fetched (state j).pc = (state j).word

namespace PlainRun

variable (run : PlainRun)

/-- How many of the steps before `i` retire. -/
def retired (i : Nat) : Nat := Nat.count (fun j => run.retiring j = true) i

/-- How many steps of the run retire. -/
def total : Nat := run.retired run.length

/-- The step that retires as number `k`. -/
noncomputable def index (k : Nat) : Nat := Nat.nth (fun j => run.retiring j = true) k

/-- The state before the retirement `k`. -/
noncomputable def back (k : Nat) : ArchState := run.state (run.index k)

/-- The instruction of the retirement `k`. -/
noncomputable def item (k : Nat) : ExMemPayload := run.payload (run.index k)

/-- The memory before the retirement `k`. -/
noncomputable def memory (k : Nat) : FlatMemory := ⟨run.mapped, (run.back k).contents⟩

/-- What the trap of the step `i` makes of the hart. -/
def entry (i : Nat) : TrapEntry := ⟨run.trap i, (run.state (i + 1)).control, (run.state (i + 1)).pc⟩

/-- The traps of the first `i` steps, in order. -/
def entries (i : Nat) : List TrapEntry :=
  (List.range i).filterMap fun j => if run.retiring j then none else some (run.entry j)

variable {run} {i j k : Nat}

theorem infinite_retiring (run : PlainRun) : (Set.ofPred fun j => run.retiring j = true).Infinite := by
  apply Set.infinite_of_not_bddAbove
  rintro ⟨bound, hbound⟩
  have hle := hbound (run.endless (run.length + bound + 1) (by omega))
  omega

theorem retired_succ (i : Nat) : run.retired (i + 1) = run.retired i + (run.retiring i).toNat := by
  unfold retired
  rw [Nat.count_succ]
  cases run.retiring i <;> rfl

theorem retired_mono (h : i ≤ j) : run.retired i ≤ run.retired j := Nat.count_monotone _ h

theorem retired_index (k : Nat) : run.retired (run.index k) = k :=
  Nat.count_nth_of_infinite run.infinite_retiring k

theorem retiring_index (k : Nat) : run.retiring (run.index k) = true :=
  Nat.nth_mem_of_infinite run.infinite_retiring k

theorem index_retired (h : run.retiring i = true) : run.index (run.retired i) = i := Nat.nth_count h

theorem index_lt (h : k < run.total) : run.index k < run.length := Nat.nth_lt_of_lt_count h

theorem index_total : run.index run.total = run.length := index_retired (run.endless _ (Nat.le_refl _))

theorem index_le (h : k ≤ run.total) : run.index k ≤ run.length := by
  rw [← index_total]
  exact Nat.nth_monotone run.infinite_retiring h

/-- A step that retires is one of the run if there is one left. -/
theorem lt_length_of_retired_lt (h : run.retired i < run.total) : i < run.length := by
  by_contra hle
  exact absurd (retired_mono (Nat.le_of_not_lt hle)) (Nat.not_le.2 h)

theorem retired_le_total (hi : i ≤ run.length) : run.retired i ≤ run.total := retired_mono hi

theorem retired_lt_total (hi : i < run.length) (h : run.retiring i = true) : run.retired i < run.total := by
  have hle : run.retired (i + 1) ≤ run.total := retired_mono hi
  rw [retired_succ, h] at hle
  exact hle

/-- Only retirements change the registers and the memory. -/
theorem state_congr (hij : i ≤ j) (hj : j ≤ run.length) (h : run.retired i = run.retired j) :
    (run.state i).registers = (run.state j).registers ∧ (run.state i).contents = (run.state j).contents := by
  induction j, hij using Nat.le_induction with
  | base => exact ⟨rfl, rfl⟩
  | succ j hij ih =>
    have hle : run.retired i ≤ run.retired j := retired_mono hij
    have hsucc := run.retired_succ j
    have hraises : run.retiring j = false := by
      cases hretiring : run.retiring j with
      | false => rfl
      | true =>
        rw [hretiring] at hsucc
        have hone : Bool.toNat true = 1 := rfl
        omega
    rw [hraises] at hsucc
    have hsame := ih (by omega) (h.trans hsucc)
    rw [(run.raises j hj hraises).after]
    exact hsame

/-- The registers and the memory at a step are those before the next retirement. -/
theorem state_back (hi : i ≤ run.length) :
    (run.state i).registers = (run.back (run.retired i)).registers ∧
      (run.state i).contents = (run.back (run.retired i)).contents := by
  have hle : i ≤ run.index (run.retired i) := Nat.le_nth_count run.infinite_retiring i
  apply state_congr hle
  · exact index_le (retired_mono hi)
  · exact (run.retired_index _).symm

/-- The memory at a step. -/
theorem memory_retired (hi : i ≤ run.length) :
    run.memory (run.retired i) = ⟨run.mapped, (run.state i).contents⟩ := by
  rw [memory, (state_back hi).2]

/-- The instruction of a step that retires. -/
theorem item_retired (h : run.retiring i = true) : run.item (run.retired i) = run.payload i :=
  congrArg run.payload (index_retired h)

/-- The word of a step is aligned and mapped. -/
theorem fetches (hi : i < run.length) :
    (fetchRequest (run.state i).pc).Accessible ⟨run.mapped, (run.state i).contents⟩ := by
  cases hretiring : run.retiring i with
  | true => exact (run.retires i hi hretiring).fetches
  | false => exact (run.raises i hi hretiring).fetches

/-- What a step enters. -/
theorem entries_succ (i : Nat) :
    run.entries (i + 1) = run.entries i ++ (if run.retiring i then none else some (run.entry i)).toList := by
  unfold entries
  rw [List.range_succ, List.filterMap_append]
  cases hretiring : run.retiring i <;> simp [hretiring]

theorem entries_prefix (h : i ≤ j) : run.entries i <+: run.entries j := by
  induction j, h using Nat.le_induction with
  | base => exact List.prefix_rfl
  | succ j _ ih =>
    rw [entries_succ]
    exact ih.trans (List.prefix_append _ _)

theorem length_entries_mono (h : i ≤ j) : (run.entries i).length ≤ (run.entries j).length := by
  have hprefix : run.entries i <+: run.entries j := entries_prefix h
  exact hprefix.length_le

/-- Each step of the run retires an instruction or enters a trap. -/
theorem retired_add_entries (run : PlainRun) (i : Nat) : run.retired i + (run.entries i).length = i := by
  induction i with
  | zero => rfl
  | succ i ih =>
    rw [retired_succ, entries_succ, List.length_append]
    cases run.retiring i with
    | true =>
      have hone : Bool.toNat true = 1 := rfl
      simp
      omega
    | false =>
      have hzero : Bool.toNat false = 0 := rfl
      simp
      omega

/-- The accesses of the first steps are those of the instructions that they retire. -/
theorem requests_retired (i : Nat) :
    (List.range i).filterMap (fun j => if run.retiring j then (run.payload j).request else none) =
      (List.range (run.retired i)).filterMap fun k => (run.item k).request := by
  induction i with
  | zero => rfl
  | succ i ih =>
    rw [List.range_succ, List.filterMap_append, ih, retired_succ]
    cases hretiring : run.retiring i with
    | false => simp [hretiring]
    | true =>
      rw [Bool.toNat_true, List.range_succ, List.filterMap_append]
      simp [List.filterMap_cons, hretiring, item_retired hretiring]

/-- The retirement `k`. -/
theorem retires_item (hk : k < run.total) :
    Retires run.mapped (run.back k) (run.item k) (run.state (run.index k + 1)) :=
  run.retires _ (index_lt hk) (run.retiring_index k)

/-- **What is behind one more retirement.** -/
theorem back_succ (hk : k < run.total) :
    (run.back (k + 1)).registers =
        ((run.item k).completed (run.back k).contents).commit (run.back k).registers ∧
      (run.back (k + 1)).contents = (run.item k).effect (run.back k).contents := by
  have hcount : run.retired (run.index k + 1) = k + 1 := by
    rw [retired_succ, retired_index, retiring_index]
    rfl
  have hstate := state_back (show run.index k + 1 ≤ run.length from index_lt hk)
  rw [hcount, (retires_item hk).after] at hstate
  exact ⟨hstate.1.symm, hstate.2.symm⟩

end PlainRun

/-! ## Executing plain instructions -/

/-- EX on a plain instruction does not depend on the mode or the CSRs. -/
theorem ExStage.execute_plain {decoded : DecodedInstruction} (h : decoded.kind.isPlain = true)
    (rs1Value rs2Value : U32) (privilege privilege' : PrivilegeMode) (csrs csrs' : CsrFile) :
    ExStage.execute decoded rs1Value rs2Value privilege csrs =
      ExStage.execute decoded rs1Value rs2Value privilege' csrs' := by
  unfold ExStage.execute
  rcases hk : decoded.kind with _ | _ | _ | _ | kind | kind | kind | kind | kind | kind | kind
  case csr => simp [InstructionKind.isPlain, hk] at h
  case system => simp [InstructionKind.isPlain, hk] at h
  all_goals rfl

/-- EX lets a plain instruction fence nothing. -/
theorem ExStage.execute_plain_fence {decoded : DecodedInstruction} {rs1Value rs2Value : U32}
    {privilege : PrivilegeMode} {csrs : CsrFile} {outcome : ExecuteOutcome}
    (h : decoded.kind.isPlain = true)
    (hexecute : ExStage.execute decoded rs1Value rs2Value privilege csrs = .advance outcome) :
    outcome.translationFence = none := by
  unfold ExStage.execute at hexecute
  rcases hk : decoded.kind with _ | _ | _ | _ | kind | kind | kind | kind | kind | kind | kind
  case csr => simp [InstructionKind.isPlain, hk] at h
  case system => simp [InstructionKind.isPlain, hk] at h
  all_goals
    simp only [hk] at hexecute
    obtain rfl := ExecuteEvent.advance.inj hexecute
    rfl

/-- Write-back of an instruction that leaves the CSRs alone. -/
theorem WbStage.writeBack_plain (state : HartState) (walker : PageWalker) {q : MemWbPayload}
    (hplain : q.decoded.kind.isPlain = true) (hcsr : q.csrWrite = none)
    (hfence : q.translationFence = none) :
    WbStage.writeBack state walker q =
      (WbStage.commitEvent q q.nextPc,
        { state with registers := q.commit state.registers, pc := q.nextPc }, walker) := by
  have hwfi : (q.decoded.kind == .system .wfi) = false := by
    simpa using InstructionKind.isPlain.ne_system hplain .wfi
  unfold WbStage.writeBack
  split
  · next hk => exact absurd hk (InstructionKind.isPlain.ne_system hplain _)
  · next hk => exact absurd hk (InstructionKind.isPlain.ne_system hplain _)
  · rw [hcsr, hfence, hwfi]
    rfl

namespace Retires

variable {mapped : Address → Bool} {s s' : ArchState} {x : ExMemPayload}

theorem pc_eq (h : Retires mapped s x s') : x.decoded.pc = s.pc := (decode_pc h.decoded).2

/-- What EX makes of the instruction, in any mode. -/
theorem execute (h : Retires mapped s x s') (privilege : PrivilegeMode) (csrs : CsrFile) :
    ∃ outcome, ExStage.execute x.decoded (s.registers.source x.decoded.rs1)
      (s.registers.source x.decoded.rs2) privilege csrs = .advance outcome ∧
        x = .of x.decoded outcome := by
  obtain ⟨mode, file, outcome, hexecute, hx⟩ := h.executed
  exact ⟨outcome, (ExStage.execute_plain h.plain _ _ _ _ _ _).trans hexecute, hx⟩

/-- A plain instruction leaves the CSRs alone. -/
theorem csrWrite_eq (h : Retires mapped s x s') : x.csrWrite = none := by
  obtain ⟨outcome, hexecute, hx⟩ := h.execute .machine {}
  rw [hx]
  exact ExStage.execute_csrWrite (InstructionKind.isPlain.isCsr h.plain) hexecute

/-- A plain instruction leaves the walker alone. -/
theorem translationFence_eq (h : Retires mapped s x s') : x.translationFence = none := by
  obtain ⟨outcome, hexecute, hx⟩ := h.execute .machine {}
  rw [hx]
  exact ExStage.execute_plain_fence h.plain hexecute

end Retires

end RvSim
