import RvSim.Exec.Decoded

/-!
# Pipeline stages

The latch payloads, the hazard predicates, the branch predictor and the bodies of the five stages.

## Main definitions

* `IfIdPayload`, `IdExPayload`, `ExMemPayload`, `MemWbPayload`, `PipelineLatches`
* `detectBranchFlush`, `detectRawHazard`, `fetchBlockedByMemoryAccess`
* `BimodalPredictor`
* `IfStage.fetch`, `ExStage.execute`, `MemStage.access`, `WbStage.writeBack`
-/

namespace RvSim

/-! ## Latches -/

/-- IF-stage payload carried into decode. -/
structure IfIdPayload where
  pc : U32
  raw : U32
  predictedPc : U32
  predictedTaken : Bool
  deriving DecidableEq, Repr

/-- ID-stage payload carried into execute. -/
structure IdExPayload where
  decoded : DecodedInstruction
  rs1Value : U32
  rs2Value : U32
  predictedPc : U32
  predictedTaken : Bool
  deriving DecidableEq, Repr

/-- EX-stage payload carried into memory. -/
structure ExMemPayload where
  decoded : DecodedInstruction
  writebackValue : Option U32
  csrWrite : Option CsrWrite
  translationFence : Option TranslationFence
  memoryAddress : Option U32
  storeValue : U32
  nextPc : U32
  deriving DecidableEq, Repr

/-- MEM-stage payload carried into writeback. -/
structure MemWbPayload where
  decoded : DecodedInstruction
  writebackValue : Option U32
  csrWrite : Option CsrWrite
  translationFence : Option TranslationFence
  nextPc : U32
  deriving DecidableEq, Repr

/-- Full latch set for the five-stage pipeline: each latch is its payload. -/
structure PipelineLatches where
  ifId : Option IfIdPayload := none
  idEx : Option IdExPayload := none
  exMem : Option ExMemPayload := none
  memWb : Option MemWbPayload := none
  deriving DecidableEq, Repr

/-- A committed architectural update observed at the end of a cycle. -/
structure CommitEvent where
  pc : U32
  nextPc : U32
  kind : InstructionKind
  destination : Option RegIndex
  value : Option U32
  csrWrite : Option CsrWrite
  deriving DecidableEq, Repr

/-! ## Hazards -/

/-- Flush the pipeline when the predicted and actual next PCs diverge. -/
def detectBranchFlush (predictedPc actualPc : U32) : Bool := predictedPc != actualPc

/-- Detect a simple load-use style hazard between one producer and the next consumer. -/
def detectRawHazard (producerRd consumerRs1 consumerRs2 : Option RegIndex) : Bool :=
  match producerRd with
  | none => false
  | some producer =>
    producer != 0 && (consumerRs1 == some producer || consumerRs2 == some producer)

/-- Structural hazard policy flags for the current machine configuration. -/
structure StructuralHazardPolicy where
  unifiedMemory : Bool := true
  deriving DecidableEq, Repr

/-- In a unified-memory machine, instruction fetch conflicts with data access in the same cycle. -/
def fetchBlockedByMemoryAccess (unifiedMemory memoryStageAccessed : Bool) : Bool :=
  unifiedMemory && memoryStageAccessed

/-! ## Branch prediction -/

/-- Prediction output consumed by the front end. -/
structure BranchPrediction where
  taken : Bool
  target : U32
  deriving DecidableEq, Repr

/-- A direct-mapped 2-bit saturating-counter branch history table, never empty. -/
structure BimodalPredictor where
  table : List U8
  nonempty : 0 < table.length
  deriving DecidableEq

namespace BimodalPredictor

def new (entries : Nat) : BimodalPredictor where
  table := List.replicate (max entries 1) 0b01
  nonempty := by simp

/-- `BimodalPredictor::default`. -/
def standard : BimodalPredictor := new 64

def index (predictor : BimodalPredictor) (pc : U32) : Fin predictor.table.length :=
  ⟨(pc >>> 2).toNat % predictor.table.length, Nat.mod_lt _ predictor.nonempty⟩

def predict (predictor : BimodalPredictor) (pc fallthrough target : U32) : BranchPrediction :=
  let counter := predictor.table.get (predictor.index pc)
  let taken := decide (0b10 ≤ counter)
  { taken, target := if taken then target else fallthrough }

/-- One step of a saturating counter. -/
def saturate (counter : U8) (taken : Bool) : U8 :=
  match counter.toNat, taken with
  | 0b00, false => 0b00
  | 0b00, true => 0b01
  | 0b01, false => 0b00
  | 0b01, true => 0b10
  | 0b10, false => 0b01
  | 0b10, true => 0b11
  | 0b11, false => 0b10
  | 0b11, true => 0b11
  | _, _ => 0b01

def update (predictor : BimodalPredictor) (pc : U32) (taken : Bool) : BimodalPredictor where
  table := predictor.table.set (predictor.index pc)
    (saturate (predictor.table.get (predictor.index pc)) taken)
  nonempty := by rw [List.length_set]; exact predictor.nonempty

end BimodalPredictor

variable {β : Type} [Bus β]

/-! ## Fetch -/

/-- Outcome of one fetch attempt. -/
inductive FetchEvent
  | advance (payload : IfIdPayload)
  | stall
  | trap (trap : Trap)
  deriving DecidableEq, Repr

namespace IfStage

def predictFromRaw (pc raw : U32) (predictor : BimodalPredictor) : BranchPrediction :=
  let fallthrough := pc + 4
  let opcode := raw &&& 0x7f
  if opcode = 0x63 then predictor.predict pc fallthrough (pc + immB raw)
  else if opcode = 0x6f then { taken := true, target := pc + immJ raw }
  else { taken := false, target := fallthrough }

/-- Fetch one instruction from the bus instruction path. -/
def fetch (bus : β) (walker : PageWalker) (csrs : CsrFile) (privilege : PrivilegeMode) (pc : U32)
    (predictor : BimodalPredictor) : Except BusError FetchEvent × PageWalker × β :=
  match walker.translate bus csrs privilege pc .instruction with
  | (.ok (.physicalAddress physicalAddress), walker, bus) =>
    match Bus.fetch32 bus (physicalAddress.setWidth 64) with
    | (.ok raw, bus) =>
      let prediction := predictFromRaw pc raw predictor
      (.ok (.advance ⟨pc, raw, prediction.target, prediction.taken⟩), walker, bus)
    | (.error (.busy _), bus) => (.ok .stall, walker, bus)
    | (.error error, bus) =>
      match mapBusErrorToTrap error pc .instruction with
      | some trap => (.ok (.trap trap), walker, bus)
      | none => (.error error, walker, bus)
  | (.ok .stall, walker, bus) => (.ok .stall, walker, bus)
  | (.ok (.fault trap), walker, bus) => (.ok (.trap trap), walker, bus)
  | (.error error, walker, bus) => (.error error, walker, bus)

/-- Bus errors become stalls and traps: `fetch` never fails. -/
theorem fetch_isOk (bus : β) (walker : PageWalker) (csrs : CsrFile) (privilege : PrivilegeMode)
    (pc : U32) (predictor : BimodalPredictor) :
    (fetch bus walker csrs privilege pc predictor).1.isOk := by
  have htranslate := walker.translate_isOk bus csrs privilege pc .instruction
  unfold fetch
  split
  · split
    · rfl
    · rfl
    · next error _ hbusy _ =>
      have : error.isBusy = false := by cases error <;> first | rfl | exact absurd rfl (hbusy _)
      obtain ⟨trap, htrap⟩ := mapBusErrorToTrap_isSome this pc .instruction
      rw [htrap]
      rfl
  · rfl
  · rfl
  · next h => rw [h] at htranslate; cases htranslate

/-- A fetch that completes has read the word at the translated pc and predicted from it. -/
theorem fetch_advance {bus b : β} {walker w : PageWalker} {csrs : CsrFile}
    {privilege : PrivilegeMode} {pc : U32} {predictor : BimodalPredictor} {payload : IfIdPayload}
    (h : fetch bus walker csrs privilege pc predictor = (.ok (.advance payload), w, b)) :
    ∃ physicalAddress b', walker.translate bus csrs privilege pc .instruction =
        (.ok (.physicalAddress physicalAddress), w, b') ∧
      Bus.fetch32 b' (physicalAddress.setWidth 64) = (.ok payload.raw, b) ∧
      payload.pc = pc ∧
      payload.predictedPc = (predictFromRaw pc payload.raw predictor).target := by
  unfold fetch at h
  split at h
  · next htranslate =>
    split at h
    · next hfetch =>
      simp only [Prod.mk.injEq, Except.ok.injEq, FetchEvent.advance.injEq] at h
      obtain ⟨rfl, rfl, rfl⟩ := h
      exact ⟨_, _, htranslate, hfetch, rfl, rfl⟩
    · simp at h
    · split at h <;> simp at h
  all_goals simp at h

end IfStage

/-! ## Execute -/

/-- Result produced by the execute stage before any memory access occurs. -/
structure ExecuteOutcome where
  writebackValue : Option U32 := none
  csrWrite : Option CsrWrite := none
  translationFence : Option TranslationFence := none
  memoryAddress : Option U32 := none
  storeValue : U32 := 0
  nextPc : U32
  deriving DecidableEq, Repr

/-- Execute-stage completion status. -/
inductive ExecuteEvent
  | advance (outcome : ExecuteOutcome)
  | trap (trap : Trap)
  deriving DecidableEq, Repr

namespace ExStage

/-- Return whether the decoded instruction reads memory in the MEM stage. -/
def usesMemory (decoded : DecodedInstruction) : Bool :=
  match decoded.kind with
  | .load _ | .store _ => true
  | _ => false

/-- Return whether the decoded instruction is a load. -/
def isLoad (decoded : DecodedInstruction) : Bool :=
  match decoded.kind with
  | .load _ => true
  | _ => false

/-- Return whether the decoded instruction writes a general-purpose register. -/
def writesBack (decoded : DecodedInstruction) : Bool :=
  (match decoded.kind with
    | .lui | .auipc | .jal | .jalr | .load _ | .opImm _ | .op _ | .csr _ => true
    | _ => false)
  && decoded.rd.isSome && decoded.rd != some 0

def immediateRhs (op : AluOp) (decoded : DecodedInstruction) : U32 :=
  match op with
  | .sll | .srl | .sra => decoded.raw >>> 20
  | _ => decoded.imm

/-- Execute one instruction using forwarded operands. -/
def execute (decoded : DecodedInstruction) (rs1Value rs2Value : U32) (privilege : PrivilegeMode)
    (csrs : CsrFile) : ExecuteEvent :=
  let nextPc := decoded.pc + 4
  let illegal : ExecuteEvent := .trap (.exception (.illegalInstruction decoded.raw))
  match decoded.kind with
  | .lui => .advance { writebackValue := some decoded.imm, nextPc }
  | .auipc => .advance { writebackValue := some (decoded.pc + decoded.imm), nextPc }
  | .jal =>
    .advance { writebackValue := some nextPc, nextPc := branchTarget decoded.pc decoded.imm }
  | .jalr =>
    .advance { writebackValue := some nextPc,
               nextPc := effectiveAddress rs1Value decoded.imm &&& ~~~1 }
  | .branch kind =>
    .advance { nextPc := if branchTaken kind rs1Value rs2Value then
                 branchTarget decoded.pc decoded.imm else nextPc }
  | .load _ => .advance { memoryAddress := some (effectiveAddress rs1Value decoded.imm), nextPc }
  | .store _ =>
    .advance { memoryAddress := some (effectiveAddress rs1Value decoded.imm),
               storeValue := rs2Value, nextPc }
  | .opImm op =>
    .advance { writebackValue := some (executeAlu op rs1Value (immediateRhs op decoded)), nextPc }
  | .op op => .advance { writebackValue := some (executeAlu op rs1Value rs2Value), nextPc }
  | .csr _ =>
    match decoded.csr, csrExecute decoded csrs rs1Value with
    | some csr, some outcome =>
      if !csrs.allowsCsrAccess privilege csr then illegal
      else if privilege = .supervisor ∧ csrs.tvmEnabled ∧ csr = .satp then illegal
      else if outcome.write.isSome && csr.isReadOnly then illegal
      else .advance { writebackValue := some outcome.readValue, csrWrite := outcome.write, nextPc }
    -- the two `expect`s: a decoded CSR instruction has an address
    | _, _ => illegal
  | .system .ecall => .trap (.exception (match privilege with
    | .user => .environmentCallFromUMode
    | .supervisor => .environmentCallFromSMode
    | .machine => .environmentCallFromMMode))
  | .system .ebreak => .trap (.exception .breakpoint)
  | .system .sfenceVma =>
    if privilege = .user ∨ (privilege = .supervisor ∧ csrs.tvmEnabled) then illegal
    else
      .advance { translationFence :=
                   some (.fromOperands decoded.rs1 rs1Value decoded.rs2 rs2Value), nextPc }
  | .system .wfi =>
    if privilege ≠ .machine ∧ csrs.twEnabled then illegal else .advance { nextPc }
  | .system .mret =>
    if privilege ≠ .machine then illegal else .advance { nextPc := csrs.read .mepc }
  | .system .sret =>
    if privilege ≠ .supervisor ∨ csrs.tsrEnabled then illegal
    else .advance { nextPc := csrs.read .sepc }

section Advance

variable {decoded : DecodedInstruction} {rs1Value rs2Value : U32} {privilege : PrivilegeMode}
  {csrs : CsrFile} {outcome : ExecuteOutcome}

/-- What a CSR instruction that passes its checks leaves. -/
theorem execute_csr {op : CsrOp} (hk : decoded.kind = .csr op)
    (h : execute decoded rs1Value rs2Value privilege csrs = .advance outcome) :
    ∃ csr result, decoded.csr = some csr ∧ csrExecute decoded csrs rs1Value = some result ∧
      outcome = { writebackValue := some result.readValue, csrWrite := result.write
                  nextPc := decoded.pc + 4 } := by
  simp only [execute, hk] at h
  split at h
  · next csr result hcsr hresult =>
    refine ⟨csr, result, hcsr, hresult, ?_⟩
    repeat' split at h
    all_goals cases h
    rfl
  · cases h

/-- Only CSR instructions leave a CSR write. -/
theorem execute_csrWrite (hk : decoded.kind.isCsr = false)
    (h : execute decoded rs1Value rs2Value privilege csrs = .advance outcome) :
    outcome.csrWrite = none := by
  unfold execute at h
  dsimp only at h
  split at h
  all_goals first
    | next hcsr => rw [hcsr] at hk; cases hk
    | (cases h; done)
    | (cases h; rfl)
    | split at h <;> first | (cases h; done) | (cases h; rfl)

/-- The kinds whose result EX computes. -/
def writesValue : InstructionKind → Bool
  | .lui | .auipc | .jal | .jalr | .opImm _ | .op _ | .csr _ => true
  | _ => false

/-- EX computes a result for exactly these kinds. -/
theorem execute_writebackValue
    (h : execute decoded rs1Value rs2Value privilege csrs = .advance outcome) :
    outcome.writebackValue.isSome = writesValue decoded.kind := by
  by_cases hcsr : decoded.kind.isCsr = true
  · obtain ⟨op, hk⟩ : ∃ op, decoded.kind = .csr op := by
      unfold InstructionKind.isCsr at hcsr
      split at hcsr
      · next op hk => exact ⟨op, hk⟩
      · cases hcsr
    obtain ⟨-, -, -, -, rfl⟩ := execute_csr hk h
    simp [hk, writesValue]
  · unfold execute at h
    dsimp only at h
    split at h
    all_goals first
      | next hk => rw [hk] at hcsr; exact absurd rfl hcsr
      | (cases h; done)
      | next hk => cases h; rw [hk]; rfl
      | next hk => split at h <;> first | (cases h; done) | (cases h; rw [hk]; rfl)

end Advance

end ExStage

/-- The EX/MEM payload of an executed instruction. -/
def ExMemPayload.of (decoded : DecodedInstruction) (outcome : ExecuteOutcome) : ExMemPayload where
  decoded := decoded
  writebackValue := outcome.writebackValue
  csrWrite := outcome.csrWrite
  translationFence := outcome.translationFence
  memoryAddress := outcome.memoryAddress
  storeValue := outcome.storeValue
  nextPc := outcome.nextPc

/-! ## Memory -/

/-- Outcome of the memory stage. -/
inductive MemoryEvent
  | advance (payload : MemWbPayload)
  | stall (payload : ExMemPayload)
  | trap (trap : Trap)
  deriving DecidableEq, Repr

/-- The MEM/WB payload of an instruction that leaves the memory stage with this result. -/
def ExMemPayload.advance (payload : ExMemPayload) (writebackValue : Option U32) :
    MemWbPayload where
  decoded := payload.decoded
  writebackValue := writebackValue
  csrWrite := payload.csrWrite
  translationFence := payload.translationFence
  nextPc := payload.nextPc

namespace MemStage

/-- The error arm shared by loads and stores. -/
def failed (walker : PageWalker) (bus : β) (payload : ExMemPayload) (error : BusError)
    (virtualAddress : U32) (access : MemoryAccess) :
    Except BusError MemoryEvent × PageWalker × β :=
  match error with
  | .busy _ => (.ok (.stall payload), walker, bus)
  | _ =>
    match mapBusErrorToTrap error virtualAddress access with
    | some trap => (.ok (.trap trap), walker, bus)
    | none => (.error error, walker, bus)

/-- Perform memory access or pass through a non-memory instruction. -/
def access (bus : β) (walker : PageWalker) (csrs : CsrFile) (privilege : PrivilegeMode)
    (payload : ExMemPayload) : Except BusError MemoryEvent × PageWalker × β :=
  match payload.decoded.kind with
  | .load kind =>
    let virtualAddress := payload.memoryAddress.getD 0
    match walker.translate bus csrs privilege virtualAddress .load with
    | (.ok (.physicalAddress physicalAddress), walker, bus) =>
      match loadValue bus kind (physicalAddress.setWidth 64) with
      | (.ok value, bus) => (.ok (.advance (payload.advance (some value))), walker, bus)
      | (.error error, bus) => failed walker bus payload error virtualAddress .load
    | (.ok .stall, walker, bus) => (.ok (.stall payload), walker, bus)
    | (.ok (.fault trap), walker, bus) => (.ok (.trap trap), walker, bus)
    | (.error error, walker, bus) => (.error error, walker, bus)
  | .store kind =>
    let virtualAddress := payload.memoryAddress.getD 0
    match walker.translate bus csrs privilege virtualAddress .store with
    | (.ok (.physicalAddress physicalAddress), walker, bus) =>
      match RvSim.storeValue bus kind (physicalAddress.setWidth 64) payload.storeValue with
      | (.ok (), bus) => (.ok (.advance (payload.advance none)), walker, bus)
      | (.error error, bus) => failed walker bus payload error virtualAddress .store
    | (.ok .stall, walker, bus) => (.ok (.stall payload), walker, bus)
    | (.ok (.fault trap), walker, bus) => (.ok (.trap trap), walker, bus)
    | (.error error, walker, bus) => (.error error, walker, bus)
  | _ => (.ok (.advance (payload.advance payload.writebackValue)), walker, bus)

omit [Bus β] in
theorem failed_isOk (walker : PageWalker) (bus : β) (payload : ExMemPayload) (error : BusError)
    (virtualAddress : U32) (access : MemoryAccess) :
    (failed walker bus payload error virtualAddress access).1.isOk := by
  cases error <;> rfl

omit [Bus β] in
theorem failed_ne_advance {walker w : PageWalker} {bus b : β} {payload : ExMemPayload}
    {error : BusError} {virtualAddress : U32} {kind : MemoryAccess} {q : MemWbPayload} :
    failed walker bus payload error virtualAddress kind ≠ (.ok (.advance q), w, b) := by
  cases error <;> simp [failed, mapBusErrorToTrap]

omit [Bus β] in
theorem failed_stall {walker w : PageWalker} {bus b : β} {payload p : ExMemPayload}
    {error : BusError} {virtualAddress : U32} {kind : MemoryAccess}
    (h : failed walker bus payload error virtualAddress kind = (.ok (.stall p), w, b)) :
    p = payload := by
  cases error <;> simp [failed, mapBusErrorToTrap] at h
  exact h.1.symm

/-- An instruction that uses no memory passes through MEM. -/
theorem access_of_not_usesMemory {payload : ExMemPayload}
    (h : ExStage.usesMemory payload.decoded = false) (bus : β) (walker : PageWalker)
    (csrs : CsrFile) (privilege : PrivilegeMode) :
    access bus walker csrs privilege payload =
      (.ok (.advance (payload.advance payload.writebackValue)), walker, bus) := by
  unfold access
  split
  · next hk => simp [ExStage.usesMemory, hk] at h
  · next hk => simp [ExStage.usesMemory, hk] at h
  · rfl

/-- A stalled access leaves its payload in the latch. -/
theorem access_stall {bus b : β} {walker w : PageWalker} {csrs : CsrFile}
    {privilege : PrivilegeMode} {payload p : ExMemPayload}
    (h : access bus walker csrs privilege payload = (.ok (.stall p), w, b)) : p = payload := by
  simp only [access] at h
  split at h
  · split at h
    · split at h
      · simp at h
      · exact failed_stall h
    all_goals simp at h
    exact h.1.symm
  · split at h
    · split at h
      · simp at h
      · exact failed_stall h
    all_goals simp at h
    exact h.1.symm
  · simp at h

/-- An access that completes passes its payload on, with the value of a load. -/
theorem access_advance {bus b : β} {walker w : PageWalker} {csrs : CsrFile}
    {privilege : PrivilegeMode} {payload : ExMemPayload} {q : MemWbPayload}
    (h : access bus walker csrs privilege payload = (.ok (.advance q), w, b)) :
    q = payload.advance q.writebackValue ∧
      (ExStage.isLoad payload.decoded = false →
        q.writebackValue = if ExStage.usesMemory payload.decoded then none
          else payload.writebackValue) := by
  simp only [access] at h
  split at h
  · next hk =>
    split at h
    · split at h
      · simp only [Prod.mk.injEq, Except.ok.injEq, MemoryEvent.advance.injEq] at h
        obtain ⟨rfl, -⟩ := h
        exact ⟨rfl, by simp [ExStage.isLoad, hk]⟩
      · exact absurd h failed_ne_advance
    all_goals simp at h
  · next hk =>
    split at h
    · split at h
      · simp only [Prod.mk.injEq, Except.ok.injEq, MemoryEvent.advance.injEq] at h
        obtain ⟨rfl, -⟩ := h
        exact ⟨rfl, by simp [ExStage.usesMemory, hk, ExMemPayload.advance]⟩
      · exact absurd h failed_ne_advance
    all_goals simp at h
  · next hload hstore =>
    simp only [Prod.mk.injEq, Except.ok.injEq, MemoryEvent.advance.injEq] at h
    obtain ⟨rfl, -⟩ := h
    refine ⟨rfl, fun _ => ?_⟩
    have : ExStage.usesMemory payload.decoded = false := by
      unfold ExStage.usesMemory
      split
      · next hk => exact absurd hk (hload _)
      · next hk => exact absurd hk (hstore _)
      · rfl
    simp [this, ExMemPayload.advance]

/-- Bus errors become stalls and traps: `access` never fails. -/
theorem access_isOk (bus : β) (walker : PageWalker) (csrs : CsrFile) (privilege : PrivilegeMode)
    (payload : ExMemPayload) : (access bus walker csrs privilege payload).1.isOk := by
  have htranslate := walker.translate_isOk bus csrs privilege (payload.memoryAddress.getD 0)
  simp only [access]
  split
  · split
    · split
      · rfl
      · exact failed_isOk ..
    · rfl
    · rfl
    · next h => exact absurd (htranslate .load) (by rw [h]; simp [Except.isOk, Except.toBool])
  · split
    · split
      · rfl
      · exact failed_isOk ..
    · rfl
    · rfl
    · next h => exact absurd (htranslate .store) (by rw [h]; simp [Except.isOk, Except.toBool])
  · rfl

end MemStage

/-! ## Write-back -/

namespace WbStage

/-- The commit event of a payload that sends the hart to `nextPc`. -/
def commitEvent (payload : MemWbPayload) (nextPc : U32) : CommitEvent where
  pc := payload.decoded.pc
  nextPc := nextPc
  kind := payload.decoded.kind
  destination := payload.decoded.rd
  value := payload.writebackValue
  csrWrite := payload.csrWrite

/-- Write one instruction result back to architectural state. -/
def writeBack (state : HartState) (walker : PageWalker) (payload : MemWbPayload) :
    CommitEvent × HartState × PageWalker :=
  match payload.decoded.kind with
  | .system .mret =>
    let state := (returnFromTrap state .mret).1
    (commitEvent payload state.pc, state, walker)
  | .system .sret =>
    let state := (returnFromTrap state .sret).1
    (commitEvent payload state.pc, state, walker)
  | _ =>
    let walker := match payload.translationFence with
      | some fence => walker.flushFence fence
      | none => walker
    let csrs := match payload.csrWrite with
      | some write => state.csrs.write write.address write.value
      | none => state.csrs
    let registers := match payload.decoded.rd, payload.writebackValue with
      | some rd, some value => state.registers.write rd value
      | _, _ => state.registers
    let halted := payload.decoded.kind == .system .wfi || state.halted
    (commitEvent payload payload.nextPc,
      { state with csrs, registers, pc := payload.nextPc, halted }, walker)

end WbStage

end RvSim
