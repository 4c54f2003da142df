import RvSim.Exec.Helpers

/-!
# Executing a decoded instruction in one step

`executeDecoded` is the instruction semantics of the reference core: it reads the registers, makes
the instruction's bus accesses and updates the hart state, or enters a trap, or asks to be repeated
when the bus is busy.

## Main definitions

* `executeDecoded`
* `DecodedInstruction.jumpTarget`, `HartState.jumped`: where a jump goes, and the hart there

## Main results

* `executeDecoded_jump`: a jump retires, whatever its target
-/

namespace RvSim

def writeRd (state : HartState) (rd : Option RegIndex) (value : U32) : HartState :=
  match rd with
  | some rd => { state with registers := state.registers.write rd value }
  | none => state

@[simp] theorem writeRd_csrs {state : HartState} (rd : Option RegIndex) (value : U32) :
    (writeRd state rd value).csrs = state.csrs := by
  cases rd <;> rfl

@[simp] theorem writeRd_privilege {state : HartState} (rd : Option RegIndex) (value : U32) :
    (writeRd state rd value).privilege = state.privilege := by
  cases rd <;> rfl

variable {β : Type} [Bus β]

/-- The answer of an instruction that retires without a memory access. -/
def retire (state : HartState) (walker : PageWalker) (bus : β) :
    Except CpuError ExecutionResult × HartState × PageWalker × β :=
  (.ok { retired := 1 }, state, walker, bus)

/-- The answer of an instruction that traps; `memoryAccess` is the source's flag. -/
def trapped (state : HartState) (walker : PageWalker) (bus : β) (trap : Trap) (currentPc : U32)
    (memoryAccess : Bool) : Except CpuError ExecutionResult × HartState × PageWalker × β :=
  let (state, result) := applyTrap state trap currentPc
  (.ok { result with memoryAccess := result.memoryAccess || memoryAccess }, state, walker, bus)

/-- The answer of a load or store that the bus or the page walk suspends. -/
def suspended (state : HartState) (walker : PageWalker) (bus : β) :
    Except CpuError ExecutionResult × HartState × PageWalker × β :=
  (.ok { memoryAccess := true }, state, walker, bus)

/-- The error arm shared by loads and stores. -/
def failedAccess (state : HartState) (walker : PageWalker) (bus : β) (error : BusError)
    (virtualAddress : U32) (access : MemoryAccess) (currentPc : U32) :
    Except CpuError ExecutionResult × HartState × PageWalker × β :=
  match error with
  | .busy _ => suspended state walker bus
  | _ =>
    match mapBusErrorToTrap error virtualAddress access with
    | some trap => trapped state walker bus trap currentPc true
    | none => (.error (.bus error), state, walker, bus)

/-- Execute one decoded instruction against the current hart state. -/
def executeDecoded (state : HartState) (walker : PageWalker) (bus : β)
    (decoded : DecodedInstruction) : Except CpuError ExecutionResult × HartState × PageWalker × β :=
  let currentPc := decoded.pc
  let nextPc := currentPc + 4
  let rs1Value := (decoded.rs1.map state.registers.read).getD 0
  let rs2Value := (decoded.rs2.map state.registers.read).getD 0
  let illegal : Trap := .exception (.illegalInstruction decoded.raw)
  match decoded.kind with
  | .lui => retire { writeRd state decoded.rd decoded.imm with pc := nextPc } walker bus
  | .auipc =>
    retire { writeRd state decoded.rd (currentPc + decoded.imm) with pc := nextPc } walker bus
  | .jal =>
    retire { writeRd state decoded.rd nextPc with pc := branchTarget currentPc decoded.imm }
      walker bus
  | .jalr =>
    retire { writeRd state decoded.rd nextPc with
      pc := effectiveAddress rs1Value decoded.imm &&& ~~~1 } walker bus
  | .branch kind =>
    if branchTaken kind rs1Value rs2Value then
      retire { state with pc := branchTarget currentPc decoded.imm } walker bus
    else retire { state with pc := nextPc } walker bus
  | .load kind =>
    let virtualAddress := effectiveAddress rs1Value decoded.imm
    match walker.translate bus state.csrs state.privilege virtualAddress .load with
    | (.ok (.physicalAddress physicalAddress), walker, bus) =>
      match loadValue bus kind (physicalAddress.setWidth 64) with
      | (.ok value, bus) =>
        (.ok { retired := 1, memoryAccess := true },
          { writeRd state decoded.rd value with pc := nextPc }, walker, bus)
      | (.error error, bus) =>
        failedAccess state walker bus error virtualAddress .load currentPc
    | (.ok .stall, walker, bus) => suspended state walker bus
    | (.ok (.fault trap), walker, bus) => trapped state walker bus trap currentPc true
    | (.error error, walker, bus) => (.error (.bus error), state, walker, bus)
  | .store kind =>
    let virtualAddress := effectiveAddress rs1Value decoded.imm
    match walker.translate bus state.csrs state.privilege virtualAddress .store with
    | (.ok (.physicalAddress physicalAddress), walker, bus) =>
      match storeValue bus kind (physicalAddress.setWidth 64) rs2Value with
      | (.ok (), bus) =>
        (.ok { retired := 1, memoryAccess := true }, { state with pc := nextPc }, walker, bus)
      | (.error error, bus) =>
        failedAccess state walker bus error virtualAddress .store currentPc
    | (.ok .stall, walker, bus) => suspended state walker bus
    | (.ok (.fault trap), walker, bus) => trapped state walker bus trap currentPc true
    | (.error error, walker, bus) => (.error (.bus error), state, walker, bus)
  | .opImm op =>
    let rhs := if op = .sll ∨ op = .srl ∨ op = .sra then decoded.raw >>> 20 else decoded.imm
    retire { writeRd state decoded.rd (executeAlu op rs1Value rhs) with pc := nextPc } walker bus
  | .op op =>
    retire { writeRd state decoded.rd (executeAlu op rs1Value rs2Value) with pc := nextPc }
      walker bus
  | .csr _ =>
    match decoded.csr, csrExecute decoded state.csrs rs1Value with
    | some csr, some outcome =>
      if !state.csrs.allowsCsrAccess state.privilege csr then
        trapped state walker bus illegal currentPc false
      else if state.privilege = .supervisor ∧ state.csrs.tvmEnabled ∧ csr = .satp then
        trapped state walker bus illegal currentPc false
      else if outcome.write.isSome && csr.isReadOnly then
        trapped state walker bus illegal currentPc false
      else
        let state := writeRd state decoded.rd outcome.readValue
        let csrs := match outcome.write with
          | some write => state.csrs.write write.address write.value
          | none => state.csrs
        retire { state with csrs, pc := nextPc } walker bus
    -- the two `expect`s: a decoded CSR instruction has an address
    | _, _ => trapped state walker bus illegal currentPc false
  | .system .ecall =>
    trapped state walker bus (.exception (ecallException state.privilege)) currentPc false
  | .system .ebreak => trapped state walker bus (.exception .breakpoint) currentPc false
  | .system .sfenceVma =>
    if state.privilege = .user ∨ (state.privilege = .supervisor ∧ state.csrs.tvmEnabled) then
      trapped state walker bus illegal currentPc false
    else
      retire { state with pc := nextPc }
        (walker.flushFence (.fromOperands decoded.rs1 rs1Value decoded.rs2 rs2Value)) bus
  | .system .wfi =>
    if state.privilege ≠ .machine ∧ state.csrs.twEnabled then
      trapped state walker bus illegal currentPc false
    else retire { state with pc := nextPc, halted := true } walker bus
  | .system .mret =>
    if state.privilege ≠ .machine then trapped state walker bus illegal currentPc false
    else
      let (state, result) := returnFromTrap state .mret
      (.ok result, state, walker, bus)
  | .system .sret =>
    if state.privilege ≠ .supervisor ∨ state.csrs.tsrEnabled then
      trapped state walker bus illegal currentPc false
    else
      let (state, result) := returnFromTrap state .sret
      (.ok result, state, walker, bus)

/-! ## Jumps -/

/-- What an operand of an instruction reads. -/
def HartState.operand (state : HartState) (source : Option RegIndex) : U32 :=
  (source.map state.registers.read).getD 0

/-- Where a jump or a taken branch goes. -/
def DecodedInstruction.jumpTarget (decoded : DecodedInstruction) (rs1Value rs2Value : U32) : Option U32 :=
  match decoded.kind with
  | .jal => some (branchTarget decoded.pc decoded.imm)
  | .jalr => some (effectiveAddress rs1Value decoded.imm &&& ~~~1)
  | .branch kind =>
    if branchTaken kind rs1Value rs2Value then some (branchTarget decoded.pc decoded.imm) else none
  | _ => none

/-- What a jump leaves in its register. -/
def DecodedInstruction.link (decoded : DecodedInstruction) : Option U32 :=
  match decoded.kind with
  | .jal | .jalr => some (decoded.pc + 4)
  | _ => none

/-- The hart behind a jump to `target`. -/
def HartState.jumped (state : HartState) (decoded : DecodedInstruction) (target : U32) : HartState :=
  { (match decoded.link with
    | some value => writeRd state decoded.rd value
    | none => state) with pc := target }

/-- **A jump or taken branch retires, whatever its target is.** -/
theorem executeDecoded_jump {state : HartState} {decoded : DecodedInstruction} {target : U32}
    (h : decoded.jumpTarget (state.operand decoded.rs1) (state.operand decoded.rs2) = some target)
    (walker : PageWalker) (bus : β) :
    executeDecoded state walker bus decoded = retire (state.jumped decoded target) walker bus := by
  unfold DecodedInstruction.jumpTarget HartState.operand at h
  split at h
  · next hkind =>
    obtain rfl := Option.some.inj h
    simp only [executeDecoded, hkind, HartState.jumped, DecodedInstruction.link]
  · next hkind =>
    obtain rfl := Option.some.inj h
    simp only [executeDecoded, hkind, HartState.jumped, DecodedInstruction.link]
  · next hkind =>
    split at h
    · next htaken =>
      obtain rfl := Option.some.inj h
      simp only [executeDecoded, hkind, HartState.jumped, DecodedInstruction.link, if_pos htaken]
    · cases h
  · cases h

end RvSim
