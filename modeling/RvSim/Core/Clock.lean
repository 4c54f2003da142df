import RvSim.Core.Reference

/-!
# The clocks of a hart

An instruction that does not read a cycle or time counter does the same whatever these counters hold.

## Main definitions

* `HartState.withClock`: the state with other cycle and time counters
* `DecodedInstruction.readsClock`: the instruction puts such a counter into a register

## Main results

* `executeDecoded_withClock`: no other instruction depends on the counters
-/

namespace RvSim

/-- The counters of cycles and of time. -/
def CsrAddress.isClock : CsrAddress → Bool
  | .cycle | .cycleh | .mcycle | .mcycleh | .time | .timeh => true
  | _ => false

/-- The instruction puts a counter of cycles or of time into a register. -/
def DecodedInstruction.readsClock (decoded : DecodedInstruction) : Bool :=
  decoded.kind.isCsr && decoded.csr.any (·.isClock) && decoded.rd.getD 0 != 0

def CsrFile.withClock (csrs : CsrFile) (mcycle time : U64) : CsrFile :=
  { csrs with machine := { csrs.machine with mcycle, time } }

def HartState.withClock (state : HartState) (mcycle time : U64) : HartState :=
  { state with csrs := state.csrs.withClock mcycle time }

/-- The outcome of an instruction on a hart with other counters. -/
def clocked {α β : Type} (mcycle time : U64) (out : α × HartState × PageWalker × β) :
    α × HartState × PageWalker × β :=
  (out.1, out.2.1.withClock mcycle time, out.2.2)

section

variable {β : Type} {decoded : DecodedInstruction} {state : HartState} {walker : PageWalker}
  {bus : β} (mcycle time : U64)

theorem CsrFile.read_withClock (csrs : CsrFile) {address : CsrAddress} (h : address.isClock = false) :
    (csrs.withClock mcycle time).read address = csrs.read address := by
  cases address with
  | cycle => cases h
  | cycleh => cases h
  | mcycle => cases h
  | mcycleh => cases h
  | time => cases h
  | timeh => cases h
  | _ => rfl

/-- A write to a counter shows in the counters only. -/
theorem CsrFile.write_withClock (csrs : CsrFile) (address : CsrAddress) {value value' : U32}
    (h : address.isClock = false → value = value') :
    ∃ mcycle' time', (csrs.withClock mcycle time).write address value =
      (csrs.write address value').withClock mcycle' time' := by
  cases address with
  | cycle => exact ⟨_, _, rfl⟩
  | cycleh => exact ⟨_, _, rfl⟩
  | mcycle => exact ⟨_, _, rfl⟩
  | mcycleh => exact ⟨_, _, rfl⟩
  | time => exact ⟨_, _, rfl⟩
  | timeh => exact ⟨_, _, rfl⟩
  | _ =>
    obtain rfl := h rfl
    exact ⟨_, _, rfl⟩

theorem applyTrap_withClock (state : HartState) (trap : Trap) (pc : U32) :
    applyTrap (state.withClock mcycle time) trap pc =
      ((applyTrap state trap pc).1.withClock mcycle time, (applyTrap state trap pc).2) := by
  have hdelegate : (state.withClock mcycle time).csrs.delegatesTrapToSupervisor trap
      (state.withClock mcycle time).privilege =
        state.csrs.delegatesTrapToSupervisor trap state.privilege := rfl
  unfold applyTrap CsrFile.enterTrap
  rw [hdelegate]
  rcases state.csrs.delegatesTrapToSupervisor trap state.privilege <;> rfl

theorem ite_clocked {α : Type} {p : Prop} [Decidable p] {x y x' y' : α × HartState × PageWalker × β}
    (hx : x = clocked mcycle time x') (hy : y = clocked mcycle time y') :
    (if p then x else y) = clocked mcycle time (if p then x' else y') := by
  split
  · exact hx
  · exact hy

theorem trapped_withClock (trap : Trap) (pc : U32) (memoryAccess : Bool) :
    trapped (state.withClock mcycle time) walker bus trap pc memoryAccess =
      clocked mcycle time (trapped state walker bus trap pc memoryAccess) := by
  unfold trapped
  rw [applyTrap_withClock]
  rfl

theorem failedAccess_withClock (error : BusError) (address : U32) (access : MemoryAccess) (pc : U32) :
    failedAccess (state.withClock mcycle time) walker bus error address access pc =
      clocked mcycle time (failedAccess state walker bus error address access pc) := by
  cases error with
  | busy => rfl
  | _ => exact trapped_withClock _ _ _ _ _

theorem writeRd_withClock (state : HartState) (rd : Option RegIndex) (value : U32) :
    writeRd (state.withClock mcycle time) rd value =
      (writeRd state rd value).withClock mcycle time := by
  cases rd <;> rfl

variable [Bus β]

theorem translate_withClock (state : HartState) (virtualAddress : U32) (access : MemoryAccess) :
    walker.translate bus (state.withClock mcycle time).csrs (state.withClock mcycle time).privilege
        virtualAddress access =
      walker.translate bus state.csrs state.privilege virtualAddress access := rfl

/-- A load or store does not read the counters. -/
theorem executeDecoded_memory_withClock
    (h : (∃ kind, decoded.kind = .load kind) ∨ ∃ kind, decoded.kind = .store kind) :
    executeDecoded (state.withClock mcycle time) walker bus decoded =
      clocked mcycle time (executeDecoded state walker bus decoded) := by
  rcases h with ⟨kind, hkind⟩ | ⟨kind, hkind⟩
  · unfold executeDecoded
    simp only [hkind, translate_withClock]
    simp only [HartState.withClock]
    rcases walker.translate bus state.csrs state.privilege _ _ with
      ⟨error | ⟨pa | _ | trap⟩, w, b⟩
    · rfl
    · dsimp only
      rcases loadValue b kind (pa.setWidth 64) with ⟨error | value, b⟩
      · exact failedAccess_withClock _ _ _ _ _ _
      · have hwrite := writeRd_withClock mcycle time state decoded.rd value
        simp only [HartState.withClock] at hwrite
        simp only [clocked, HartState.withClock, hwrite]
    · rfl
    · exact trapped_withClock _ _ _ _ _
  · unfold executeDecoded
    simp only [hkind, translate_withClock]
    simp only [HartState.withClock]
    rcases walker.translate bus state.csrs state.privilege _ _ with
      ⟨error | ⟨pa | _ | trap⟩, w, b⟩
    · rfl
    · dsimp only
      rcases storeValue b kind (pa.setWidth 64) _ with ⟨error | value, b⟩
      · exact failedAccess_withClock _ _ _ _ _ _
      · rfl
    · rfl
    · exact trapped_withClock _ _ _ _ _

omit [Bus β] in
/-- What a CSR instruction writes depends on the value it reads at most if it writes the same CSR. -/
theorem writeValue_cases (op : CsrOp) (address : CsrAddress) (current current' source : U32) :
    (writeValue op address current source = none ∧ writeValue op address current' source = none) ∨
      ∃ value value', writeValue op address current source = some ⟨address, value⟩ ∧
        writeValue op address current' source = some ⟨address, value'⟩ ∧
        (current = current' → value = value') := by
  unfold writeValue
  cases op
  case readWrite => exact .inr ⟨_, _, rfl, rfl, fun _ => rfl⟩
  case readWriteImmediate => exact .inr ⟨_, _, rfl, rfl, fun _ => rfl⟩
  all_goals
    by_cases hsource : source = 0
    · exact .inl ⟨if_pos hsource, if_pos hsource⟩
    · exact .inr ⟨_, _, if_neg hsource, if_neg hsource, fun h => by rw [h]⟩

/-- A CSR instruction that does not put a counter into a register. -/
theorem executeDecoded_csr_withClock {op : CsrOp} (hkind : decoded.kind = .csr op)
    (h : decoded.readsClock = false) : ∃ mcycle' time',
    executeDecoded (state.withClock mcycle time) walker bus decoded =
      clocked mcycle' time' (executeDecoded state walker bus decoded) := by
  unfold executeDecoded csrExecute
  simp only [hkind]
  rcases hcsr : decoded.csr with _ | address
  · exact ⟨_, _, trapped_withClock _ _ _ _ _⟩
  · dsimp only
    -- the access checks do not read the counters
    have hallow : (state.withClock mcycle time).csrs.allowsCsrAccess
        (state.withClock mcycle time).privilege address =
          state.csrs.allowsCsrAccess state.privilege address := rfl
    have htvm : ((state.withClock mcycle time).privilege = .supervisor ∧
        (state.withClock mcycle time).csrs.tvmEnabled = true ∧ address = .satp) =
          (state.privilege = .supervisor ∧ state.csrs.tvmEnabled = true ∧ address = .satp) := rfl
    have hregisters : (state.withClock mcycle time).registers = state.registers := rfl
    have hread : address.isClock = false →
        (state.withClock mcycle time).csrs.read address = state.csrs.read address :=
      CsrFile.read_withClock mcycle time state.csrs
    have hrd : writeRd (state.withClock mcycle time) decoded.rd
        ((state.withClock mcycle time).csrs.read address) =
          (writeRd state decoded.rd (state.csrs.read address)).withClock mcycle time := by
      rw [writeRd_withClock]
      rcases hclock : address.isClock with _ | _
      · rw [hread hclock]
      · -- the instruction discards the counter
        simp only [DecodedInstruction.readsClock, hkind, InstructionKind.isCsr, hcsr, Option.any_some,
          hclock, Bool.true_and, bne_eq_false_iff_eq] at h
        rcases hd : decoded.rd with _ | rd
        · rfl
        · rw [hd, Option.getD_some] at h
          subst h
          have hzero : ∀ value, state.registers.write 0 value = state.registers :=
            state.registers.write_zero
          simp only [writeRd, hzero]
    rw [hallow, hregisters]
    simp only [htvm]
    split
    · exact ⟨_, _, trapped_withClock _ _ _ _ _⟩
    · split
      · exact ⟨_, _, trapped_withClock _ _ _ _ _⟩
      · rcases writeValue_cases op address ((state.withClock mcycle time).csrs.read address)
          (state.csrs.read address) _ with ⟨hnone, hnone'⟩ | ⟨value, value', hsome, hsome', hvalue⟩
        · rw [hnone, hnone', hrd]
          exact ⟨_, _, rfl⟩
        · rw [hsome, hsome', hrd]
          simp only [Option.isSome_some, Bool.true_and]
          split
          · exact ⟨_, _, trapped_withClock _ _ _ _ _⟩
          · obtain ⟨mcycle', time', hwrite⟩ := CsrFile.write_withClock mcycle time
              (writeRd state decoded.rd (state.csrs.read address)).csrs address
              (fun hclock => hvalue (hread hclock))
            refine ⟨mcycle', time', ?_⟩
            simp only [HartState.withClock, hwrite]
            rfl

/-- **An instruction that reads no clock does not depend on the clocks.** -/
theorem executeDecoded_withClock (h : decoded.readsClock = false) : ∃ mcycle' time',
    executeDecoded (state.withClock mcycle time) walker bus decoded =
      clocked mcycle' time' (executeDecoded state walker bus decoded) := by
  rcases hkind : decoded.kind with _ | _ | _ | _ | kind | kind | kind | op | op | op | kind
  case load => exact ⟨_, _, executeDecoded_memory_withClock _ _ (.inl ⟨_, hkind⟩)⟩
  case store => exact ⟨_, _, executeDecoded_memory_withClock _ _ (.inr ⟨_, hkind⟩)⟩
  case csr => exact executeDecoded_csr_withClock _ _ hkind h
  case system =>
    refine ⟨mcycle, time, ?_⟩
    unfold executeDecoded
    simp only [hkind]
    have illegal : trapped (state.withClock mcycle time) walker bus
        (.exception (.illegalInstruction decoded.raw)) decoded.pc false =
          clocked mcycle time (trapped state walker bus
            (.exception (.illegalInstruction decoded.raw)) decoded.pc false) :=
      trapped_withClock _ _ _ _ _
    cases kind with
    | ecall => exact trapped_withClock _ _ _ _ _
    | ebreak => exact trapped_withClock _ _ _ _ _
    | _ => exact ite_clocked _ _ illegal rfl
  case branch =>
    refine ⟨mcycle, time, ?_⟩
    unfold executeDecoded
    simp only [hkind]
    exact ite_clocked _ _ rfl rfl
  all_goals
    refine ⟨mcycle, time, ?_⟩
    unfold executeDecoded
    simp only [hkind, writeRd_withClock]
    rfl

/-! ## Cycles of the reference core -/

namespace ReferenceCore

variable {core : ReferenceCore} (cycle : U64)

def withClock (core : ReferenceCore) (cycle mcycle time : U64) : ReferenceCore :=
  { core with cycle, state := core.state.withClock mcycle time }

/-- The core after the start of a cycle. -/
def begun (core : ReferenceCore) (b : β) : ReferenceCore :=
  { core with cycle := core.cycle + 1, state := beginCycle core.state b }

/-- The instruction that the cycle executes, unless the hart is halted or an interrupt is taken. -/
def inProgress (core : ReferenceCore) (bus : β) : Option DecodedInstruction :=
  match core.pendingDecoded with
  | some decoded => some decoded
  | none =>
    match (fetchDecoded core.state core.pageWalker bus).1 with
    | .ok (.instruction decoded) => some decoded
    | _ => none

/-- The outcome of a cycle of a core with other counters. -/
def clockedStep {α : Type} (cycle mcycle time : U64) (out : α × ReferenceCore × β) :
    α × ReferenceCore × β :=
  (out.1, out.2.1.withClock cycle mcycle time, out.2.2)

theorem executeStep_withClock (h : decoded.readsClock = false) : ∃ mcycle' time',
    (core.withClock cycle mcycle time).executeStep walker bus decoded =
      clockedStep cycle mcycle' time' (core.executeStep walker bus decoded) := by
  obtain ⟨mcycle', time', heq⟩ : ∃ mcycle' time',
      executeDecoded (core.state.withClock mcycle time) walker bus decoded =
        clocked mcycle' time' (executeDecoded core.state walker bus decoded) :=
    executeDecoded_withClock _ _ h
  refine ⟨mcycle', time', ?_⟩
  unfold executeStep
  simp only [withClock, heq]
  rcases executeDecoded core.state walker bus decoded with ⟨error | result, state, w, b⟩
  · rfl
  · rfl

/-- **A cycle that executes no read of a clock does not depend on the clocks.** -/
theorem instructionStep_withClock
    (h : ∀ decoded, core.inProgress bus = some decoded → decoded.readsClock = false) :
    ∃ mcycle' time', (core.withClock cycle mcycle time).instructionStep bus =
      clockedStep cycle mcycle' time' (core.instructionStep bus) := by
  -- the clock takes no part in the choice of an interrupt
  have hinterrupt : (if (core.withClock cycle mcycle time).pendingDecoded.isNone && !Bus.isBusy bus then
      (core.withClock cycle mcycle time).state.csrs.pendingInterrupt
        (core.withClock cycle mcycle time).state.privilege else none) =
      if core.pendingDecoded.isNone && !Bus.isBusy bus then
        core.state.csrs.pendingInterrupt core.state.privilege else none := rfl
  unfold instructionStep interrupt
  simp only [hinterrupt]
  split
  · next interrupt _ =>
    refine ⟨mcycle, time, ?_⟩
    simp only [withClock, applyTrap_withClock]
    rfl
  · have hhalted : (core.withClock cycle mcycle time).state.halted = core.state.halted := rfl
    rw [hhalted]
    split
    · exact ⟨mcycle, time, rfl⟩
    · have hpending : (core.withClock cycle mcycle time).pendingDecoded = core.pendingDecoded := rfl
      rw [hpending]
      rcases hp : core.pendingDecoded with _ | decoded
      · dsimp only
        have hfetch : fetchDecoded (core.withClock cycle mcycle time).state
            (core.withClock cycle mcycle time).pageWalker bus =
              fetchDecoded core.state core.pageWalker bus := rfl
        rw [hfetch]
        rcases hf : fetchDecoded core.state core.pageWalker bus with
          ⟨error | ⟨decoded | _ | trap⟩, w, b⟩
        · exact ⟨mcycle, time, rfl⟩
        · exact executeStep_withClock _ _ _ (h decoded (by simp [inProgress, hp, hf]))
        · exact ⟨mcycle, time, rfl⟩
        · refine ⟨mcycle, time, ?_⟩
          simp only [withClock, applyTrap_withClock]
          rfl
      · exact executeStep_withClock _ _ _ (h decoded (by simp [inProgress, hp]))

end ReferenceCore

end

end RvSim
