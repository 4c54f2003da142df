import RvSim.Core.Clock
import RvSim.Core.Isolation
import RvSim.Core.ProgramOrder
import RvSim.Core.WalkerProperties
import RvSim.Mmu.Offset
import RvSim.System.AlignedFetch

/-!
# The alignment of the pc

No instruction is fetched from a misaligned address. But a jump does not check its target, nor a CSR
instruction what it writes to a return address: the fetch there finds out, with the jump retired and its
register written.

## Main definitions

* `HartState.Aligned`: the pc and both return addresses are multiples of four
* `ReferenceCore.keepsAligned`, `PipelineCore.keepsAligned`: a cycle in which no instruction installs a
  misaligned address

## Main results

* `aligned_run`: what is always aligned, and what is in the runs of such cycles
-/

namespace RvSim

open Automata

/-! ## Addresses -/

theorem add_aligned {a b : U32} (ha : a % 4 = 0) (hb : b % 4 = 0) : (a + b) % 4 = 0 := by
  rw [mod_four_iff] at ha hb ⊢
  rw [BitVec.toNat_add]
  omega

theorem add_four_aligned {pc : U32} (h : pc % 4 = 0) : (pc + 4) % 4 = 0 := add_aligned h rfl

/-- A vector is aligned, whatever `mtvec` or `stvec` holds. -/
theorem CsrFile.trapVector_aligned (tvec : U32) (trap : Trap) : trapVector tvec trap % 4 = 0 := by
  have hbase : (tvec &&& ~~~0b11) % 4 = (0 : U32) := by
    have hclear : (tvec &&& ~~~0b11) &&& 0b11 = 0 := clear_and_self tvec 0b11
    have hnat := congrArg BitVec.toNat hclear
    rw [BitVec.toNat_and, show (0b11 : U32).toNat = 2 ^ 2 - 1 from rfl, Nat.and_two_pow_sub_one_eq_mod]
      at hnat
    exact mod_four_iff.2 hnat
  -- the offset of a vectored interrupt is four times its cause
  have hoffset : trap.causeCode * 4 % 4 = 0 := by
    rw [mod_four_iff, BitVec.toNat_mul, show (4 : U32).toNat = 4 from rfl]
    omega
  unfold trapVector
  dsimp only
  split
  · exact add_aligned hbase hoffset
  · exact hbase

/-- Both return addresses are multiples of four. -/
structure CsrFile.EpcsAligned (csrs : CsrFile) : Prop where
  mepc : csrs.machine.mepc % 4 = 0
  sepc : csrs.supervisor.sepc % 4 = 0

/-- A write leaves the return addresses aligned. -/
def CsrWrite.keepsAligned (write : CsrWrite) : Bool :=
  !(write.address == .mepc || write.address == .sepc) || write.value % 4 == 0

/-- The pc and both return addresses are multiples of four. -/
structure HartState.Aligned (state : HartState) : Prop where
  pc : state.pc % 4 = 0
  epcs : state.csrs.EpcsAligned

section Csrs

variable {csrs : CsrFile}

theorem CsrFile.EpcsAligned.write (h : csrs.EpcsAligned) {write : CsrWrite}
    (keeps : write.keepsAligned = true) : (csrs.write write.address write.value).EpcsAligned := by
  obtain ⟨address, value⟩ := write
  have haligned (hepc : address = .mepc ∨ address = .sepc) : value % 4 = 0 := by
    rcases hepc with rfl | rfl <;> simpa [CsrWrite.keepsAligned] using keeps
  cases address with
  | mepc => exact ⟨haligned (.inl rfl), h.sepc⟩
  | sepc => exact ⟨h.mepc, haligned (.inr rfl)⟩
  | _ => exact ⟨h.mepc, h.sepc⟩

variable {state : HartState}

/-- A trap at an aligned address leads to an aligned vector. -/
theorem CsrFile.EpcsAligned.applyTrap (h : state.csrs.EpcsAligned) {pc : U32} (hpc : pc % 4 = 0)
    (trap : Trap) : (applyTrap state trap pc).1.Aligned := by
  unfold RvSim.applyTrap CsrFile.enterTrap
  cases state.csrs.delegatesTrapToSupervisor trap state.privilege with
  | true => exact ⟨CsrFile.trapVector_aligned _ _, h.mepc, hpc⟩
  | false => exact ⟨CsrFile.trapVector_aligned _ _, hpc, h.sepc⟩

/-- A return goes to an aligned return address. -/
theorem CsrFile.EpcsAligned.mret (h : state.csrs.EpcsAligned) : (returnFromTrap state .mret).1.Aligned :=
  ⟨h.mepc, h.mepc, h.sepc⟩

theorem CsrFile.EpcsAligned.sret (h : state.csrs.EpcsAligned) : (returnFromTrap state .sret).1.Aligned :=
  ⟨h.sepc, h.mepc, h.sepc⟩

theorem HartState.Aligned.incrementInstret (h : state.Aligned) (retired : U64) :
    { state with csrs := state.csrs.incrementInstret retired }.Aligned := ⟨h.pc, h.epcs.mepc, h.epcs.sepc⟩

theorem HartState.Aligned.beginCycle {β : Type} [Bus β] (h : state.Aligned) (bus : β) :
    (beginCycle state bus).Aligned := by
  unfold RvSim.beginCycle
  refine ⟨h.pc, ?_⟩
  dsimp only
  split <;> exact ⟨h.epcs.mepc, h.epcs.sepc⟩

end Csrs

/-! ## Instructions -/

/-- No instruction leaves a misaligned target or return address behind: not a jump, and not a CSR
instruction that is allowed its CSR. -/
def DecodedInstruction.keepsAligned (decoded : DecodedInstruction) (state : HartState) : Bool :=
  (decoded.jumpTarget (state.operand decoded.rs1) (state.operand decoded.rs2)).all (· % 4 == 0) &&
    ((csrExecute decoded state.csrs (state.operand decoded.rs1)).bind (·.write)).all fun write =>
      !state.csrs.allowsCsrAccess state.privilege write.address || write.keepsAligned

section

variable {β : Type} [Bus β]

/-- **An instruction that installs no misaligned address keeps the hart aligned.** -/
theorem HartState.Aligned.executeDecoded {state : HartState} (h : state.Aligned)
    {decoded : DecodedInstruction} (hpc : decoded.pc % 4 = 0) (keeps : decoded.keepsAligned state = true)
    (walker : PageWalker) (bus : β) : (executeDecoded state walker bus decoded).2.1.Aligned := by
  rw [DecodedInstruction.keepsAligned, Bool.and_eq_true] at keeps
  obtain ⟨hjump, hcsr⟩ := keeps
  refine executeDecoded_pc_cases ?_ ?_ ?_ (fun _ => h.epcs.mret) (fun _ => h.epcs.sret) walker bus
  · intro state' _ hcsrs hgoes
    refine ⟨?_, hcsrs ▸ h.epcs⟩
    rcases hgoes with hstay | hnext | htarget
    · exact hstay ▸ h.pc
    · exact hnext ▸ add_four_aligned hpc
    · rw [htarget] at hjump
      exact eq_of_beq hjump
  · exact h.epcs.applyTrap hpc
  · intro state' outcome write houtcome hwrite hallowed _ _ hcsrs hnext
    refine ⟨hnext ▸ add_four_aligned hpc, hcsrs ▸ h.epcs.write ?_⟩
    rw [houtcome, Option.bind_some, hwrite, Option.all_some, hallowed] at hcsr
    exact hcsr

/-- What is fetched was at an aligned address. -/
theorem aligned_of_fetch [AlignedFetch β] {walker w : PageWalker} {bus b b' : β} {csrs : CsrFile}
    {privilege : PrivilegeMode} {pc pa raw : U32} (pages : walker.MapsPages)
    (htranslate : walker.translate bus csrs privilege pc .instruction = (.ok (.physicalAddress pa), w, b))
    (hfetch : Bus.fetch32 b (pa.setWidth 64) = (.ok raw, b')) : pc % 4 = 0 :=
  (mod_four_of_offset (pages.sameOffset_of_translate htranslate)).1
    (mod_four_of_setWidth (aligned_of_fetch32 hfetch))

/-- Translations and fences keep the walker mapping pages. -/
theorem keptByWalks_mapsPages : KeptByWalks β PageWalker.MapsPages where
  translate pages bus csrs privilege virtualAddress access :=
    pages.translate bus csrs privilege virtualAddress access
  flushFence pages fence := pages.flushFence fence

/-! ## The reference core -/

namespace ReferenceCore

/-- The instruction a cycle executes, after its start. -/
def executing (core : ReferenceCore) (bus : β) : Option DecodedInstruction :=
  let interrupt :=
    if core.pendingDecoded.isNone && !Bus.isBusy bus then
      core.state.csrs.pendingInterrupt core.state.privilege
    else none
  if interrupt.isSome || core.state.halted then none else core.inProgress bus

/-- A cycle in which no instruction installs a misaligned address. -/
def keepsAligned (core : ReferenceCore) (bus : β) : Bool :=
  ((core.begun bus).executing bus).all (·.keepsAligned (core.begun bus).state)

/-- The walker maps pages, and the instruction in progress is at an aligned address. -/
structure FetchesAligned (core : ReferenceCore) : Prop where
  pages : core.pageWalker.MapsPages
  pending : ∀ decoded, core.pendingDecoded = some decoded → decoded.pc % 4 = 0

variable [AlignedFetch β] {core : ReferenceCore} {bus : β}

theorem aligned_of_fetchDecoded {state : HartState} {walker w : PageWalker} {b : β}
    {decoded : DecodedInstruction} (pages : walker.MapsPages)
    (h : fetchDecoded state walker bus = (.ok (.instruction decoded), w, b)) : decoded.pc % 4 = 0 := by
  unfold fetchDecoded at h
  dsimp only at h
  split at h
  · next htranslate =>
    split at h
    · next hfetch =>
      split at h
      · next hdecode =>
        obtain ⟨hdecoded, -⟩ := Prod.mk.inj h
        obtain rfl := Fetched.instruction.inj (Except.ok.inj hdecoded)
        rw [(decode_pc hdecode).2]
        exact aligned_of_fetch pages htranslate hfetch
      · cases h
    · cases h
    · split at h <;> cases h
  all_goals cases h

/-- The instruction a cycle executes is at an aligned address. -/
theorem FetchesAligned.executing (h : core.FetchesAligned) {decoded : DecodedInstruction}
    (hexecuting : core.executing bus = some decoded) : decoded.pc % 4 = 0 := by
  have hprogress : core.inProgress bus = some decoded := by
    unfold ReferenceCore.executing at hexecuting
    exact (Option.ite_none_left_eq_some.1 hexecuting).2
  unfold inProgress at hprogress
  split at hprogress
  · next hpending =>
    obtain rfl := Option.some.inj hprogress
    exact h.pending _ hpending
  · split at hprogress
    · next hfetch =>
      obtain rfl := Option.some.inj hprogress
      exact aligned_of_fetchDecoded h.pages (Prod.ext hfetch rfl)
    · cases hprogress

omit [AlignedFetch β] in
/-- The cases of a cycle after its start: the hart stays, enters a trap at its pc, or executes the
instruction of the cycle. -/
theorem instructionStep_cases {P : ReferenceCore → Prop}
    (stay : ∀ walker lastResult, P { core with pageWalker := walker, lastResult })
    (trap : ∀ trap walker, P { core with
      state := (applyTrap core.state trap core.state.pc).1, pageWalker := walker
      lastResult := (applyTrap core.state trap core.state.pc).2 })
    (execute : ∀ decoded walker (b : β), core.executing bus = some decoded →
      P (core.executeStep walker b decoded).2.1) :
    P (core.instructionStep bus).2.1 := by
  unfold instructionStep interrupt
  dsimp only
  split
  · exact trap _ _
  · next hinterrupt =>
    split
    · exact stay _ _
    · next hrunning =>
      -- no interrupt and not halted: the cycle goes on with the instruction in progress
      have hexecuting : core.executing bus = core.inProgress bus := by
        unfold ReferenceCore.executing
        dsimp only
        rw [hinterrupt, if_neg (by simpa using hrunning)]
      split
      · next decoded hpending =>
        refine execute decoded _ _ ?_
        rw [hexecuting]
        simp only [inProgress, hpending]
      · next hpending =>
        split
        · next decoded _ _ hfetch =>
          refine execute decoded _ _ ?_
          rw [hexecuting]
          simp only [inProgress, hpending, hfetch]
        · exact stay _ _
        · exact trap _ _
        · exact stay _ _

omit [AlignedFetch β] in
/-- The core after an execution. -/
theorem executeStep_cases {P : ReferenceCore → Prop} {walker : PageWalker} {decoded : DecodedInstruction}
    (answer : ∀ w retired pending lastResult,
      (pending = core.pendingDecoded ∨ pending = none ∨ pending = some decoded) →
      P { core with
        state := { (executeDecoded core.state walker bus decoded).2.1 with
          csrs := (executeDecoded core.state walker bus decoded).2.1.csrs.incrementInstret retired }
        pageWalker := w, pendingDecoded := pending, lastResult }) :
    P (core.executeStep walker bus decoded).2.1 := by
  unfold executeStep
  split
  · next result state w b heq =>
    rw [heq] at answer
    refine answer w result.retired _ result ?_
    split
    · exact .inr (.inr rfl)
    · exact .inr (.inl rfl)
  · next error state w b heq =>
    rw [heq] at answer
    have hanswer := answer w 0 core.pendingDecoded core.lastResult (.inl rfl)
    rwa [CsrFile.incrementInstret_zero] at hanswer

theorem FetchesAligned.stepCycle (h : core.FetchesAligned) :
    (core.stepCycle bus).2.1.FetchesAligned := by
  refine ⟨pageWalker_stepCycle keptByWalks_mapsPages h.pages bus, ?_⟩
  have hbegun : (core.begun bus).FetchesAligned := ⟨h.pages, h.pending⟩
  show ∀ decoded, ((core.begun bus).instructionStep bus).2.1.pendingDecoded = some decoded → _
  refine instructionStep_cases
    (P := fun core' => ∀ decoded, core'.pendingDecoded = some decoded → decoded.pc % 4 = 0)
    (fun _ _ => h.pending) (fun _ _ => h.pending) ?_
  intro decoded walker b hexecuting
  refine executeStep_cases
    (P := fun core' => ∀ decoded, core'.pendingDecoded = some decoded → decoded.pc % 4 = 0) ?_
  rintro _ _ pending _ (rfl | rfl | rfl) decoded' hpending
  · exact h.pending decoded' hpending
  · cases hpending
  · obtain rfl := Option.some.inj hpending
    exact hbegun.executing hexecuting

/-- **A cycle in which no instruction installs a misaligned address keeps the hart aligned.** -/
theorem aligned_stepCycle (h : core.FetchesAligned) (haligned : core.state.Aligned)
    (keeps : core.keepsAligned bus = true) : (core.stepCycle bus).2.1.state.Aligned := by
  have hbegun : (core.begun bus).FetchesAligned := ⟨h.pages, h.pending⟩
  have hstate : (core.begun bus).state.Aligned := haligned.beginCycle bus
  show ((core.begun bus).instructionStep bus).2.1.state.Aligned
  refine instructionStep_cases (P := fun core' => core'.state.Aligned) (fun _ _ => hstate)
    (fun trap _ => hstate.epcs.applyTrap hstate.pc trap) ?_
  intro decoded walker b hexecuting
  rw [keepsAligned, hexecuting, Option.all_some] at keeps
  refine executeStep_cases (P := fun core' => core'.state.Aligned) fun _ _ _ _ _ => ?_
  exact (hstate.executeDecoded (hbegun.executing hexecuting) keeps walker b).incrementInstret _

end ReferenceCore

/-! ## The pipeline -/

/-- A jump, or a branch. -/
def InstructionKind.isJump : InstructionKind → Bool
  | .jal | .jalr | .branch _ => true
  | _ => false

section Execute

variable {decoded : DecodedInstruction} {rs1Value rs2Value : U32} {privilege : PrivilegeMode}
  {csrs : CsrFile} {outcome : ExecuteOutcome}

omit [Bus β] in
/-- **EX lets a jump or taken branch advance, whatever its target is.** -/
theorem ExStage.execute_jump {target : U32} (h : decoded.jumpTarget rs1Value rs2Value = some target) :
    ExStage.execute decoded rs1Value rs2Value privilege csrs =
      .advance { writebackValue := decoded.link, nextPc := target } := by
  unfold DecodedInstruction.jumpTarget at h
  split at h
  · next hkind =>
    obtain rfl := Option.some.inj h
    simp only [ExStage.execute, hkind, DecodedInstruction.link]
  · next hkind =>
    obtain rfl := Option.some.inj h
    simp only [ExStage.execute, hkind, DecodedInstruction.link]
  · next hkind =>
    split at h
    · next htaken =>
      obtain rfl := Option.some.inj h
      simp only [ExStage.execute, hkind, DecodedInstruction.link, if_pos htaken]
    · cases h
  · cases h

omit [Bus β] in
/-- All instructions but jumps and returns go on behind themselves. -/
theorem ExStage.execute_nextPc (hjump : decoded.kind.isJump = false) (hxret : decoded.kind.isXret = false)
    (h : ExStage.execute decoded rs1Value rs2Value privilege csrs = .advance outcome) :
    outcome.nextPc = decoded.pc + 4 := by
  cases hkind : decoded.kind with
  | jal | jalr | branch =>
    rw [hkind] at hjump
    cases hjump
  | csr op =>
    obtain ⟨-, -, -, -, rfl⟩ := ExStage.execute_csr hkind h
    rfl
  | system kind =>
    cases kind with
    | mret | sret =>
      rw [hkind] at hxret
      cases hxret
    | ecall | ebreak =>
      simp only [ExStage.execute, hkind] at h
      cases h
    -- a check of the mode, and then on
    | sfenceVma | wfi =>
      simp only [ExStage.execute, hkind] at h
      split at h
      · cases h
      · obtain rfl := ExecuteEvent.advance.inj h
        rfl
  | _ =>
    simp only [ExStage.execute, hkind] at h
    obtain rfl := ExecuteEvent.advance.inj h
    rfl

end Execute

/-- No misaligned target or return address is in the payload. -/
def MemWbPayload.keepsAligned (q : MemWbPayload) : Bool :=
  (!q.decoded.kind.isJump || q.nextPc % 4 == 0) && q.csrWrite.all (·.keepsAligned)

/-- An instruction at an aligned address that goes on behind itself, unless it jumps or returns. -/
structure FallsThrough (decoded : DecodedInstruction) (nextPc : U32) : Prop where
  pc : decoded.pc % 4 = 0
  next : decoded.kind.isJump = false → decoded.kind.isXret = false → nextPc = decoded.pc + 4

/-- The instructions in the latches are at aligned addresses. -/
structure PipelineLatches.Aligned (latches : PipelineLatches) : Prop where
  ifId : ∀ p, latches.ifId = some p → p.pc % 4 = 0
  idEx : ∀ p, latches.idEx = some p → p.decoded.pc % 4 = 0
  exMem : ∀ x, latches.exMem = some x → FallsThrough x.decoded x.nextPc
  memWb : ∀ q, latches.memWb = some q → FallsThrough q.decoded q.nextPc

theorem PipelineLatches.Aligned.empty : ({} : PipelineLatches).Aligned where
  ifId p h := by cases h
  idEx p h := by cases h
  exMem x h := by cases h
  memWb q h := by cases h

/-- Write-back of an instruction that installs no misaligned address. -/
theorem WbStage.writeBack_aligned {state : HartState} (h : state.Aligned) (walker : PageWalker)
    {q : MemWbPayload} (hgoes : FallsThrough q.decoded q.nextPc) (keeps : q.keepsAligned = true) :
    (WbStage.writeBack state walker q).2.1.Aligned := by
  rw [MemWbPayload.keepsAligned, Bool.and_eq_true] at keeps
  obtain ⟨hjump, hcsr⟩ := keeps
  unfold WbStage.writeBack
  split
  · exact h.epcs.mret
  · exact h.epcs.sret
  · next hmret hsret =>
    -- only a jump needs the condition: the others go on behind themselves
    have hnext : q.nextPc % 4 = 0 := by
      cases hkind : q.decoded.kind.isJump with
      | true =>
        rw [hkind] at hjump
        exact eq_of_beq hjump
      | false =>
        have hxret : q.decoded.kind.isXret = false := by
          unfold InstructionKind.isXret
          split
          · next hk => exact absurd hk hmret
          · next hk => exact absurd hk hsret
          · rfl
        rw [hgoes.next hkind hxret]
        exact add_four_aligned hgoes.pc
    refine ⟨hnext, ?_⟩
    cases hwrite : q.csrWrite with
    | none => exact h.epcs
    | some write =>
      rw [hwrite] at hcsr
      exact h.epcs.write hcsr

/-- The commit event of a payload reports the pc of the hart. -/
theorem WbStage.writeBack_nextPc (state : HartState) (walker : PageWalker) (q : MemWbPayload) :
    (WbStage.writeBack state walker q).1.nextPc = (WbStage.writeBack state walker q).2.1.pc := by
  unfold WbStage.writeBack
  split <;> rfl

/-- What EX makes of a jump to `target`. -/
def ExMemPayload.jump (decoded : DecodedInstruction) (target : U32) : ExMemPayload :=
  .of decoded { writebackValue := decoded.link, nextPc := target }

omit [Bus β] in
theorem isJump_of_jumpTarget {decoded : DecodedInstruction} {rs1Value rs2Value target : U32}
    (h : decoded.jumpTarget rs1Value rs2Value = some target) : decoded.kind.isJump = true := by
  unfold DecodedInstruction.jumpTarget at h
  split at h
  all_goals
    first
    | next hkind => rw [hkind]; rfl
    | cases h

/-- **MEM hands a jump on as it is, and write-back retires it as the reference core does**, whatever its target
is. -/
theorem ExMemPayload.jump_retires {decoded : DecodedInstruction} {rs1Value rs2Value target : U32}
    (h : decoded.jumpTarget rs1Value rs2Value = some target) (state : HartState) (walker : PageWalker)
    (bus : β) :
    ∃ payload, MemStage.access bus walker state.csrs state.privilege (.jump decoded target) =
        (.ok (.advance payload), walker, bus) ∧
      ∃ commit, WbStage.writeBack state walker payload = (commit, state.jumped decoded target, walker) ∧
        commit.pc = decoded.pc ∧ commit.nextPc = target := by
  have hjump := isJump_of_jumpTarget h
  have hmemory : ExStage.usesMemory (ExMemPayload.jump decoded target).decoded = false := by
    show ExStage.usesMemory decoded = false
    unfold ExStage.usesMemory
    cases hkind : decoded.kind <;> first | rfl | (rw [hkind] at hjump; cases hjump)
  refine ⟨(ExMemPayload.jump decoded target).advance decoded.link,
    MemStage.access_of_not_usesMemory hmemory _ _ _ _,
    WbStage.commitEvent ((ExMemPayload.jump decoded target).advance decoded.link) target, ?_, rfl, rfl⟩
  obtain ⟨raw, pc, kind, rd, rs1, rs2, imm, csr⟩ := decoded
  cases kind with
  | jal | jalr | branch kind => cases rd <;> rfl
  | _ => cases hjump

namespace PipelineCore

/-- The instruction that retires in a cycle. -/
def retiring (core : PipelineCore) : Option MemWbPayload :=
  if core.state.halted then none else core.latches.memWb

/-- The addresses of the instructions in flight. -/
def inFlight (core : PipelineCore) : List U32 := core.latches.flow.map Prod.fst

/-- A cycle in which no instruction installs a misaligned address, and no fetch traps at one. -/
def keepsAligned (core : PipelineCore) (bus : β) : Bool :=
  core.retiring.all (·.keepsAligned) &&
    (match (core.begun bus).fetchAnswer bus with
    | some (.trap _) => core.frontEndPc % 4 == 0
    | _ => true)

/-- The walker maps pages, and the instructions in flight are at aligned addresses. -/
structure FetchesAligned (core : PipelineCore) : Prop where
  pages : core.pageWalker.MapsPages
  latches : core.latches.Aligned

theorem FetchesAligned.inFlight {core : PipelineCore} (h : core.FetchesAligned) :
    ∀ pc ∈ core.inFlight, pc % 4 = 0 := by
  intro pc hmem
  simp only [PipelineCore.inFlight, PipelineLatches.flow, PipelineLatches.laterFlow,
    PipelineLatches.frontFlow, List.map_append, List.mem_append, List.mem_map, Option.mem_toList,
    Option.map_eq_some_iff] at hmem
  rcases hmem with ⟨-, ⟨q, hq, rfl⟩, rfl⟩ | ⟨-, ⟨x, hx, rfl⟩, rfl⟩ | ⟨-, ⟨p, hp, rfl⟩, rfl⟩ |
    ⟨-, ⟨p, hp, rfl⟩, rfl⟩
  · exact (h.latches.memWb q hq).pc
  · exact (h.latches.exMem x hx).pc
  · exact h.latches.idEx p hp
  · exact h.latches.ifId p hp

end PipelineCore

section Cycles

variable {core : PipelineCore} {bus : β} {l : StepLocals β}

/-- The latches after a cycle. -/
theorem RunningCycle.alignedLatches [AlignedFetch β] (running : core.state.halted = false)
    (cycle : RunningCycle core bus l) (h : core.FetchesAligned) : l.next.Aligned := by
  obtain ⟨pages, latches⟩ := h
  refine ⟨?_, ?_, ?_, ?_⟩
  · cases cycle with
    | memoryWait => exact latches.ifId
    | barrierHold => exact latches.ifId
    | unfetched _ _ _ _ decode =>
      cases decode with
      | stall latch =>
        intro p hp
        obtain rfl := Option.some.inj hp
        exact latches.ifId _ latch
      | _ => simp
    -- the one cycle that brings in a new address
    | fetched noInterrupt memory noBarrier execute decode unblocked fetch =>
      intro p hp
      obtain rfl := Option.some.inj hp
      obtain ⟨pa, b', htranslate, hfetch, hpc, -⟩ := IfStage.fetch_advance fetch
      rw [hpc]
      have hwritten : (core.written bus).pageWalker.MapsPages := keptByWalks_mapsPages.written pages
      exact aligned_of_fetch (keptByWalks_mapsPages.memoryPass hwritten memory) htranslate hfetch
    | _ => simp
  · intro p hp
    rcases cycle.idEx_cases running with
      ⟨-, -, hnext⟩ | ⟨-, hkept, -⟩ | hnone | ⟨p', d, -, hlatch, hdecode, -, hnext⟩
    · rw [hnext] at hp
      exact latches.idEx p hp
    · exact latches.idEx p (hkept ▸ hp)
    · rw [hnone] at hp
      cases hp
    · obtain rfl := Option.some.inj (hnext.symm.trans hp)
      show d.pc % 4 = 0
      rw [(decode_pc hdecode).2]
      exact latches.ifId p' hlatch
  · intro x hx
    rcases cycle.exMem_cases running with
      ⟨-, -, hnext⟩ | hnone | ⟨p, rs1Value, rs2Value, outcome, hcall, hexecute, hnext⟩
    · rw [hnext] at hx
      exact latches.exMem x hx
    · rw [hnone] at hx
      cases hx
    · obtain rfl := Option.some.inj (hnext.symm.trans hx)
      obtain ⟨-, -, -, -, hlatch, -, -⟩ := PipelineCore.executeCall_eq_some_iff.mp hcall
      exact ⟨latches.idEx p hlatch, fun hjump hxret => ExStage.execute_nextPc hjump hxret hexecute⟩
  · intro q hq
    rw [cycle.memWb_eq running] at hq
    obtain ⟨x, w, b, hlatch, haccess⟩ := PipelineCore.memoryAdvance_eq_some hq
    rw [(MemStage.access_advance haccess).1]
    exact latches.exMem x hlatch

theorem PipelineCore.FetchesAligned.stepCycle [AlignedFetch β] (h : core.FetchesAligned) :
    (core.stepCycle bus).2.1.FetchesAligned := by
  refine ⟨pageWalker_stepCycle keptByWalks_mapsPages h.pages bus, ?_⟩
  have hbegun : (core.begun bus).FetchesAligned := ⟨h.pages, h.latches⟩
  generalize hcore : (core.stepCycle bus).2.1 = core'
  generalize hbus : (core.stepCycle bus).2.2 = bus'
  have cycle := core.stepCycle_cases bus
  rw [hcore, hbus] at cycle
  cases cycle with
  | wake => exact .empty
  | wait => exact h.latches
  | running running cycle => exact cycle.alignedLatches running hbegun

omit [Bus β] in
/-- The hart after write-back. -/
theorem PipelineCore.written_aligned (h : core.FetchesAligned) (haligned : core.state.Aligned)
    (running : core.state.halted = false) (keeps : core.retiring.all (·.keepsAligned) = true) :
    (core.written bus).state.Aligned := by
  rw [retiring, if_neg (by simp [running])] at keeps
  rw [written_state]
  cases hlatch : core.latches.memWb with
  | none => exact haligned
  | some q =>
    rw [hlatch] at keeps
    exact WbStage.writeBack_aligned haligned core.pageWalker (h.latches.memWb q hlatch) keeps

/-- The hart after a running cycle: a trap is entered at an aligned address. -/
theorem RunningCycle.aligned (running : core.state.halted = false) (cycle : RunningCycle core bus l)
    (h : core.FetchesAligned) (hwritten : (core.written bus).state.Aligned)
    (keeps : ∀ t, core.fetchAnswer bus = some (.trap t) → core.frontEndPc % 4 = 0) :
    l.state.Aligned := by
  cases cycle with
  | interrupt => exact hwritten.epcs.applyTrap hwritten.pc _
  | memoryTrap _ latch => exact hwritten.epcs.applyTrap (h.latches.exMem _ latch).pc _
  | executeTrap _ _ _ latch => exact hwritten.epcs.applyTrap (h.latches.idEx _ latch) _
  | illegal _ _ _ _ latch => exact hwritten.epcs.applyTrap (h.latches.ifId _ latch) _
  | fetchTrap noInterrupt memory noBarrier execute decode unblocked fetch =>
    have hanswer := PipelineCore.fetchAnswer_of_pass running noInterrupt memory noBarrier execute decode
      unblocked
    rw [fetch] at hanswer
    exact hwritten.epcs.applyTrap (keeps _ hanswer) _
  | _ => exact hwritten

/-- A cycle reports the commit of its write-back. -/
theorem RunningCycle.commit_eq (cycle : RunningCycle core bus l) :
    l.commit = core.latches.memWb.map fun q => (WbStage.writeBack core.state core.pageWalker q).1 := by
  have hwritten : (core.written bus).commit =
      core.latches.memWb.map fun q => (WbStage.writeBack core.state core.pageWalker q).1 := by
    unfold PipelineCore.written StepLocals.writeBackStage
    rcases core.latches.memWb with _ | q <;> rfl
  rw [← hwritten]
  cases cycle <;> rfl

/-- No instruction retires with a misaligned next pc. -/
def PipelineCore.CommitAligned (core : PipelineCore) : Prop :=
  ∀ commit, core.lastCommit = some commit → commit.nextPc % 4 = 0

/-- **A cycle in which no instruction installs a misaligned address, and no fetch traps at one, keeps the
hart aligned.** -/
theorem PipelineCore.aligned_stepCycle (h : core.FetchesAligned) (haligned : core.state.Aligned)
    (keeps : core.keepsAligned bus = true) :
    (core.stepCycle bus).2.1.state.Aligned ∧ (core.stepCycle bus).2.1.CommitAligned := by
  rw [keepsAligned, Bool.and_eq_true] at keeps
  obtain ⟨hretiring, hfetch⟩ := keeps
  have hbegun : (core.begun bus).FetchesAligned := ⟨h.pages, h.latches⟩
  have hstate : (core.begun bus).state.Aligned := haligned.beginCycle bus
  generalize hcore : (core.stepCycle bus).2.1 = core'
  generalize hbus : (core.stepCycle bus).2.2 = bus'
  have cycle := core.stepCycle_cases bus
  rw [hcore, hbus] at cycle
  cases cycle with
  | wake => exact ⟨hstate.epcs.applyTrap hstate.pc _, by simp [CommitAligned]⟩
  | wait => exact ⟨hstate, by simp [CommitAligned]⟩
  | @running l running cycle =>
    -- write-back comes first: what the later stages do starts from its state
    have hwritten : ((core.begun bus).written bus).state.Aligned :=
      written_aligned hbegun hstate running hretiring
    refine ⟨(cycle.aligned running hbegun hwritten ?_).incrementInstret _, ?_⟩
    · intro t htrap
      rw [htrap] at hfetch
      exact eq_of_beq hfetch
    · intro commit hcommit
      have hreport : l.commit = some commit := hcommit
      rw [cycle.commit_eq, Option.map_eq_some_iff] at hreport
      obtain ⟨q, hlatch, rfl⟩ := hreport
      rw [WbStage.writeBack_nextPc]
      have hpc := hwritten.pc
      rwa [written_state, hlatch] at hpc

end Cycles

/-! ## Runs -/

/-- The cycles of a run install no misaligned address. -/
abbrev ReferenceCore.AlignedRun (start : Machine ReferenceCore β) (ticks : List (β → β)) : Prop :=
  Along Machine.stepCycle (fun machine tick => machine.cpu.keepsAligned (tick machine.bus) = true) start
    ticks

/-- The cycles of a run install no misaligned address, and trap at none. -/
abbrev PipelineCore.AlignedRun (start : Machine PipelineCore β) (ticks : List (β → β)) : Prop :=
  Along Machine.stepCycle (fun machine tick => machine.cpu.keepsAligned (tick machine.bus) = true) start
    ticks

variable [AlignedFetch β]

theorem ReferenceCore.fetchesAligned_run {start : Machine ReferenceCore β} (h : start.cpu.FetchesAligned)
    (ticks : List (β → β)) : (start.runCycles ticks).cpu.FetchesAligned :=
  Along.run_invariant (I := fun machine : Machine ReferenceCore β => machine.cpu.FetchesAligned) h
    (fun _ _ h _ => h.stepCycle) (Along.trivial_of start ticks)

theorem PipelineCore.fetchesAligned_run {start : Machine PipelineCore β} (h : start.cpu.FetchesAligned)
    (ticks : List (β → β)) : (start.runCycles ticks).cpu.FetchesAligned :=
  Along.run_invariant (I := fun machine : Machine PipelineCore β => machine.cpu.FetchesAligned) h
    (fun _ _ h _ => h.stepCycle) (Along.trivial_of start ticks)

theorem ReferenceCore.aligned_along {start : Machine ReferenceCore β} {ticks : List (β → β)}
    (h : start.cpu.FetchesAligned) (haligned : start.cpu.state.Aligned) (run : AlignedRun start ticks) :
    (start.runCycles ticks).cpu.state.Aligned := by
  have hboth : (start.runCycles ticks).cpu.FetchesAligned ∧ (start.runCycles ticks).cpu.state.Aligned :=
    Along.run_invariant
      (I := fun machine : Machine ReferenceCore β => machine.cpu.FetchesAligned ∧ machine.cpu.state.Aligned)
      ⟨h, haligned⟩ (fun _ _ h keeps => ⟨h.1.stepCycle, aligned_stepCycle h.1 h.2 keeps⟩) run
  exact hboth.2

theorem PipelineCore.aligned_along {start : Machine PipelineCore β} {ticks : List (β → β)}
    (h : start.cpu.FetchesAligned) (haligned : start.cpu.state.Aligned) (hcommit : start.cpu.CommitAligned)
    (run : AlignedRun start ticks) :
    (start.runCycles ticks).cpu.state.Aligned ∧ (start.runCycles ticks).cpu.CommitAligned := by
  have hboth : (start.runCycles ticks).cpu.FetchesAligned ∧
      (start.runCycles ticks).cpu.state.Aligned ∧ (start.runCycles ticks).cpu.CommitAligned :=
    Along.run_invariant
      (I := fun machine : Machine PipelineCore β => machine.cpu.FetchesAligned ∧
        machine.cpu.state.Aligned ∧ machine.cpu.CommitAligned)
      ⟨h, haligned, hcommit⟩
      (fun _ _ h keeps => ⟨h.1.stepCycle, aligned_stepCycle h.1 h.2.1 keeps⟩) run
  exact hboth.2

end

/-- **What is aligned.** From an aligned reset vector the instructions that a cycle executes or that are in
flight are at aligned addresses. The pc and the return addresses are aligned, and instructions retire with an
aligned next pc, in every run whose cycles install no misaligned address and trap at none. Jumps do not
check: in both cores they retire and write their register, whatever their target is. -/
theorem aligned_run {β : Type} [Bus β] [AlignedFetch β] {resetVector : U32} (hreset : resetVector % 4 = 0)
    (bus : β) (ticks : List (β → β)) :
    let reference : Machine ReferenceCore β := { cpu := .new resetVector, bus }
    let pipeline : Machine PipelineCore β := { cpu := .new resetVector, bus }
    (∀ (b : β) decoded, ((reference.runCycles ticks).cpu.begun b).executing b = some decoded →
      decoded.pc % 4 = 0) ∧
    (∀ pc ∈ (pipeline.runCycles ticks).cpu.inFlight, pc % 4 = 0) ∧
    (ReferenceCore.AlignedRun reference ticks → (reference.runCycles ticks).cpu.state.Aligned) ∧
    (PipelineCore.AlignedRun pipeline ticks →
      (pipeline.runCycles ticks).cpu.state.Aligned ∧ (pipeline.runCycles ticks).cpu.CommitAligned) ∧
    (∀ (state : HartState) (walker : PageWalker) (b : β) (decoded : DecodedInstruction) (target : U32),
      decoded.jumpTarget (state.operand decoded.rs1) (state.operand decoded.rs2) = some target →
      executeDecoded state walker b decoded = retire (state.jumped decoded target) walker b) ∧
    (∀ (decoded : DecodedInstruction) (rs1Value rs2Value target : U32) (privilege : PrivilegeMode)
      (csrs : CsrFile), decoded.jumpTarget rs1Value rs2Value = some target →
      ExStage.execute decoded rs1Value rs2Value privilege csrs =
        .advance { writebackValue := decoded.link, nextPc := target }) ∧
    ∀ (decoded : DecodedInstruction) (rs1Value rs2Value target : U32) (state : HartState)
      (walker : PageWalker) (b : β), decoded.jumpTarget rs1Value rs2Value = some target →
      ∃ payload, MemStage.access b walker state.csrs state.privilege (.jump decoded target) =
          (.ok (.advance payload), walker, b) ∧
        ∃ commit, WbStage.writeBack state walker payload = (commit, state.jumped decoded target, walker) ∧
          commit.pc = decoded.pc ∧ commit.nextPc = target := by
  intro reference pipeline
  have hstate : (HartState.new resetVector).Aligned := ⟨hreset, rfl, rfl⟩
  have hreference : reference.cpu.FetchesAligned := ⟨.new, fun decoded hpending => by cases hpending⟩
  have hpipeline : pipeline.cpu.FetchesAligned := ⟨.new, .empty⟩
  have hcommit : pipeline.cpu.CommitAligned := fun commit hcommit => by cases hcommit
  -- the first two hold in every run; the next two by the invariant of the runs that install nothing
  refine ⟨fun b decoded hexecuting => ?_, ?_, ?_, ?_, ?_, ?_, ?_⟩
  · have hrun := ReferenceCore.fetchesAligned_run hreference ticks
    have hbegun : ((reference.runCycles ticks).cpu.begun b).FetchesAligned := ⟨hrun.pages, hrun.pending⟩
    exact hbegun.executing hexecuting
  · exact (PipelineCore.fetchesAligned_run hpipeline ticks).inFlight
  · exact ReferenceCore.aligned_along hreference hstate
  · exact PipelineCore.aligned_along hpipeline hstate hcommit
  · exact fun state walker b decoded target htarget => executeDecoded_jump htarget walker b
  · exact fun decoded rs1Value rs2Value target privilege csrs htarget => ExStage.execute_jump htarget
  · exact fun decoded rs1Value rs2Value target state walker b htarget =>
      ExMemPayload.jump_retires htarget state walker b

/-- A `jal` over one word, and a return to that word through `mepc`. -/
def jumpAndReturn : TestBus := .ofWords [0x008000EF, 0x00000013, 0x34109073, 0x30200073]

theorem aligned_run_return :
    (Machine.runCycles { cpu := ReferenceCore.new 0, bus := jumpAndReturn }
      (List.replicate 4 id)).cpu.state.Aligned ∧
    (Machine.runCycles { cpu := PipelineCore.new 0, bus := jumpAndReturn }
      (List.replicate 12 id)).cpu.state.Aligned ∧
    (Machine.runCycles { cpu := PipelineCore.new 0, bus := jumpAndReturn }
      (List.replicate 12 id)).cpu.CommitAligned :=
  ⟨(aligned_run rfl jumpAndReturn (List.replicate 4 id)).2.2.1 (by decide +kernel),
    (aligned_run rfl jumpAndReturn (List.replicate 12 id)).2.2.2.1 (by decide +kernel)⟩

/-- `jal x1, 2` at the reset vector: the reference core retires it, and traps one cycle later, at the target.
In the pipeline the fetch at the target traps before the `jal` retires. -/
theorem misaligned_jump_retires :
    let bus := TestBus.ofWords [0x002000EF]
    let cycles n : List (TestBus → TestBus) := List.replicate n id
    let reference n := Machine.runCycles { cpu := ReferenceCore.new 0, bus } (cycles n)
    let pipeline n := Machine.runCycles { cpu := PipelineCore.new 0, bus } (cycles n)
    ((reference 1).cpu.lastResult.retired = 1 ∧ (reference 1).cpu.state.pc = 2 ∧
      (reference 1).cpu.state.registers.read 1 = 4 ∧
      (reference 2).cpu.lastResult.trap = some (.exception (.instructionAddressMisaligned 2)) ∧
      (reference 2).cpu.state.csrs.machine.mepc = 2) ∧
    (pipeline 2).cpu.lastResult.trap = some (.exception (.instructionAddressMisaligned 2)) ∧
      (pipeline 2).cpu.state.csrs.machine.mepc = 2 ∧ (pipeline 5).cpu.state.pc = 2 ∧
      (pipeline 5).cpu.lastCommit.map (·.nextPc) = some 2 ∧
      (pipeline 5).cpu.state.registers.read 1 = 4 := by
  decide +kernel

end RvSim
