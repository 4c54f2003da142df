import RvSim.Automata.Run
import RvSim.Exec.Helpers
import RvSim.State.StatusWord

/-!
# Nested traps

One status word holds two stacks of depth one: `MPP`, `MPIE` and `MIE` for the traps to machine mode,
`SPP`, `SPIE` and `SIE` for those to supervisor mode. A handler that saves its epc and status register
before it can be trapped again at its own level, and restores them before it returns, makes the two
stacks as deep as the nesting.

A run is a list of events of one hart, beside a stack of the traps that have not been returned from. The
stack is bookkeeping: the hart does not see it.

## Main definitions

* `TrapFrame`, `NestedHart`: a hart with the traps that are open
* `NestedHart.step`, `NestedHart.Disciplined`: the events, and what handlers may do
* `NestedHart.ReturnRestores`: a return goes back to where its trap was taken

## Main results

* `return_restores`: every return of a disciplined run restores what its trap found
-/

namespace RvSim

open Automata

/-- The fields of the status word of the hart. -/
def HartState.status (hart : HartState) : StatusFields := statusFields hart.csrs.machine.mstatus

/-! ## Frames -/

/-- The level a trap is handled at. -/
inductive TrapLevel
  | machine | supervisor
  deriving DecidableEq, Repr

namespace TrapLevel

def mode : TrapLevel → PrivilegeMode
  | machine => .machine
  | supervisor => .supervisor

/-- `xepc`. -/
def epc : TrapLevel → CsrAddress
  | machine => .mepc
  | supervisor => .sepc

/-- `xstatus`. -/
def status : TrapLevel → CsrAddress
  | machine => .mstatus
  | supervisor => .sstatus

/-- `xret`. -/
def xret : TrapLevel → SystemKind
  | machine => .mret
  | supervisor => .sret

/-- The level of the handler of a trap. -/
def ofTrap (hart : HartState) (trap : Trap) : TrapLevel :=
  if hart.csrs.delegatesTrapToSupervisor trap hart.privilege then supervisor else machine

end TrapLevel

/-- How far a handler is with its epc and status register. -/
inductive HandlerStage
  | entered
  | saved (epc status : U32)
  | restoring (epc status : U32) (epcDone statusDone : Bool)
  deriving DecidableEq

/-- A trap that has not been returned from: the hart it was taken in, the pc it returns to, and how far
its handler is. -/
structure TrapFrame where
  level : TrapLevel
  found : HartState
  pc : U32
  stage : HandlerStage
  deriving DecidableEq

/-- Both registers are restored. -/
def TrapFrame.isRestored (frame : TrapFrame) : Bool :=
  match frame.stage with
  | .restoring _ _ epcDone statusDone => epcDone && statusDone
  | _ => false

def TrapFrame.isSaved (frame : TrapFrame) : Bool :=
  match frame.stage with
  | .saved _ _ => true
  | _ => false

/-- A hart with its open traps, the innermost first. -/
structure NestedHart where
  hart : HartState
  frames : List TrapFrame := []
  deriving DecidableEq

/-- What happens to the hart. `run` is an instruction, or a passing cycle, that is none of the others. -/
inductive TrapEvent
  | trap (trap : Trap) (currentPc : U32)
  | run (hart : HartState)
  | write (address : CsrAddress) (value : U32)
  | save
  | restoreEpc
  | restoreStatus
  | xret
  deriving DecidableEq

namespace HartState

def writeCsr (hart : HartState) (address : CsrAddress) (value : U32) : HartState :=
  { hart with csrs := hart.csrs.write address value }

/-- The trap registers and the mode are the same. -/
structure SameTraps (hart other : HartState) : Prop where
  privilege : hart.privilege = other.privilege
  mstatus : hart.csrs.machine.mstatus = other.csrs.machine.mstatus
  mepc : hart.csrs.machine.mepc = other.csrs.machine.mepc
  sepc : hart.csrs.supervisor.sepc = other.csrs.supervisor.sepc

instance (hart other : HartState) : Decidable (hart.SameTraps other) :=
  decidable_of_iff (_ ∧ _ ∧ _ ∧ _) ⟨fun ⟨h, h', h'', h'''⟩ => ⟨h, h', h'', h'''⟩,
    fun ⟨h, h', h'', h'''⟩ => ⟨h, h', h'', h'''⟩⟩

end HartState

/-- A CSR that a handler may write, in the stage it is in. -/
def TrapFrame.MayWrite (frame : TrapFrame) (address : CsrAddress) : Prop :=
  match frame.level with
  | .machine => address ≠ .sepc ∧
    (frame.isSaved ∨ address ≠ .mepc ∧ address ≠ .mstatus ∧ address ≠ .sstatus)
  | .supervisor => address.minPrivilegeLevel ≤ PrivilegeMode.supervisor.csrLevel ∧
    ¬ address.isReadOnly ∧ (frame.isSaved ∨ address ≠ .sepc ∧ address ≠ .sstatus)

instance (frame : TrapFrame) (address : CsrAddress) : Decidable (frame.MayWrite address) := by
  unfold TrapFrame.MayWrite
  split <;> infer_instance

namespace NestedHart

def step (nested : NestedHart) : TrapEvent → NestedHart
  | .trap trap currentPc =>
    { hart := (applyTrap nested.hart trap currentPc).1
      frames := ⟨.ofTrap nested.hart trap, nested.hart, currentPc, .entered⟩ :: nested.frames }
  | .run hart => { nested with hart }
  | .write address value => { nested with hart := nested.hart.writeCsr address value }
  | .save =>
    match nested.frames with
    | [] => nested
    | frame :: frames =>
      { nested with frames := { frame with
          stage := .saved (nested.hart.csrs.read frame.level.epc)
            (nested.hart.csrs.read frame.level.status) } :: frames }
  | .restoreEpc =>
    match nested.frames with
    | [] => nested
    | frame :: frames =>
      match frame.stage with
      | .entered => nested
      | .saved epc status =>
        { hart := nested.hart.writeCsr frame.level.epc epc
          frames := { frame with stage := .restoring epc status true false } :: frames }
      | .restoring epc status _ statusDone =>
        { hart := nested.hart.writeCsr frame.level.epc epc
          frames := { frame with stage := .restoring epc status true statusDone } :: frames }
  | .restoreStatus =>
    match nested.frames with
    | [] => nested
    | frame :: frames =>
      match frame.stage with
      | .entered => nested
      | .saved epc status =>
        { hart := nested.hart.writeCsr frame.level.status status
          frames := { frame with stage := .restoring epc status false true } :: frames }
      | .restoring epc status epcDone _ =>
        { hart := nested.hart.writeCsr frame.level.status status
          frames := { frame with stage := .restoring epc status epcDone true } :: frames }
  | .xret =>
    match nested.frames with
    | [] => nested
    | frame :: frames => { hart := (returnFromTrap nested.hart frame.level.xret).1, frames }

/-- **The discipline of handlers.** A handler saves once, before it can be trapped again at its own
level, and returns when it has restored both registers; in between it may write any CSR of its level, so
that it can be trapped again. Where no trap is open anything may happen. -/
def Disciplined (nested : NestedHart) (event : TrapEvent) : Prop :=
  match nested.frames with
  | [] => event ≠ .save ∧ event ≠ .restoreEpc ∧ event ≠ .restoreStatus ∧ event ≠ .xret
  | frame :: _ =>
    match event with
    | .trap trap _ => TrapLevel.ofTrap nested.hart trap = frame.level → frame.isSaved
    | .run hart => hart.SameTraps nested.hart
    | .write address _ => frame.MayWrite address
    | .save => frame.stage = .entered
    | .restoreEpc | .restoreStatus => frame.stage ≠ .entered
    | .xret => frame.isRestored

instance (nested : NestedHart) (event : TrapEvent) : Decidable (nested.Disciplined event) := by
  unfold Disciplined
  split
  · infer_instance
  · split <;> infer_instance

/-- The mode, the pc and the global enables are those the trap has found. -/
structure Restored (frame : TrapFrame) (hart : HartState) : Prop where
  privilege : hart.privilege = frame.found.privilege
  pc : hart.pc = frame.pc
  mie : hart.status.mie = frame.found.status.mie
  sie : hart.status.sie = frame.found.status.sie

/-- A return goes back to where its trap was taken. -/
def ReturnRestores (nested : NestedHart) (event : TrapEvent) : Prop :=
  event = .xret → ∃ frame frames, nested.frames = frame :: frames ∧
    Restored frame (nested.step .xret).hart

end NestedHart

/-! ## The invariant -/

namespace TrapLevel

/-- The status word leads back to where the trap was taken. -/
def Encodes (level : TrapLevel) (found : HartState) (status : StatusFields) : Prop :=
  match level with
  | machine => status.mpie = found.status.mie ∧ status.mpp = found.privilege ∧
    status.sie = found.status.sie ∧ status.spie = found.status.spie ∧ status.spp = found.status.spp
  | supervisor => status.spie = found.status.sie ∧ status.spp = (found.privilege == .supervisor)

/-- What the handler of a level leaves alone: the state of the other level. -/
def Keeps (level : TrapLevel) (found hart : HartState) : Prop :=
  match level with
  | machine => hart.csrs.supervisor.sepc = found.csrs.supervisor.sepc
  | supervisor => found.privilege ≠ .machine ∧ hart.status.mie = found.status.mie

/-- The epc register of the level. -/
def epcOf (level : TrapLevel) (hart : HartState) : U32 := hart.csrs.read level.epc

/-- What a trap of the level and its return leave behind. -/
structure Resumes (level : TrapLevel) (found hart : HartState) : Prop where
  privilege : hart.privilege = found.privilege
  mie : hart.status.mie = found.status.mie
  sie : hart.status.sie = found.status.sie
  supervisor : level = .machine → hart.csrs.supervisor.sepc = found.csrs.supervisor.sepc ∧
    hart.status.spie = found.status.spie ∧ hart.status.spp = found.status.spp

end TrapLevel

/-- What holds while the handler of the innermost trap runs. -/
structure TrapFrame.Open (frame : TrapFrame) (hart : HartState) : Prop where
  mode : hart.privilege = frame.level.mode
  keeps : frame.level.Keeps frame.found hart
  epc : match frame.stage with
    | .entered => frame.level.epcOf hart = frame.pc
    | .saved epc _ => epc = frame.pc
    | .restoring epc _ epcDone _ =>
      epc = frame.pc ∧ (epcDone = true → frame.level.epcOf hart = frame.pc)
  status : match frame.stage with
    | .entered => frame.level.Encodes frame.found hart.status
    | .saved _ status => frame.level.Encodes frame.found (statusFields status)
    | .restoring _ status _ statusDone => frame.level.Encodes frame.found (statusFields status) ∧
      (statusDone = true → frame.level.Encodes frame.found hart.status)

/-- Every open trap leads back to the hart in which it was taken, where its predecessor was open. -/
def NestedHart.FramesOpen : List TrapFrame → HartState → Prop
  | [], _ => True
  | frame :: frames, hart => frame.Open hart ∧ FramesOpen frames frame.found ∧
    ∀ outer ∈ frames.head?, frame.level = outer.level → outer.isSaved

/-! ## Entry and return -/

namespace HartState

variable {hart : HartState}

theorem status_writeCsr_sstatus (value : U32) : (hart.writeCsr .sstatus value).status =
    { hart.status with sie := (statusFields value).sie, spie := (statusFields value).spie,
                       spp := (statusFields value).spp } :=
  hart.csrs.status_write_sstatus value

/-- Only a write of a status register changes the status word. -/
theorem mstatus_writeCsr {address : CsrAddress} (value : U32) (hm : address ≠ .mstatus)
    (hs : address ≠ .sstatus) :
    (hart.writeCsr address value).csrs.machine.mstatus = hart.csrs.machine.mstatus := by
  cases address <;> first | rfl | contradiction

theorem mepc_writeCsr {address : CsrAddress} (value : U32) (h : address ≠ .mepc) :
    (hart.writeCsr address value).csrs.machine.mepc = hart.csrs.machine.mepc := by
  cases address <;> first | rfl | contradiction

theorem sepc_writeCsr {address : CsrAddress} (value : U32) (h : address ≠ .sepc) :
    (hart.writeCsr address value).csrs.supervisor.sepc = hart.csrs.supervisor.sepc := by
  cases address <;> first | rfl | contradiction

/-- A register of its own level is read as it was written. -/
theorem epcOf_writeCsr (level : TrapLevel) (value : U32) :
    level.epcOf (hart.writeCsr level.epc value) = value := by
  cases level <;> rfl

/-- A supervisor's write leaves `MIE`. -/
theorem mie_writeCsr {address : CsrAddress} (value : U32) (h : address ≠ .mstatus) :
    (hart.writeCsr address value).status.mie = hart.status.mie := by
  by_cases hs : address = .sstatus
  · rw [hs, status_writeCsr_sstatus]
  · exact congrArg (fun word => (statusFields word).mie) (mstatus_writeCsr value h hs)

end HartState

/-- **Entry**: the handler of a trap finds the trap registers set. -/
theorem open_applyTrap (hart : HartState) (trap : Trap) (pc : U32) :
    TrapFrame.Open ⟨.ofTrap hart trap, hart, pc, .entered⟩ (applyTrap hart trap pc).1 := by
  unfold TrapLevel.ofTrap applyTrap CsrFile.enterTrap
  cases hdelegated : hart.csrs.delegatesTrapToSupervisor trap hart.privilege with
  | true =>
    have hmode : hart.privilege ≠ .machine := by
      intro hmachine
      rw [hmachine] at hdelegated
      cases hdelegated
    have hstatus := hart.csrs.status_enterSupervisorTrap trap pc hart.privilege
    refine ⟨rfl, ⟨hmode, ?_⟩, rfl, ?_⟩
    · exact (congrArg StatusFields.mie hstatus).trans rfl
    · exact ⟨(congrArg StatusFields.spie hstatus).trans rfl,
        (congrArg StatusFields.spp hstatus).trans rfl⟩
  | false =>
    have hstatus := hart.csrs.status_enterMachineTrap trap pc hart.privilege
    refine ⟨rfl, rfl, rfl, ?_⟩
    exact ⟨(congrArg StatusFields.mpie hstatus).trans rfl,
      (congrArg StatusFields.mpp hstatus).trans rfl, (congrArg StatusFields.sie hstatus).trans rfl,
      (congrArg StatusFields.spie hstatus).trans rfl, (congrArg StatusFields.spp hstatus).trans rfl⟩

/-- **Return**: registers that are restored lead back. -/
theorem TrapFrame.Open.returned {frame : TrapFrame} {hart : HartState} (h : frame.Open hart)
    (hrestored : frame.isRestored = true) :
    frame.level.Resumes frame.found (returnFromTrap hart frame.level.xret).1 ∧
      (returnFromTrap hart frame.level.xret).1.pc = frame.pc := by
  obtain ⟨level, found, pc, stage⟩ := frame
  obtain ⟨hmode, hkeeps, hepc, hstatus⟩ := h
  obtain _ | _ | ⟨epc, status, _ | _, _ | _⟩ := stage
  all_goals cases hrestored
  have hpc := hepc.2 rfl
  have hencodes := hstatus.2 rfl
  dsimp only at hmode hkeeps hpc hencodes ⊢
  cases level with
  | machine =>
    have hfields := hart.csrs.status_returnFromMachineTrap
    obtain ⟨hmpie, hmpp, hsie, hspie, hspp⟩ := hencodes
    refine ⟨⟨hmpp, ?_, ?_, fun _ => ⟨hkeeps, ?_, ?_⟩⟩, hpc⟩
    · exact (congrArg StatusFields.mie hfields).trans hmpie
    · exact (congrArg StatusFields.sie hfields).trans hsie
    · exact (congrArg StatusFields.spie hfields).trans hspie
    · exact (congrArg StatusFields.spp hfields).trans hspp
  | supervisor =>
    have hfields := hart.csrs.status_returnFromSupervisorTrap
    obtain ⟨hspie, hspp⟩ := hencodes
    refine ⟨⟨?_, ?_, ?_, fun h => (by cases h)⟩, hpc⟩
    · show (if hart.status.spp then PrivilegeMode.supervisor else .user) = found.privilege
      rw [hspp]
      cases hfound : found.privilege with
      | machine => exact absurd hfound hkeeps.1
      | _ => rfl
    · exact (congrArg StatusFields.mie hfields).trans hkeeps.2
    · exact (congrArg StatusFields.sie hfields).trans hspie

/-- A frame is open in every hart that a trap of the next frame comes back with. -/
theorem TrapFrame.Open.resumed {frame : TrapFrame} {level : TrapLevel} {found hart : HartState}
    (h : frame.Open found) (hresumes : level.Resumes found hart)
    (hsaved : level = frame.level → frame.isSaved)
    (hfrom : level = .supervisor → found.privilege ≠ .machine) : frame.Open hart := by
  obtain ⟨own, outer, pc, stage⟩ := frame
  obtain ⟨hmode, hkeeps, hepc, hstatus⟩ := h
  dsimp only at hmode hkeeps hepc hstatus hsaved
  have hmode' : hart.privilege = own.mode := hresumes.privilege.trans hmode
  -- a return at the level of the frame finds it saved; one at machine level leaves the supervisor's registers
  cases level with
  | machine =>
    obtain ⟨hsepc, hspie, hspp⟩ := hresumes.supervisor rfl
    cases own with
    | machine =>
      have hstage := hsaved rfl
      cases stage with
      | saved epc status => exact ⟨hmode', hsepc.trans hkeeps, hepc, hstatus⟩
      | _ => cases hstage
    | supervisor =>
      have hencodes (hfound : TrapLevel.supervisor.Encodes outer found.status) :
          TrapLevel.supervisor.Encodes outer hart.status :=
        ⟨hspie.trans hfound.1, hspp.trans hfound.2⟩
      refine ⟨hmode', ⟨hkeeps.1, hresumes.mie.trans hkeeps.2⟩, ?_, ?_⟩
      · cases stage with
        | entered => exact hsepc.trans hepc
        | saved epc status => exact hepc
        | restoring epc status epcDone statusDone =>
          exact ⟨hepc.1, fun hdone => hsepc.trans (hepc.2 hdone)⟩
      · cases stage with
        | entered => exact hencodes hstatus
        | saved epc status => exact hstatus
        | restoring epc status epcDone statusDone =>
          exact ⟨hstatus.1, fun hdone => hencodes (hstatus.2 hdone)⟩
  | supervisor =>
    cases own with
    | machine => exact absurd hmode (hfrom rfl)
    | supervisor =>
      have hstage := hsaved rfl
      cases stage with
      | saved epc status =>
        exact ⟨hmode', ⟨hkeeps.1, hresumes.mie.trans hkeeps.2⟩, hepc, hstatus⟩
      | _ => cases hstage

/-! ## Steps inside a handler -/

/-- Instructions and cycles that leave the trap registers. -/
theorem TrapFrame.Open.same {frame : TrapFrame} {hart other : HartState} (h : frame.Open hart)
    (hsame : other.SameTraps hart) : frame.Open other := by
  obtain ⟨level, found, pc, stage⟩ := frame
  obtain ⟨hmode, hkeeps, hepc, hstatus⟩ := h
  have hfields : other.status = hart.status := congrArg statusFields hsame.mstatus
  have hown : level.epcOf other = level.epcOf hart := by
    cases level with
    | machine => exact hsame.mepc
    | supervisor => exact hsame.sepc
  refine ⟨hsame.privilege.trans hmode, ?_, ?_, ?_⟩
  · cases level with
    | machine => exact hsame.sepc.trans hkeeps
    | supervisor => exact ⟨hkeeps.1, (congrArg StatusFields.mie hfields).trans hkeeps.2⟩
  · dsimp only at hepc ⊢
    rw [hown]
    exact hepc
  · dsimp only at hstatus ⊢
    rw [hfields]
    exact hstatus

/-- What a handler may write leaves the state of the other level. -/
theorem TrapFrame.Open.keeps_writeCsr {frame : TrapFrame} {hart : HartState} (h : frame.Open hart)
    {address : CsrAddress} (value : U32)
    (hmachine : frame.level = .machine → address ≠ .sepc)
    (hsupervisor : frame.level = .supervisor → address ≠ .mstatus) :
    frame.level.Keeps frame.found (hart.writeCsr address value) := by
  obtain ⟨level, found, pc, stage⟩ := frame
  have hkeeps := h.keeps
  cases level with
  | machine => exact (HartState.sepc_writeCsr value (hmachine rfl)).trans hkeeps
  | supervisor => exact ⟨hkeeps.1, (HartState.mie_writeCsr value (hsupervisor rfl)).trans hkeeps.2⟩

theorem TrapFrame.MayWrite.ne_sepc {frame : TrapFrame} {address : CsrAddress}
    (h : frame.MayWrite address) (hlevel : frame.level = .machine) : address ≠ .sepc := by
  unfold TrapFrame.MayWrite at h
  rw [hlevel] at h
  exact h.1

theorem TrapFrame.MayWrite.ne_mstatus {frame : TrapFrame} {address : CsrAddress}
    (h : frame.MayWrite address) (hlevel : frame.level = .supervisor) : address ≠ .mstatus := by
  unfold TrapFrame.MayWrite at h
  rw [hlevel] at h
  rintro rfl
  exact absurd h.1 (by decide)

/-- What a handler may write while its registers are not saved leaves them alone. -/
theorem TrapFrame.MayWrite.unsaved {frame : TrapFrame} {address : CsrAddress}
    (h : frame.MayWrite address) (hsaved : frame.isSaved = false) (hart : HartState) (value : U32) :
    (hart.writeCsr address value).status = hart.status ∧
      frame.level.epcOf (hart.writeCsr address value) = frame.level.epcOf hart := by
  unfold TrapFrame.MayWrite at h
  rw [hsaved] at h
  cases hlevel : frame.level with
  | machine =>
    rw [hlevel] at h
    obtain ⟨-, hmepc, hmstatus, hsstatus⟩ : address ≠ .sepc ∧ address ≠ .mepc ∧ address ≠ .mstatus ∧
      address ≠ .sstatus := by simpa using h
    exact ⟨congrArg statusFields (HartState.mstatus_writeCsr value hmstatus hsstatus),
      HartState.mepc_writeCsr value hmepc⟩
  | supervisor =>
    rw [hlevel] at h
    obtain ⟨hlow, -, hown⟩ := h
    obtain ⟨hsepc, hsstatus⟩ : address ≠ .sepc ∧ address ≠ .sstatus := by simpa using hown
    have hmstatus : address ≠ .mstatus := by
      rintro rfl
      exact absurd hlow (by decide)
    exact ⟨congrArg statusFields (HartState.mstatus_writeCsr value hmstatus hsstatus),
      HartState.sepc_writeCsr value hsepc⟩

/-- A write that the handler may make. -/
theorem TrapFrame.Open.writeCsr {frame : TrapFrame} {hart : HartState} (h : frame.Open hart)
    {address : CsrAddress} (hmay : frame.MayWrite address) (value : U32) :
    frame.Open (hart.writeCsr address value) := by
  have hkeeps := h.keeps_writeCsr value hmay.ne_sepc hmay.ne_mstatus
  cases hsaved : frame.isSaved with
  | true =>
    obtain ⟨level, found, pc, stage⟩ := frame
    cases stage with
    | saved epc status => exact ⟨h.mode, hkeeps, h.epc, h.status⟩
    | _ => cases hsaved
  | false =>
    obtain ⟨hstatus, hepc⟩ := hmay.unsaved hsaved hart value
    refine ⟨h.mode, hkeeps, ?_, ?_⟩
    · rw [hepc]
      exact h.epc
    · rw [hstatus]
      exact h.status

/-- The saved registers are those of the trap. -/
theorem TrapFrame.Open.save {frame : TrapFrame} {hart : HartState} (h : frame.Open hart)
    (hstage : frame.stage = .entered) :
    TrapFrame.Open { frame with
      stage := .saved (hart.csrs.read frame.level.epc) (hart.csrs.read frame.level.status) } hart := by
  obtain ⟨level, found, pc, stage⟩ := frame
  obtain ⟨hmode, hkeeps, hepc, hstatus⟩ := h
  dsimp only at hstage
  subst hstage
  refine ⟨hmode, hkeeps, hepc, ?_⟩
  cases level with
  | machine => exact hstatus
  | supervisor =>
    obtain ⟨hspie, hspp⟩ := hart.csrs.status_read_sstatus
    exact ⟨hspie.trans hstatus.1, hspp.trans hstatus.2⟩

/-- The status word after the saved one is written back. -/
theorem TrapLevel.encodes_restored {level : TrapLevel} {found : HartState} {status : U32}
    (h : level.Encodes found (statusFields status)) (hart : HartState) :
    level.Encodes found (hart.writeCsr level.status status).status := by
  cases level with
  | machine => exact h
  | supervisor =>
    have hfields := hart.status_writeCsr_sstatus status
    exact ⟨(congrArg StatusFields.spie hfields).trans h.1, (congrArg StatusFields.spp hfields).trans h.2⟩

/-- Writing back the epc leaves the status word. -/
theorem HartState.status_writeCsr_epc (hart : HartState) (level : TrapLevel) (value : U32) :
    (hart.writeCsr level.epc value).status = hart.status := by
  cases level <;> rfl

/-- Writing back the status word leaves the epc. -/
theorem TrapLevel.epcOf_writeCsr_status (level : TrapLevel) (hart : HartState) (value : U32) :
    level.epcOf (hart.writeCsr level.status value) = level.epcOf hart := by
  cases level <;> rfl

/-- The epc is restored. -/
theorem TrapFrame.Open.restoreEpc {level : TrapLevel} {found hart : HartState} {pc : U32}
    {stage : HandlerStage} (h : TrapFrame.Open ⟨level, found, pc, stage⟩ hart) {epc status : U32}
    {statusDone : Bool}
    (hstage : stage = .saved epc status ∧ statusDone = false ∨
      ∃ epcDone, stage = .restoring epc status epcDone statusDone) :
    TrapFrame.Open ⟨level, found, pc, .restoring epc status true statusDone⟩
      (hart.writeCsr level.epc epc) := by
  have hkeeps : level.Keeps found (hart.writeCsr level.epc epc) :=
    h.keeps_writeCsr epc (by rintro rfl; decide) (by rintro rfl; decide)
  rcases hstage with ⟨rfl, rfl⟩ | ⟨_, rfl⟩
  · refine ⟨h.mode, hkeeps, ⟨h.epc, fun _ => ?_⟩, h.status, fun hdone => (by cases hdone)⟩
    exact (HartState.epcOf_writeCsr level epc).trans h.epc
  · refine ⟨h.mode, hkeeps, ⟨h.epc.1, fun _ => ?_⟩, h.status.1, fun hdone => ?_⟩
    · exact (HartState.epcOf_writeCsr level epc).trans h.epc.1
    · rw [HartState.status_writeCsr_epc]
      exact h.status.2 hdone

/-- The status word is restored. -/
theorem TrapFrame.Open.restoreStatus {level : TrapLevel} {found hart : HartState} {pc : U32}
    {stage : HandlerStage} (h : TrapFrame.Open ⟨level, found, pc, stage⟩ hart) {epc status : U32}
    {epcDone : Bool}
    (hstage : stage = .saved epc status ∧ epcDone = false ∨
      ∃ statusDone, stage = .restoring epc status epcDone statusDone) :
    TrapFrame.Open ⟨level, found, pc, .restoring epc status epcDone true⟩
      (hart.writeCsr level.status status) := by
  have hkeeps : level.Keeps found (hart.writeCsr level.status status) :=
    h.keeps_writeCsr status (by rintro rfl; decide) (by rintro rfl; decide)
  rcases hstage with ⟨rfl, rfl⟩ | ⟨_, rfl⟩
  · exact ⟨h.mode, hkeeps, ⟨h.epc, fun hdone => (by cases hdone)⟩, h.status,
      fun _ => TrapLevel.encodes_restored h.status hart⟩
  · refine ⟨h.mode, hkeeps, ⟨h.epc.1, fun hdone => ?_⟩, h.status.1,
      fun _ => TrapLevel.encodes_restored h.status.1 hart⟩
    rw [TrapLevel.epcOf_writeCsr_status]
    exact h.epc.2 hdone

/-! ## Runs -/

namespace NestedHart

/-- The frames behind the innermost are open again in the hart it comes back with. -/
theorem FramesOpen.resumed {frame : TrapFrame} {frames : List TrapFrame} {hart back : HartState}
    (h : FramesOpen (frame :: frames) hart)
    (hresumes : frame.level.Resumes frame.found back) : FramesOpen frames back := by
  obtain ⟨hopen, houter, hsaved⟩ := h
  cases frames with
  | nil => trivial
  | cons outer frames =>
    refine ⟨houter.1.resumed hresumes (hsaved outer rfl) fun hlevel => ?_, houter.2⟩
    have hkeeps := hopen.keeps
    rw [hlevel] at hkeeps
    exact hkeeps.1

theorem FramesOpen.of_open {frame frame' : TrapFrame} {frames : List TrapFrame} {hart hart' : HartState}
    (h : FramesOpen (frame :: frames) hart) (hopen : frame'.Open hart')
    (hfound : frame'.found = frame.found) (hlevel : frame'.level = frame.level) :
    FramesOpen (frame' :: frames) hart' := by
  refine ⟨hopen, ?_, ?_⟩
  · rw [hfound]
    exact h.2.1
  · rw [hlevel]
    exact h.2.2

/-- **One event** keeps every open trap open, and a return restores. -/
theorem framesOpen_step (nested : NestedHart) (event : TrapEvent)
    (h : FramesOpen nested.frames nested.hart) (hdisciplined : nested.Disciplined event) :
    nested.ReturnRestores event ∧ FramesOpen (nested.step event).frames (nested.step event).hart := by
  obtain ⟨hart, frames⟩ := nested
  cases frames with
  -- without an open trap only a new trap matters
  | nil =>
    obtain ⟨hsave, hepc, hstatus, hxret⟩ := hdisciplined
    refine ⟨fun h => absurd h hxret, ?_⟩
    cases event with
    | trap trap pc => exact ⟨open_applyTrap hart trap pc, trivial, fun outer h => by cases h⟩
    | _ => trivial
  | cons frame frames =>
    obtain ⟨level, found, pc, stage⟩ := frame
    cases event with
    | trap trap pc =>
      refine ⟨fun h => (by cases h), open_applyTrap hart trap pc, h, ?_⟩
      rintro outer ⟨⟩
      exact hdisciplined
    | run other => exact ⟨fun h => (by cases h), h.of_open (h.1.same hdisciplined) rfl rfl⟩
    | write address value =>
      exact ⟨fun h => (by cases h), h.of_open (h.1.writeCsr hdisciplined value) rfl rfl⟩
    | save => exact ⟨fun h => (by cases h), h.of_open (h.1.save hdisciplined) rfl rfl⟩
    -- only a frame that is saved, or on its way back, is restored
    | restoreEpc =>
      refine ⟨fun h => (by cases h), ?_⟩
      cases stage with
      | entered => exact absurd rfl hdisciplined
      | saved epc status => exact h.of_open (h.1.restoreEpc (.inl ⟨rfl, rfl⟩)) rfl rfl
      | restoring epc status epcDone statusDone =>
        exact h.of_open (h.1.restoreEpc (.inr ⟨_, rfl⟩)) rfl rfl
    | restoreStatus =>
      refine ⟨fun h => (by cases h), ?_⟩
      cases stage with
      | entered => exact absurd rfl hdisciplined
      | saved epc status => exact h.of_open (h.1.restoreStatus (.inl ⟨rfl, rfl⟩)) rfl rfl
      | restoring epc status epcDone statusDone =>
        exact h.of_open (h.1.restoreStatus (.inr ⟨_, rfl⟩)) rfl rfl
    | xret =>
      obtain ⟨hresumes, hpc⟩ := h.1.returned hdisciplined
      refine ⟨fun _ => ⟨_, _, rfl, hresumes.privilege, hpc, hresumes.mie, hresumes.sie⟩, ?_⟩
      exact h.resumed hresumes

end NestedHart

/-- **Every return of a disciplined run restores what its trap found**: the privilege mode, the pc and
the global interrupt enables. -/
theorem return_restores (hart : HartState) (events : List TrapEvent)
    (h : Along NestedHart.step NestedHart.Disciplined { hart } events) :
    Along NestedHart.step NestedHart.ReturnRestores { hart } events := by
  have hstart : NestedHart.FramesOpen (NestedHart.mk hart []).frames hart := trivial
  exact Along.of_invariant (I := fun nested => NestedHart.FramesOpen nested.frames nested.hart) hstart
    NestedHart.framesOpen_step h

/-- A supervisor handler, entered by an `ecall` from user mode, that a machine timer interrupt hits after
it has saved. -/
theorem return_restores_ecall :
    Along NestedHart.step NestedHart.ReturnRestores
      { hart := { HartState.new 0 with
          privilege := .user, pc := 0x40,
          csrs := ({} : CsrFile).write .medeleg 0x100 } }
      [.trap (.exception .environmentCallFromUMode) 0x40, .save,
        .trap (.interrupt .machineTimer) 0x80, .save, .restoreEpc, .restoreStatus, .xret,
        .restoreStatus, .restoreEpc, .xret] := by
  refine return_restores _ _ ?_
  decide +kernel

end RvSim
