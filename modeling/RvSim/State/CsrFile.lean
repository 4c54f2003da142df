import RvSim.Isa.Instruction
import RvSim.System.Bus

/-!
# The CSR file

Storage of the control and status registers, the counters, the interrupt arbitration and the
trap entry and return sequences.

## Main definitions

* `PrivilegeMode`
* `MachineCsrs`, `SupervisorCsrs`, `CsrFile`: the storage, with `CsrFile.read` and `CsrFile.write`
* `CsrFile.pendingInterrupt`, `CsrFile.allowsCsrAccess`: arbitration and access control
* `CsrFile.enterTrap`, `CsrFile.returnFromMachineTrap`, `CsrFile.returnFromSupervisorTrap`
-/

namespace RvSim

/-- Privilege modes supported by the current privileged CPU slice. -/
inductive PrivilegeMode
  | user | supervisor | machine
  deriving DecidableEq, Repr

def PrivilegeMode.csrLevel : PrivilegeMode → U8
  | .user => 0
  | .supervisor => 1
  | .machine => 3

/-! ## Masks -/

def mstatusSie : U32 := 1 <<< 1
def mstatusMie : U32 := 1 <<< 3
def mstatusSpie : U32 := 1 <<< 5
def mstatusMpie : U32 := 1 <<< 7
def mstatusSpp : U32 := 1 <<< 8
def mstatusSum : U32 := 1 <<< 18
def mstatusMxr : U32 := 1 <<< 19
def mstatusTvm : U32 := 1 <<< 20
def mstatusTw : U32 := 1 <<< 21
def mstatusTsr : U32 := 1 <<< 22
def mstatusMppShift : Nat := 11
def mstatusMppMask : U32 := 0b11 <<< mstatusMppShift
def sstatusMask : U32 := mstatusSie ||| mstatusSpie ||| mstatusSpp ||| mstatusSum ||| mstatusMxr
def mieSsie : U32 := 1 <<< 1
def mieMsie : U32 := 1 <<< 3
def mieStie : U32 := 1 <<< 5
def mieSeie : U32 := 1 <<< 9
def mieMeie : U32 := 1 <<< 11
def mieMtie : U32 := 1 <<< 7
def mieMask : U32 := mieSsie ||| mieMsie ||| mieStie ||| mieMtie ||| mieSeie ||| mieMeie
def sieMask : U32 := mieSsie ||| mieStie ||| mieSeie
def mipSsip : U32 := 1 <<< 1
def mipMsip : U32 := 1 <<< 3
def mipStip : U32 := 1 <<< 5
def mipSeip : U32 := 1 <<< 9
def mipMeip : U32 := 1 <<< 11
def mipMtip : U32 := 1 <<< 7
def sipMask : U32 := mipSsip ||| mipStip ||| mipSeip
def managedInterruptMask : U32 :=
  mipSsip ||| mipMsip ||| mipStip ||| mipMtip ||| mipSeip ||| mipMeip
def mipWritableMask : U32 := mipSsip ||| mipMsip
def sipWritableMask : U32 := mipSsip
def medelegMask : U32 :=
  (1 <<< 0) ||| (1 <<< 1) ||| (1 <<< 2) ||| (1 <<< 3) ||| (1 <<< 4) ||| (1 <<< 5) ||| (1 <<< 6)
    ||| (1 <<< 7) ||| (1 <<< 8) ||| (1 <<< 9) ||| (1 <<< 12) ||| (1 <<< 13) ||| (1 <<< 15)
def midelegMask : U32 := mipSsip ||| mipStip ||| mipSeip
def counterenCy : U32 := 1 <<< 0
def counterenTm : U32 := 1 <<< 1
def counterenIr : U32 := 1 <<< 2
def counterenMask : U32 := counterenCy ||| counterenTm ||| counterenIr

def interruptPriority : List Interrupt :=
  [.machineExternal, .machineSoftware, .machineTimer, .supervisorExternal, .supervisorSoftware,
    .supervisorTimer]

def lowHalf (value : U64) : U32 := value.setWidth 32

def highHalf (value : U64) : U32 := (value >>> 32).setWidth 32

def writeLowHalf (target : U64) (value : U32) : U64 :=
  (target &&& ~~~0xffffffff) ||| value.setWidth 64

def writeHighHalf (target : U64) (value : U32) : U64 :=
  (value.setWidth 64 <<< 32) ||| (target &&& 0xffffffff)

def setFlag (value mask : U32) (enabled : Bool) : U32 :=
  if enabled then value ||| mask else value &&& ~~~mask

theorem clear_and_self (value mask : U32) : value &&& ~~~mask &&& mask = 0 := by
  ext i hi
  simp

/-- A flag tests as it was set. -/
theorem setFlag_test {mask : U32} (hmask : mask ≠ 0) (value : U32) (enabled : Bool) :
    (setFlag value mask enabled &&& mask != 0) = enabled := by
  cases enabled
  · simp [setFlag, clear_and_self]
  · have hset : (value ||| mask) &&& mask = mask := by
      ext i hi
      cases hbit : mask[i] <;> simp [hbit]
    simpa [setFlag, hset] using hmask

/-- A field reads as it was written. -/
theorem replace_and_mask {mask bits : U32} (h : bits &&& mask = bits) (value : U32) :
    (value &&& ~~~mask ||| bits) &&& mask = bits := by
  ext i hi
  have hbit : (bits &&& mask)[i] = bits[i] := congrArg (·[i]) h
  rw [BitVec.getElem_and] at hbit
  rw [BitVec.getElem_and, BitVec.getElem_or, BitVec.getElem_and, BitVec.getElem_not, ← hbit]
  cases mask[i] <;> simp

def interruptPendingMask : Interrupt → U32
  | .supervisorSoftware => mipSsip
  | .machineSoftware => mipMsip
  | .supervisorTimer => mipStip
  | .machineTimer => mipMtip
  | .supervisorExternal => mipSeip
  | .machineExternal => mipMeip

def interruptEnableMask : Interrupt → U32
  | .supervisorSoftware => mieSsie
  | .machineSoftware => mieMsie
  | .supervisorTimer => mieStie
  | .machineTimer => mieMtie
  | .supervisorExternal => mieSeie
  | .machineExternal => mieMeie

def privilegeBits : PrivilegeMode → U32
  | .user => 0 <<< mstatusMppShift
  | .supervisor => 1 <<< mstatusMppShift
  | .machine => 3 <<< mstatusMppShift

def privilegeFromBits (bits : U32) : PrivilegeMode :=
  if bits = 0 then .user else if bits = 1 then .supervisor else .machine

/-! ## Storage -/

/-- Machine-mode CSR values required by the first milestone. -/
structure MachineCsrs where
  mstatus : U32 := 0
  medeleg : U32 := 0
  mideleg : U32 := 0
  mie : U32 := 0
  mtvec : U32 := 0
  mcounteren : U32 := 0
  mcycle : U64 := 0
  time : U64 := 0
  minstret : U64 := 0
  mepc : U32 := 0
  mcause : U32 := 0
  mtval : U32 := 0
  mip : U32 := 0
  deriving DecidableEq, Repr

/-- Supervisor-visible trap and address-translation state. -/
structure SupervisorCsrs where
  stvec : U32 := 0
  scounteren : U32 := 0
  sepc : U32 := 0
  scause : U32 := 0
  stval : U32 := 0
  satp : U32 := 0
  deriving DecidableEq, Repr

/-- Storage wrapper for CSR reads and writes. -/
structure CsrFile where
  machine : MachineCsrs := {}
  supervisor : SupervisorCsrs := {}
  softwarePending : U32 := 0
  externalPending : U32 := 0
  deriving DecidableEq, Repr

namespace CsrFile

def read (csrs : CsrFile) : CsrAddress → U32
  | .sstatus => csrs.machine.mstatus &&& sstatusMask
  | .sie => csrs.machine.mie &&& sieMask
  | .stvec => csrs.supervisor.stvec
  | .scounteren => csrs.supervisor.scounteren
  | .satp => csrs.supervisor.satp
  | .mstatus => csrs.machine.mstatus
  | .medeleg => csrs.machine.medeleg
  | .mideleg => csrs.machine.mideleg
  | .mie => csrs.machine.mie
  | .mtvec => csrs.machine.mtvec
  | .mcounteren => csrs.machine.mcounteren
  | .mcycle => lowHalf csrs.machine.mcycle
  | .minstret => lowHalf csrs.machine.minstret
  | .mcycleh => highHalf csrs.machine.mcycle
  | .minstreth => highHalf csrs.machine.minstret
  | .cycle => lowHalf csrs.machine.mcycle
  | .time => lowHalf csrs.machine.time
  | .instret => lowHalf csrs.machine.minstret
  | .cycleh => highHalf csrs.machine.mcycle
  | .timeh => highHalf csrs.machine.time
  | .instreth => highHalf csrs.machine.minstret
  | .sepc => csrs.supervisor.sepc
  | .scause => csrs.supervisor.scause
  | .stval => csrs.supervisor.stval
  | .sip => csrs.machine.mip &&& sipMask
  | .mepc => csrs.machine.mepc
  | .mcause => csrs.machine.mcause
  | .mtval => csrs.machine.mtval
  | .mip => csrs.machine.mip

def refreshMip (csrs : CsrFile) : CsrFile :=
  { csrs with machine.mip := (csrs.machine.mip &&& ~~~managedInterruptMask)
      ||| (csrs.softwarePending &&& mipWritableMask)
      ||| (csrs.externalPending &&& managedInterruptMask) }

def write (csrs : CsrFile) (address : CsrAddress) (value : U32) : CsrFile :=
  match address with
  | .sstatus => { csrs with machine.mstatus :=
      (csrs.machine.mstatus &&& ~~~sstatusMask) ||| (value &&& sstatusMask) }
  | .sie => { csrs with machine.mie := (csrs.machine.mie &&& ~~~sieMask) ||| (value &&& sieMask) }
  | .stvec => { csrs with supervisor.stvec := value }
  | .scounteren => { csrs with supervisor.scounteren := value &&& counterenMask }
  | .satp => { csrs with supervisor.satp := value }
  | .mstatus => { csrs with machine.mstatus := value }
  | .medeleg => { csrs with machine.medeleg := value &&& medelegMask }
  | .mideleg => { csrs with machine.mideleg := value &&& midelegMask }
  | .mie => { csrs with machine.mie := value &&& mieMask }
  | .mtvec => { csrs with machine.mtvec := value }
  | .mcounteren => { csrs with machine.mcounteren := value &&& counterenMask }
  | .mcycle | .cycle => { csrs with machine.mcycle := writeLowHalf csrs.machine.mcycle value }
  | .time => { csrs with machine.time := writeLowHalf csrs.machine.time value }
  | .minstret | .instret =>
    { csrs with machine.minstret := writeLowHalf csrs.machine.minstret value }
  | .mcycleh | .cycleh => { csrs with machine.mcycle := writeHighHalf csrs.machine.mcycle value }
  | .timeh => { csrs with machine.time := writeHighHalf csrs.machine.time value }
  | .minstreth | .instreth =>
    { csrs with machine.minstret := writeHighHalf csrs.machine.minstret value }
  | .sepc => { csrs with supervisor.sepc := value }
  | .scause => { csrs with supervisor.scause := value }
  | .stval => { csrs with supervisor.stval := value }
  | .sip => refreshMip { csrs with softwarePending :=
      (csrs.softwarePending &&& ~~~sipWritableMask) ||| (value &&& sipWritableMask) }
  | .mepc => { csrs with machine.mepc := value }
  | .mcause => { csrs with machine.mcause := value }
  | .mtval => { csrs with machine.mtval := value }
  | .mip => refreshMip { csrs with softwarePending :=
      (csrs.softwarePending &&& ~~~mipWritableMask) ||| (value &&& mipWritableMask) }

/-! ## Counters and interrupt lines -/

def incrementCycle (csrs : CsrFile) : CsrFile :=
  { csrs with machine.mcycle := csrs.machine.mcycle + 1 }

def incrementTime (csrs : CsrFile) : CsrFile :=
  { csrs with machine.time := csrs.machine.time + 1 }

def setTime (csrs : CsrFile) (time : U64) : CsrFile :=
  { csrs with machine.time := time }

def incrementInstret (csrs : CsrFile) (retired : U64) : CsrFile :=
  { csrs with machine.minstret := csrs.machine.minstret + retired }

/-- The pending bits of the lines a bus reports. -/
def externalMask (interrupts : InterruptSet) : U32 :=
  (if interrupts.contains .supervisorSoftware then mipSsip else 0)
    ||| (if interrupts.contains .machineExternal then mipMeip else 0)
    ||| (if interrupts.contains .machineSoftware then mipMsip else 0)
    ||| (if interrupts.contains .supervisorTimer then mipStip else 0)
    ||| (if interrupts.contains .machineTimer then mipMtip else 0)
    ||| (if interrupts.contains .supervisorExternal then mipSeip else 0)

def syncInterrupts (csrs : CsrFile) (interrupts : InterruptSet) : CsrFile :=
  refreshMip { csrs with externalPending := externalMask interrupts }

theorem incrementInstret_zero (csrs : CsrFile) : csrs.incrementInstret 0 = csrs := by
  simp [incrementInstret]

/-- Lines that are sampled twice give the same pending bits. -/
theorem syncInterrupts_syncInterrupts (csrs : CsrFile) (interrupts : InterruptSet) :
    (csrs.syncInterrupts interrupts).syncInterrupts interrupts = csrs.syncInterrupts interrupts := by
  have absorb : ∀ mip mask s e : U32,
      (((mip &&& ~~~mask) ||| s ||| (e &&& mask)) &&& ~~~mask) ||| s ||| (e &&& mask) =
        (mip &&& ~~~mask) ||| s ||| (e &&& mask) := by
    intro mip mask s e
    ext i hi
    simp only [BitVec.getElem_or, BitVec.getElem_and, BitVec.getElem_not]
    cases mip[i] <;> cases mask[i] <;> cases s[i] <;> cases e[i] <;> rfl
  simp only [syncInterrupts, refreshMip, absorb]

/-! ## Access control and interrupt arbitration -/

def tvmEnabled (csrs : CsrFile) : Bool := (csrs.machine.mstatus &&& mstatusTvm) != 0

def tsrEnabled (csrs : CsrFile) : Bool := (csrs.machine.mstatus &&& mstatusTsr) != 0

def twEnabled (csrs : CsrFile) : Bool := (csrs.machine.mstatus &&& mstatusTw) != 0

def allowsCsrAccess (csrs : CsrFile) (privilege : PrivilegeMode) (address : CsrAddress) : Bool :=
  if privilege.csrLevel < address.minPrivilegeLevel then false
  else
    match address.counterenMask with
    | none => true
    | some mask =>
      match privilege with
      | .machine => true
      | .supervisor => (csrs.machine.mcounteren &&& mask) != 0
      | .user => (csrs.machine.mcounteren &&& mask) != 0 && (csrs.supervisor.scounteren &&& mask) != 0

def delegatesInterruptToSupervisor (csrs : CsrFile) (interrupt : Interrupt) : Bool :=
  interrupt.isSupervisor && (csrs.machine.mideleg &&& ((1 : U32) <<< interrupt.causeCode)) != 0

def delegatesTrapToSupervisor (csrs : CsrFile) (trap : Trap) (currentPrivilege : PrivilegeMode) :
    Bool :=
  match currentPrivilege with
  | .machine => false
  | _ =>
    match trap with
    | .exception _ => (csrs.machine.medeleg &&& ((1 : U32) <<< trap.causeCode)) != 0
    | .interrupt interrupt => csrs.delegatesInterruptToSupervisor interrupt

def interruptIsPending (csrs : CsrFile) (interrupt : Interrupt) : Bool :=
  (csrs.machine.mip &&& interruptPendingMask interrupt) != 0

def interruptIsEnabled (csrs : CsrFile) (interrupt : Interrupt) : Bool :=
  (csrs.machine.mie &&& interruptEnableMask interrupt) != 0

def interruptTargetPrivilege (csrs : CsrFile) (interrupt : Interrupt)
    (currentPrivilege : PrivilegeMode) : Option PrivilegeMode :=
  if csrs.delegatesInterruptToSupervisor interrupt then
    match currentPrivilege with
    | .machine => none
    | _ => some .supervisor
  else some .machine

def interruptGloballyEnabled (csrs : CsrFile) (targetPrivilege currentPrivilege : PrivilegeMode) :
    Bool :=
  match targetPrivilege with
  | .machine => currentPrivilege != .machine || (csrs.machine.mstatus &&& mstatusMie) != 0
  | .supervisor => currentPrivilege == .user
      || (currentPrivilege == .supervisor && (csrs.machine.mstatus &&& mstatusSie) != 0)
  | .user => false

/-- The body of the priority scan: whether the scan returns at this interrupt. -/
def takesInterrupt (csrs : CsrFile) (currentPrivilege : PrivilegeMode) (interrupt : Interrupt) :
    Bool :=
  csrs.interruptIsPending interrupt && csrs.interruptIsEnabled interrupt
    && match csrs.interruptTargetPrivilege interrupt currentPrivilege with
      | none => false
      | some target => csrs.interruptGloballyEnabled target currentPrivilege

def pendingInterrupt (csrs : CsrFile) (currentPrivilege : PrivilegeMode) : Option Interrupt :=
  interruptPriority.find? (csrs.takesInterrupt currentPrivilege)

/-! ## Trap entry and return -/

/-- The trap vector: an interrupt in vectored mode is offset by its cause. -/
def trapVector (tvec : U32) (trap : Trap) : U32 :=
  let base := tvec &&& ~~~0b11
  let mode := tvec &&& 0b11
  if trap.isInterrupt && mode == 0b01 then base + trap.causeCode * 4 else base

def enterMachineTrap (csrs : CsrFile) (trap : Trap) (currentPc : U32)
    (currentPrivilege : PrivilegeMode) : U32 × CsrFile :=
  let mstatus := csrs.machine.mstatus
  let mie := (mstatus &&& mstatusMie) != 0
  let mstatus := setFlag mstatus mstatusMpie mie
  let mstatus := mstatus &&& ~~~mstatusMie
  let mstatus := (mstatus &&& ~~~mstatusMppMask) ||| privilegeBits currentPrivilege
  (trapVector csrs.machine.mtvec trap,
    { csrs with machine := { csrs.machine with
        mepc := currentPc, mcause := trap.causeBits, mtval := trap.tval, mstatus } })

def enterSupervisorTrap (csrs : CsrFile) (trap : Trap) (currentPc : U32)
    (currentPrivilege : PrivilegeMode) : U32 × CsrFile :=
  let mstatus := csrs.machine.mstatus
  let sie := (mstatus &&& mstatusSie) != 0
  let mstatus := setFlag mstatus mstatusSpie sie
  let mstatus := mstatus &&& ~~~mstatusSie
  let mstatus := setFlag mstatus mstatusSpp (currentPrivilege == .supervisor)
  (trapVector csrs.supervisor.stvec trap,
    { csrs with
      machine := { csrs.machine with mstatus }
      supervisor := { csrs.supervisor with
        sepc := currentPc, scause := trap.causeBits, stval := trap.tval } })

/-- Record trap state and return the target privilege plus trap vector. -/
def enterTrap (csrs : CsrFile) (trap : Trap) (currentPc : U32) (currentPrivilege : PrivilegeMode) :
    PrivilegeMode × U32 × CsrFile :=
  if csrs.delegatesTrapToSupervisor trap currentPrivilege then
    (.supervisor, csrs.enterSupervisorTrap trap currentPc currentPrivilege)
  else (.machine, csrs.enterMachineTrap trap currentPc currentPrivilege)

/-- Restore privilege state from `mstatus`/`mepc`. -/
def returnFromMachineTrap (csrs : CsrFile) : PrivilegeMode × U32 × CsrFile :=
  let mstatus := csrs.machine.mstatus
  let mpie := (mstatus &&& mstatusMpie) != 0
  let mpp := (mstatus &&& mstatusMppMask) >>> mstatusMppShift
  let mstatus := setFlag mstatus mstatusMie mpie
  let mstatus := mstatus ||| mstatusMpie
  let mstatus := mstatus &&& ~~~mstatusMppMask
  (privilegeFromBits mpp, csrs.machine.mepc, { csrs with machine := { csrs.machine with mstatus } })

/-- Restore privilege state from `sstatus`/`sepc`. -/
def returnFromSupervisorTrap (csrs : CsrFile) : PrivilegeMode × U32 × CsrFile :=
  let mstatus := csrs.machine.mstatus
  let spie := (mstatus &&& mstatusSpie) != 0
  let spp := (mstatus &&& mstatusSpp) != 0
  let mstatus := setFlag mstatus mstatusSie spie
  let mstatus := mstatus ||| mstatusSpie
  let mstatus := mstatus &&& ~~~mstatusSpp
  (if spp then .supervisor else .user, csrs.supervisor.sepc,
    { csrs with machine := { csrs.machine with mstatus } })

end CsrFile

end RvSim
