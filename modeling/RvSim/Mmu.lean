import RvSim.State.Hart

/-!
# Address translation

The Sv32 page walker: a walk that a busy bus suspends in any phase, an eight-entry TLB, and the
drain of a walk that belongs to an abandoned request.

## Main definitions

* `PageWalker`: the walk in progress and the TLB
* `TranslationFence`: the scope of an `sfence.vma`
* `PageWalker.step`, `PageWalker.translate`: one bus access of a walk, and a translation
* `TranslationRequest.of`: what a translation reads of the hart

## Main results

* `translate_isOk`: bus errors become stalls and faults, so a translation never fails
* `translate_of_disabled`: without translation and without a suspended walk, a translation is the
  identity and makes no bus access
-/

namespace RvSim

def pageShift : Nat := 12
def pageSize : U32 := 1 <<< pageShift
def pageOffsetMask : U32 := pageSize - 1
def superpageShift : Nat := 22
def superpageSize : U32 := 1 <<< superpageShift
def superpageOffsetMask : U32 := superpageSize - 1
def satpModeShift : Nat := 31
def satpModeSv32 : U32 := 1
def satpAsidShift : Nat := 22
def satpAsidMask : U32 := (1 <<< 9) - 1
def satpPpnMask : U32 := (1 <<< 22) - 1
def mstatusMprv : U32 := 1 <<< 17
def pteV : U32 := 1 <<< 0
def pteR : U32 := 1 <<< 1
def pteW : U32 := 1 <<< 2
def pteX : U32 := 1 <<< 3
def pteU : U32 := 1 <<< 4
def pteG : U32 := 1 <<< 5
def pteA : U32 := 1 <<< 6
def pteD : U32 := 1 <<< 7
def ptePpnMask : U32 := (1 <<< 22) - 1
def ptePpn0Mask : U32 := (1 <<< 10) - 1
def nonleafReservedMask : U32 := pteU ||| pteA ||| pteD
abbrev tlbEntryCount : Nat := 8

inductive MemoryAccess
  | instruction | load | store
  deriving DecidableEq, Repr

inductive TranslationResult
  | physicalAddress (addr : U32)
  | stall
  | fault (trap : Trap)
  deriving DecidableEq, Repr

structure TranslationFence where
  virtualAddress : Option U32
  asid : Option U16
  deriving DecidableEq, Repr

structure TranslationRequest where
  satp : U32
  status : U32
  privilege : PrivilegeMode
  virtualAddress : U32
  access : MemoryAccess
  deriving DecidableEq, Repr

inductive WalkPhase
  | readPte
  | writeLeaf (physicalAddress flags value : U32)
  deriving DecidableEq, Repr

/-- A walk in progress; the level is only decremented where it is not zero. -/
structure WalkState where
  request : TranslationRequest
  level : Nat
  pteAddress : U32
  globalMapping : Bool
  phase : WalkPhase
  deriving DecidableEq, Repr

structure TlbEntry where
  satp : U32
  virtualBase : U32
  physicalBase : U32
  pageMask : U32
  flags : U32
  globalMapping : Bool
  deriving DecidableEq, Repr

structure PageWalker where
  active : Option WalkState := none
  tlb : Vector (Option TlbEntry) tlbEntryCount := .replicate tlbEntryCount none
  nextTlbEntry : Fin tlbEntryCount := 0
  deriving DecidableEq

inductive StepResult
  | stall
  | drained
  | ready (physicalAddress : U32)
  | fault (trap : Trap)
  deriving DecidableEq, Repr

/-! ## PTE fields and permissions -/

def vpn (virtualAddress : U32) : Nat → U32
  | 0 => (virtualAddress >>> 12) &&& 0x3ff
  | 1 => (virtualAddress >>> 22) &&& 0x3ff
  | _ => 0

def pteFlags (pte : U32) : U32 := pte &&& 0xff

def ptePpn (pte : U32) : U32 := (pte >>> 10) &&& ptePpnMask

def pteIsGlobal (flags : U32) : Bool := (flags &&& pteG) != 0

def nonleafFlagsValid (flags : U32) : Bool := (flags &&& nonleafReservedMask) == 0

def translationEnabled (satp : U32) (privilege : PrivilegeMode) : Bool :=
  privilege != .machine && (satp >>> satpModeShift) == satpModeSv32

def satpAsid (satp : U32) : U16 := ((satp >>> satpAsidShift) &&& satpAsidMask).setWidth 16

def translationStatus (csrs : CsrFile) : U32 :=
  csrs.read .mstatus &&& (mstatusSum ||| mstatusMxr)

def effectivePrivilege (csrs : CsrFile) (currentPrivilege : PrivilegeMode) (access : MemoryAccess) :
    PrivilegeMode :=
  if access = .instruction ∨ currentPrivilege ≠ .machine then currentPrivilege
  else
    let mstatus := csrs.read .mstatus
    if mstatus &&& mstatusMprv = 0 then currentPrivilege
    else privilegeFromBits ((mstatus &&& mstatusMppMask) >>> mstatusMppShift)

namespace TranslationRequest

/-- The request `translate` builds: what it reads of the hart. -/
def of (csrs : CsrFile) (privilege : PrivilegeMode) (virtualAddress : U32)
    (access : MemoryAccess) : TranslationRequest where
  satp := csrs.read .satp
  status := translationStatus csrs
  privilege := effectivePrivilege csrs privilege access
  virtualAddress := virtualAddress
  access := access

def rootPteAddress (request : TranslationRequest) : U32 :=
  ((request.satp &&& satpPpnMask) <<< pageShift) + vpn request.virtualAddress 1 * 4

def accessBitsFor (request : TranslationRequest) : U32 :=
  pteA ||| (if request.access = .store then pteD else 0)

def needsAccessBitUpdate (request : TranslationRequest) (flags : U32) : Bool :=
  (flags &&& request.accessBitsFor) != request.accessBitsFor

def updatedFlags (request : TranslationRequest) (flags : U32) : U32 :=
  flags ||| request.accessBitsFor

def updatedPte (pte : U32) (request : TranslationRequest) : U32 :=
  pte ||| request.accessBitsFor

def permissionsAllow (request : TranslationRequest) (flags : U32) : Bool :=
  let userPage := (flags &&& pteU) != 0
  let readable := (flags &&& pteR) != 0
  let writable := (flags &&& pteW) != 0
  let executable := (flags &&& pteX) != 0
  let mxr := (request.status &&& mstatusMxr) != 0
  let sum := (request.status &&& mstatusSum) != 0
  let loadPermitted := readable || (mxr && executable)
  let byAccess := match request.access with
    | .instruction => executable
    | .load => loadPermitted
    | .store => writable
  match request.privilege with
  | .machine => true
  | .supervisor =>
    if userPage then
      if request.access = .instruction ∨ !sum then false else byAccess
    else byAccess
  | .user => if userPage then byAccess else false

def pageFault (request : TranslationRequest) : Trap :=
  .exception (match request.access with
    | .instruction => .instructionPageFault request.virtualAddress
    | .load => .loadPageFault request.virtualAddress
    | .store => .storePageFault request.virtualAddress)

def accessFault (request : TranslationRequest) : Trap :=
  .exception (match request.access with
    | .instruction => .instructionAccessFault request.virtualAddress
    | .load => .loadAccessFault request.virtualAddress
    | .store => .storeAccessFault request.virtualAddress)

end TranslationRequest

def translateLeaf (state : WalkState) (pte : U32) : Option U32 :=
  let virtualAddress := state.request.virtualAddress
  let offset := virtualAddress &&& pageOffsetMask
  let ppn := ptePpn pte
  let ppn1 := ppn >>> 10
  let ppn0 := ppn &&& ptePpn0Mask
  match state.level with
  | 1 =>
    if ppn0 ≠ 0 then none
    else some ((((ppn1 <<< 10) ||| vpn virtualAddress 0) <<< pageShift) ||| offset)
  | 0 => some ((((ppn1 <<< 10) ||| ppn0) <<< pageShift) ||| offset)
  | _ => none

namespace TlbEntry

def «matches» (entry : TlbEntry) (request : TranslationRequest) : Bool :=
  (entry.globalMapping || entry.satp == request.satp)
    && (request.virtualAddress &&& ~~~entry.pageMask) == entry.virtualBase

def translate (entry : TlbEntry) (request : TranslationRequest) : U32 :=
  entry.physicalBase ||| (request.virtualAddress &&& entry.pageMask)

end TlbEntry

namespace TranslationFence

def all : TranslationFence := ⟨none, none⟩

def fromOperands (rs1 : Option RegIndex) (rs1Value : U32) (rs2 : Option RegIndex) (rs2Value : U32) :
    TranslationFence where
  virtualAddress := match rs1 with
    | none => none
    | some r => if r = 0 then none else some rs1Value
  asid := match rs2 with
    | none => none
    | some r => if r = 0 then none else some ((rs2Value &&& satpAsidMask).setWidth 16)

def isGlobal (fence : TranslationFence) : Bool :=
  fence.virtualAddress.isNone && fence.asid.isNone

def matchesAsid (fence : TranslationFence) (entry : TlbEntry) : Bool :=
  if fence.asid.isSome && entry.globalMapping then false
  else
    match fence.asid with
    | some asid => satpAsid entry.satp == asid
    | none => true

def matchesVirtualAddress (fence : TranslationFence) (entry : TlbEntry) : Bool :=
  match fence.virtualAddress with
  | some virtualAddress => (virtualAddress &&& ~~~entry.pageMask) == entry.virtualBase
  | none => true

def matchesEntry (fence : TranslationFence) (entry : TlbEntry) : Bool :=
  fence.matchesAsid entry && fence.matchesVirtualAddress entry

end TranslationFence

/-! ## The walker -/

namespace PageWalker

protected def default : PageWalker := {}

def flushFence (walker : PageWalker) (fence : TranslationFence) : PageWalker :=
  if fence.isGlobal then { walker with tlb := .replicate tlbEntryCount none }
  else
    { walker with tlb := walker.tlb.map fun slot =>
        match slot with
        | some entry => if fence.matchesEntry entry then none else some entry
        | none => none }

/-- The scan of `lookup_tlb`, entry by entry from the first slot. -/
def lookupEntries (request : TranslationRequest) :
    List (Option TlbEntry) → Bool → Option TranslationResult
  | [], sawPermissionFault =>
    if sawPermissionFault then some (.fault request.pageFault) else none
  | none :: slots, sawPermissionFault => lookupEntries request slots sawPermissionFault
  | some entry :: slots, sawPermissionFault =>
    if !entry.matches request then lookupEntries request slots sawPermissionFault
    else if !request.permissionsAllow entry.flags then lookupEntries request slots true
    else if request.needsAccessBitUpdate entry.flags then
      lookupEntries request slots sawPermissionFault
    else some (.physicalAddress (entry.translate request))

def lookupTlb (walker : PageWalker) (request : TranslationRequest) : Option TranslationResult :=
  lookupEntries request walker.tlb.toList false

def insertTlb (walker : PageWalker) (state : WalkState) (flags physicalAddress : U32) :
    PageWalker :=
  let insert (pageMask : U32) : PageWalker :=
    let entry : TlbEntry :=
      { satp := state.request.satp
        virtualBase := state.request.virtualAddress &&& ~~~pageMask
        physicalBase := physicalAddress &&& ~~~pageMask
        pageMask, flags
        globalMapping := state.globalMapping || pteIsGlobal flags }
    { walker with
      tlb := walker.tlb.set walker.nextTlbEntry (some entry)
      nextTlbEntry := walker.nextTlbEntry + 1 }
  match state.level with
  | 1 => insert superpageOffsetMask
  | 0 => insert pageOffsetMask
  | _ => walker

section Walk

variable {β : Type} [Bus β]

/-- A finished walk: the walk is dropped, and a drained one has no answer. -/
def finish (walker : PageWalker) (bus : β) (drainOnly : Bool) (result : StepResult) :
    Except BusError StepResult × PageWalker × β :=
  (.ok (if drainOnly then .drained else result), { walker with active := none }, bus)

def finishLeafUpdate (walker : PageWalker) (bus : β) (state : WalkState)
    (physicalAddress flags value : U32) (drainOnly : Bool) :
    Except BusError StepResult × PageWalker × β :=
  match Bus.store32 bus (state.pteAddress.setWidth 64) value with
  | (.ok (), bus) =>
    let walker := if drainOnly then walker else walker.insertTlb state flags physicalAddress
    walker.finish bus drainOnly (.ready physicalAddress)
  | (.error (.busy _), bus) => (.ok .stall, walker, bus)
  | (.error _, bus) => walker.finish bus drainOnly (.fault state.request.accessFault)

/-- What a read PTE does to the walk; the answer of a leaf that needs no write, or the next
level's table. -/
def stepPte (walker : PageWalker) (bus : β) (state : WalkState) (pte : U32) (drainOnly : Bool) :
    Except BusError StepResult × PageWalker × β :=
  let request := state.request
  let flags := pteFlags pte
  if flags &&& pteV = 0 ∨ (flags &&& pteR = 0 ∧ flags &&& pteW ≠ 0) then
    walker.finish bus drainOnly (.fault request.pageFault)
  else if flags &&& (pteR ||| pteX) ≠ 0 then
    match translateLeaf state pte with
    | none => walker.finish bus drainOnly (.fault request.pageFault)
    | some physicalAddress =>
      if !request.permissionsAllow flags then
        walker.finish bus drainOnly (.fault request.pageFault)
      else if request.needsAccessBitUpdate flags then
        let flags := request.updatedFlags flags
        let value := TranslationRequest.updatedPte pte request
        let state := { state with phase := .writeLeaf physicalAddress flags value }
        { walker with active := some state }.finishLeafUpdate bus state physicalAddress flags value
          drainOnly
      else
        let walker := if drainOnly then walker else walker.insertTlb state flags physicalAddress
        walker.finish bus drainOnly (.ready physicalAddress)
  else if !nonleafFlagsValid flags then
    walker.finish bus drainOnly (.fault request.pageFault)
  else
    match state.level with
    | 0 => walker.finish bus drainOnly (.fault request.pageFault)
    | nextLevel + 1 =>
      let nextTableBase := ptePpn pte <<< pageShift
      let next : WalkState :=
        { request := request
          level := nextLevel
          pteAddress := nextTableBase + vpn request.virtualAddress nextLevel * 4
          globalMapping := state.globalMapping || pteIsGlobal flags
          phase := .readPte }
      (.ok .drained, { walker with active := some next }, bus)

/-- One bus access of the active walk `state`. -/
def step (walker : PageWalker) (bus : β) (state : WalkState) (drainOnly : Bool) :
    Except BusError StepResult × PageWalker × β :=
  match state.phase with
  | .writeLeaf physicalAddress flags value =>
    walker.finishLeafUpdate bus state physicalAddress flags value drainOnly
  | .readPte =>
    match Bus.load32 bus (state.pteAddress.setWidth 64) with
    | (.ok pte, bus) => walker.stepPte bus state pte drainOnly
    | (.error (.busy _), bus) => (.ok .stall, walker, bus)
    | (.error _, bus) => walker.finish bus drainOnly (.fault state.request.accessFault)

/-- What a step of the walk of the current request means for `translate`. -/
def continueWalk (retry : PageWalker → β → Except BusError TranslationResult × PageWalker × β) :
    Except BusError StepResult × PageWalker × β →
      Except BusError TranslationResult × PageWalker × β
  | (.ok (.ready physicalAddress), walker, bus) =>
    (.ok (.physicalAddress physicalAddress), walker, bus)
  | (.ok (.fault trap), walker, bus) => (.ok (.fault trap), walker, bus)
  | (.ok .stall, walker, bus) => (.ok .stall, walker, bus)
  | (.ok .drained, walker, bus) => retry walker bus
  | (.error error, walker, bus) => (.error error, walker, bus)

/-- What a step of the walk of an abandoned request means for `translate`. -/
def continueDrain (retry : PageWalker → β → Except BusError TranslationResult × PageWalker × β) :
    Except BusError StepResult × PageWalker × β →
      Except BusError TranslationResult × PageWalker × β
  | (.ok .drained, walker, bus) => retry walker bus
  -- `Ready` and `Fault` are the source's `unreachable!()`: a drained walk has no answer
  | (.ok _, walker, bus) => (.ok .stall, walker, bus)
  | (.error error, walker, bus) => (.error error, walker, bus)

/-- The `loop` of `translate`. Every round but the last ends a level of a walk, so the fuel
`translate` passes is never used up. -/
def translateLoop (request : TranslationRequest) :
    Nat → PageWalker → β → Except BusError TranslationResult × PageWalker × β
  | 0, walker, bus => (.ok .stall, walker, bus)
  | fuel + 1, walker, bus =>
    match walker.active with
    | some active =>
      if active.request ≠ request then
        continueDrain (translateLoop request fuel) (walker.step bus active true)
      else if !translationEnabled request.satp request.privilege then
        (.ok (.physicalAddress request.virtualAddress), walker, bus)
      else continueWalk (translateLoop request fuel) (walker.step bus active false)
    | none =>
      if !translationEnabled request.satp request.privilege then
        (.ok (.physicalAddress request.virtualAddress), walker, bus)
      else
        match walker.lookupTlb request with
        | some result => (.ok result, walker, bus)
        | none =>
          let state : WalkState :=
            { request, level := 1, pteAddress := request.rootPteAddress, globalMapping := false
              phase := .readPte }
          continueWalk (translateLoop request fuel)
            ({ walker with active := some state }.step bus state false)

/-- Rounds that suffice: the levels of a walk to drain, and two levels of a new one. -/
def walkFuel (walker : PageWalker) : Nat :=
  (walker.active.map (·.level + 1)).getD 0 + 3

def translate (walker : PageWalker) (bus : β) (csrs : CsrFile) (privilege : PrivilegeMode)
    (virtualAddress : U32) (access : MemoryAccess) :
    Except BusError TranslationResult × PageWalker × β :=
  translateLoop (.of csrs privilege virtualAddress access) walker.walkFuel walker bus

/-! ## No bus answer makes a translation fail -/

theorem finishLeafUpdate_isOk (walker : PageWalker) (bus : β) (state : WalkState)
    (physicalAddress flags value : U32) (drainOnly : Bool) :
    (walker.finishLeafUpdate bus state physicalAddress flags value drainOnly).1.isOk := by
  unfold finishLeafUpdate
  split <;> rfl

theorem stepPte_isOk (walker : PageWalker) (bus : β) (state : WalkState) (pte : U32)
    (drainOnly : Bool) : (walker.stepPte bus state pte drainOnly).1.isOk := by
  simp only [stepPte]
  repeat' split
  all_goals first | rfl | exact finishLeafUpdate_isOk _ bus _ _ _ _ _

theorem step_isOk (walker : PageWalker) (bus : β) (state : WalkState) (drainOnly : Bool) :
    (walker.step bus state drainOnly).1.isOk := by
  unfold step
  split
  · exact finishLeafUpdate_isOk ..
  · split
    · exact stepPte_isOk ..
    · rfl
    · rfl

section Continue

variable {retry : PageWalker → β → Except BusError TranslationResult × PageWalker × β}
  (hretry : ∀ walker bus, (retry walker bus).1.isOk)

omit [Bus β]
include hretry

theorem continueWalk_isOk {answer : Except BusError StepResult × PageWalker × β}
    (h : answer.1.isOk) : (continueWalk retry answer).1.isOk := by
  unfold continueWalk
  split
  · rfl
  · rfl
  · rfl
  · exact hretry ..
  · cases h

theorem continueDrain_isOk {answer : Except BusError StepResult × PageWalker × β}
    (h : answer.1.isOk) : (continueDrain retry answer).1.isOk := by
  unfold continueDrain
  split
  · exact hretry ..
  · rfl
  · cases h

end Continue

theorem translateLoop_isOk (request : TranslationRequest) (fuel : Nat) (walker : PageWalker)
    (bus : β) : (translateLoop request fuel walker bus).1.isOk := by
  induction fuel generalizing walker bus with
  | zero => rfl
  | succ fuel ih =>
    unfold translateLoop
    split
    · split
      · exact continueDrain_isOk ih (step_isOk ..)
      · split
        · rfl
        · exact continueWalk_isOk ih (step_isOk ..)
    · split
      · rfl
      · split
        · rfl
        · exact continueWalk_isOk ih (step_isOk ..)

/-- Bus errors become stalls and faults: `translate` never fails. -/
theorem translate_isOk (walker : PageWalker) (bus : β) (csrs : CsrFile)
    (privilege : PrivilegeMode) (virtualAddress : U32) (access : MemoryAccess) :
    (walker.translate bus csrs privilege virtualAddress access).1.isOk :=
  translateLoop_isOk ..

/-! ## Facts the cores use -/

/-- Without translation and without a suspended walk, a translation is the identity. -/
theorem translate_of_disabled {walker : PageWalker} (hactive : walker.active = none)
    {csrs : CsrFile} {privilege : PrivilegeMode} {access : MemoryAccess}
    (hoff : translationEnabled (csrs.read .satp) (effectivePrivilege csrs privilege access) = false)
    (virtualAddress : U32) (bus : β) :
    walker.translate bus csrs privilege virtualAddress access =
      (.ok (.physicalAddress virtualAddress), walker, bus) := by
  simp [translate, walkFuel, translateLoop, hactive, TranslationRequest.of, hoff]

end Walk

end PageWalker

end RvSim
