import RvSim.System.MemoryMap

/-!
# The arbiter

Round-robin arbitration between the CPU and autonomous bus masters. A tick polls the requests in flight,
hands their responses to the masters, and submits one request.

The requests of a master are numbered in the order in which it issues them. The numbers are bookkeeping:
a slot counts its requests and lists those that are answered, and a request carries its number. Nothing
in the arbiter depends on them.

## Main definitions

* `MasterSlot`, `PendingRequest`, `InFlightRequest`, `ArbiterBus`
* `ArbiterBus.pollInFlightRequests`, `ArbiterBus.selectNextRequest`,
  `ArbiterBus.trySubmitPendingRequest`, `ArbiterBus.tick`
* `ArbiterEvent`, `ArbiterBus.next`: ticks, calls of the CPU, and what happens around the arbiter

## Main results

* `ArbiterBus.tick_eq`: a tick polls, chooses a request and submits it
-/

namespace RvSim

/-- A master, with the number of requests it has issued and those of them that are answered. -/
structure MasterSlot (M : Type) where
  master : M
  issued : Nat := 0
  answered : List Nat := []
  deriving DecidableEq

namespace MasterSlot

variable {M : Type} [BusMaster M]

def request (slot : MasterSlot M) : Option BusMasterRequest × MasterSlot M :=
  match BusMaster.request slot.master with
  | (some request, master) => (some request, { slot with master, issued := slot.issued + 1 })
  | (none, master) => (none, { slot with master })

def onResponse (slot : MasterSlot M) (serial : Nat) (response : Except BusError BusMasterResponse) :
    MasterSlot M :=
  { slot with master := BusMaster.onResponse slot.master response
              answered := slot.answered ++ [serial] }

end MasterSlot

structure PendingRequest (n : Nat) where
  masterIndex : Fin n
  request : BusMasterRequest
  serial : Nat
  deriving DecidableEq

inductive RequestId
  | transaction (id : U64)
  | burst (id : U64)
  deriving DecidableEq, Repr

structure InFlightRequest (n : Nat) where
  masterIndex : Fin n
  request : BusMasterRequest
  requestId : RequestId
  completion : Option (Except BusError BusMasterResponse)
  serial : Nat
  deriving DecidableEq

/-! ## Requests and responses -/

namespace BusMasterRequest

/-- `request_to_transaction` on the left, `request_to_burst` on the right. -/
def lowered : BusMasterRequest → TransactionRequest ⊕ BurstRequest
  | load32 addr => .inl (.load addr 4)
  | store32 addr value => .inl (.store addr 4 (toLeBytes value))
  | readWords baseAddr beats => .inr (.readWords baseAddr beats .load)
  | writeWords baseAddr words => .inr (.writeWords baseAddr words)

/-- `request_addr` of the source. -/
def addr : BusMasterRequest → Address
  | load32 addr => addr
  | store32 addr _ => addr
  | readWords baseAddr _ => baseAddr
  | writeWords baseAddr _ => baseAddr

def responseFromTransaction (request : BusMasterRequest) (response : TransactionResponse) :
    Except BusError BusMasterResponse :=
  match request, response with
  | load32 _, .read data 4 => .ok (.load32 (fromLeBytes data))
  | store32 _ _, .writeComplete => .ok .storeComplete
  | _, _ =>
    .error (.deviceFault request.addr "arbiter observed mismatched master transaction response")

def responseFromBurst (request : BusMasterRequest) (response : BurstResponse) :
    Except BusError BusMasterResponse :=
  match request, response with
  | readWords _ _, .readWords words => .ok (.readWords words)
  | writeWords _ _, .writeComplete beats => .ok (.writeWordsComplete beats)
  | _, _ => .error (.deviceFault request.addr "arbiter observed mismatched master burst response")

variable {β : Type} [FabricBus β]

/-- The call of the lower bus that submits the request. -/
def submit (request : BusMasterRequest) (inner : β) : Except BusError RequestId × β :=
  match request.lowered with
  | .inl transaction =>
    ((TransactionBus.submitTransaction inner transaction).1.map .transaction,
      (TransactionBus.submitTransaction inner transaction).2)
  | .inr burst =>
    ((BurstBus.submitBurst inner burst).1.map .burst, (BurstBus.submitBurst inner burst).2)

end BusMasterRequest

/-- The call of the lower bus that takes the response of a request. -/
def InFlightRequest.takeResponse {β : Type} [FabricBus β] {n : Nat} (active : InFlightRequest n)
    (inner : β) : Option (Except BusError BusMasterResponse) × β :=
  match active.requestId with
  | .transaction id =>
    let out := TransactionBus.takeTransactionResponse inner id
    (out.1.map fun result => result.bind active.request.responseFromTransaction, out.2)
  | .burst id =>
    let out := BurstBus.takeBurstResponse inner id
    (out.1.map fun result => result.bind active.request.responseFromBurst, out.2)

/-- A shared bus wrapper that grants lower-bus access to one master at a time. -/
structure ArbiterBus (β M : Type) (n : Nat) where
  inner : β
  masters : Vector (MasterSlot M) n
  nextMasterIndex : Nat := 0
  pendingRequest : Option (PendingRequest n) := none
  inFlightRequests : List (InFlightRequest n) := []
  cpuReservedThisCycle : Bool := false
  deriving DecidableEq

namespace ArbiterBus

variable {β M : Type} {n : Nat}

/-- An arbiter with the masters added. -/
def new (inner : β) (masters : Vector M n) : ArbiterBus β M n where
  inner := inner
  masters := masters.map fun master => { master }

def outstandingRequestCountForMaster (arbiter : ArbiterBus β M n) (masterIndex : Fin n) : Nat :=
  (if arbiter.pendingRequest.any (·.masterIndex = masterIndex) then 1 else 0) +
    (arbiter.inFlightRequests.filter (·.masterIndex = masterIndex)).length

variable [BusMaster M]

/-- A response goes to the master that issued the request. -/
def deliver (masters : Vector (MasterSlot M) n) (masterIndex : Fin n) (serial : Nat)
    (response : Except BusError BusMasterResponse) : Vector (MasterSlot M) n :=
  masters.set masterIndex ((masters.get masterIndex).onResponse serial response) masterIndex.isLt

/-- The loop that hands out the responses. `kept` are the requests in front of the loop's index. -/
def deliverCompleted (masters : Vector (MasterSlot M) n) (kept : List (InFlightRequest n)) :
    List (InFlightRequest n) → Vector (MasterSlot M) n × List (InFlightRequest n)
  | [] => (masters, kept)
  | active :: rest =>
    match active.completion with
    | none => deliverCompleted masters (kept ++ [active]) rest
    | some result =>
      if kept.any (·.masterIndex = active.masterIndex) then
        deliverCompleted masters (kept ++ [active]) rest
      else deliverCompleted (deliver masters active.masterIndex active.serial result) kept rest

/-- The scan for the next request, over the master indices that are left. -/
def scan (arbiter : ArbiterBus β M n) : List (Fin n) → Option (PendingRequest n) × ArbiterBus β M n
  | [] => (none, arbiter)
  | index :: rest =>
    let slot := arbiter.masters.get index
    if max (BusMaster.maxOutstandingRequests slot.master) 1 ≤
        arbiter.outstandingRequestCountForMaster index then arbiter.scan rest
    else
      match slot.request with
      | (some request, slot') =>
        (some { masterIndex := index, request, serial := slot.issued },
          { arbiter with
            masters := arbiter.masters.set index slot' index.isLt
            nextMasterIndex := (index + 1) % n })
      | (none, slot') => { arbiter with masters := arbiter.masters.set index slot' index.isLt }.scan rest

/-- The master indices from the round-robin pointer on. -/
def scanOrder (start : Nat) : List (Fin n) :=
  (List.finRange n).map fun offset : Fin n => ⟨(start + offset) % n, Nat.mod_lt _ offset.pos⟩

def selectNextRequest (arbiter : ArbiterBus β M n) : Option (PendingRequest n) × ArbiterBus β M n :=
  arbiter.scan (scanOrder arbiter.nextMasterIndex)

variable [FabricBus β]

/-- The loop that takes responses from the lower bus. -/
def collectResponses (inner : β) : List (InFlightRequest n) → β × List (InFlightRequest n)
  | [] => (inner, [])
  | active :: rest =>
    match active.completion with
    | some _ =>
      let (inner, rest) := collectResponses inner rest
      (inner, active :: rest)
    | none =>
      let (completion, inner) := active.takeResponse inner
      let (inner, rest) := collectResponses inner rest
      (inner, { active with completion } :: rest)

def pollInFlightRequests (arbiter : ArbiterBus β M n) : ArbiterBus β M n :=
  let (inner, collected) := collectResponses arbiter.inner arbiter.inFlightRequests
  let (masters, inFlightRequests) := deliverCompleted arbiter.masters [] collected
  { arbiter with inner, masters, inFlightRequests }

def trySubmitPendingRequest (arbiter : ArbiterBus β M n) : ArbiterBus β M n :=
  match arbiter.pendingRequest with
  | none => arbiter
  | some pending =>
    match pending.request.submit arbiter.inner with
    | (.ok requestId, inner) =>
      { arbiter with
        inner
        inFlightRequests := arbiter.inFlightRequests ++
          [{ masterIndex := pending.masterIndex, request := pending.request, requestId
             completion := none, serial := pending.serial }]
        pendingRequest := none }
    | (.error (.busy _), inner) => { arbiter with inner }
    | (.error error, inner) =>
      { arbiter with
        inner
        masters := deliver arbiter.masters pending.masterIndex pending.serial (.error error)
        pendingRequest := none }

def tick (arbiter : ArbiterBus β M n) : ArbiterBus β M n :=
  let arbiter :=
    { arbiter with
      inner := Bus.tick arbiter.inner
      cpuReservedThisCycle := false }.pollInFlightRequests
  if arbiter.pendingRequest.isSome then
    { arbiter with cpuReservedThisCycle := true }.trySubmitPendingRequest
  else
    match arbiter.selectNextRequest with
    | (some pending, arbiter) =>
      { arbiter with
        cpuReservedThisCycle := true
        pendingRequest := some pending }.trySubmitPendingRequest
    | (none, arbiter) => arbiter

/-! ## The CPU -/

/-- `ensure_cpu_slot`, and the call of the lower bus behind it. -/
def forCpu {α : Type} (arbiter : ArbiterBus β M n) (call : β → Except BusError α × β) :
    Except BusError α × ArbiterBus β M n :=
  if arbiter.cpuReservedThisCycle then (.error (.busy 1), arbiter)
  else ((call arbiter.inner).1, { arbiter with inner := (call arbiter.inner).2 })

instance : Bus (ArbiterBus β M n) where
  tick := tick
  machineTime arbiter := Bus.machineTime arbiter.inner
  isBusy arbiter := arbiter.cpuReservedThisCycle || arbiter.pendingRequest.isSome ||
    !arbiter.inFlightRequests.isEmpty || Bus.isBusy arbiter.inner
  pendingInterrupts arbiter := Bus.pendingInterrupts arbiter.inner
  fetch32 arbiter addr := arbiter.forCpu (Bus.fetch32 · addr)
  load8 arbiter addr := arbiter.forCpu (Bus.load8 · addr)
  load16 arbiter addr := arbiter.forCpu (Bus.load16 · addr)
  load32 arbiter addr := arbiter.forCpu (Bus.load32 · addr)
  store8 arbiter addr value := arbiter.forCpu (Bus.store8 · addr value)
  store16 arbiter addr value := arbiter.forCpu (Bus.store16 · addr value)
  store32 arbiter addr value := arbiter.forCpu (Bus.store32 · addr value)

/-! ## A tick in three parts -/

/-- The arbiter when it has polled. -/
def polled (arbiter : ArbiterBus β M n) : ArbiterBus β M n :=
  { arbiter with
    inner := Bus.tick arbiter.inner
    cpuReservedThisCycle := false }.pollInFlightRequests

omit [FabricBus β] in
/-- The arbiter when it has chosen the request to submit. -/
def chosen (arbiter : ArbiterBus β M n) : ArbiterBus β M n :=
  if arbiter.pendingRequest.isSome then { arbiter with cpuReservedThisCycle := true }
  else
    match arbiter.selectNextRequest with
    | (some pending, arbiter) =>
      { arbiter with
        cpuReservedThisCycle := true
        pendingRequest := some pending }
    | (none, arbiter) => arbiter

omit [FabricBus β]

/-- The master is below its window and has a request to issue. -/
def Ready (arbiter : ArbiterBus β M n) (index : Fin n) : Prop :=
  arbiter.outstandingRequestCountForMaster index <
      max (BusMaster.maxOutstandingRequests (arbiter.masters.get index).master) 1 ∧
    (BusMaster.request (arbiter.masters.get index).master).1.isSome

/-- What a scan does. -/
structure Scanned (arbiter : ArbiterBus β M n) (order : List (Fin n))
    (out : Option (PendingRequest n) × ArbiterBus β M n) : Prop where
  inner : out.2.inner = arbiter.inner
  pendingRequest : out.2.pendingRequest = arbiter.pendingRequest
  inFlightRequests : out.2.inFlightRequests = arbiter.inFlightRequests
  answered (index : Fin n) : (out.2.masters.get index).answered = (arbiter.masters.get index).answered
  issued (index : Fin n) : (out.2.masters.get index).issued =
    (arbiter.masters.get index).issued + if out.1.any (·.masterIndex = index) then 1 else 0
  mem : ∀ pending ∈ out.1, pending.masterIndex ∈ order
  serial : ∀ pending ∈ out.1, pending.serial = (arbiter.masters.get pending.masterIndex).issued
  window : ∀ pending ∈ out.1, arbiter.outstandingRequestCountForMaster pending.masterIndex <
    max (BusMaster.maxOutstandingRequests (arbiter.masters.get pending.masterIndex).master) 1
  pointer : ∀ pending ∈ out.1, out.2.nextMasterIndex = (pending.masterIndex + 1) % n
  unmoved : out.1 = none → out.2.nextMasterIndex = arbiter.nextMasterIndex
  first (index : Fin n) (hready : arbiter.Ready index) (hmem : index ∈ order) :
    ∃ pending ∈ out.1, ∃ before after, order = before ++ pending.masterIndex :: after ∧ index ∉ before

omit [BusMaster M] in
theorem slot_set (masters : Vector (MasterSlot M) n) (index other : Fin n) (slot : MasterSlot M) :
    (masters.set index slot index.isLt).get other = if index = other then slot else masters.get other := by
  show (masters.set index slot)[other.val] = if index = other then slot else masters[other.val]
  rw [Vector.getElem_set]
  simp only [Fin.val_inj]

/-- The request of a master leaves its bookkeeping, but for the number of requests. -/
theorem request_slot (slot : MasterSlot M) :
    slot.request.2.answered = slot.answered ∧
      slot.request.2.issued = slot.issued + if slot.request.1.isSome then 1 else 0 := by
  unfold MasterSlot.request
  rcases BusMaster.request slot.master with ⟨_ | _, _⟩ <;> exact ⟨rfl, rfl⟩

theorem scanned_scan (arbiter : ArbiterBus β M n) {order : List (Fin n)} (hnodup : order.Nodup) :
    arbiter.Scanned order (arbiter.scan order) := by
  induction order generalizing arbiter with
  | nil =>
    refine ⟨rfl, rfl, rfl, fun _ => rfl, fun _ => rfl, fun _ h => (by cases h), fun _ h => (by cases h),
      fun _ h => (by cases h), fun _ h => (by cases h), fun _ => rfl, fun _ _ h => (by cases h)⟩
  | cons index rest ih =>
    obtain ⟨hfresh, hrest⟩ := List.nodup_cons.1 hnodup
    unfold scan
    dsimp only
    split
    · rename_i hfull
      have hscanned := ih arbiter hrest
      refine { hscanned with
        mem := fun pending hpending => List.mem_cons_of_mem _ (hscanned.mem pending hpending)
        first := fun other hready hmem => ?_ }
      -- the master is at its window, so that it was not ready
      have hne : other ≠ index := by
        rintro rfl
        exact absurd hready.1 (not_lt.2 hfull)
      obtain ⟨pending, hpending, before, after, horder, hbefore⟩ :=
        hscanned.first other hready ((List.mem_cons.1 hmem).resolve_left hne)
      refine ⟨pending, hpending, index :: before, after, by rw [horder]; rfl, ?_⟩
      exact fun h => (List.mem_cons.1 h).elim hne hbefore
    · rename_i hbelow
      obtain ⟨hanswered, hissued⟩ := request_slot (arbiter.masters.get index)
      rcases hrequest : (arbiter.masters.get index).request with ⟨_ | request, slot⟩
      · rw [hrequest] at hanswered hissued
        -- the master has nothing to issue: only its own slot changes, and none of its bookkeeping
        have hother {other : Fin n} (hne : other ≠ index) :
            (arbiter.masters.set index slot index.isLt).get other = arbiter.masters.get other := by
          rw [slot_set, if_neg (Ne.symm hne)]
        have hbook (other : Fin n) : ((arbiter.masters.set index slot index.isLt).get other).answered =
            (arbiter.masters.get other).answered ∧
            ((arbiter.masters.set index slot index.isLt).get other).issued =
              (arbiter.masters.get other).issued := by
          by_cases hne : other = index
          · rw [hne, slot_set, if_pos rfl]
            exact ⟨hanswered, hissued⟩
          · rw [hother hne]
            exact ⟨rfl, rfl⟩
        have hscanned := ih { arbiter with masters := arbiter.masters.set index slot index.isLt } hrest
        have hne {pending} (hpending : pending ∈ (scan { arbiter with
            masters := arbiter.masters.set index slot index.isLt } rest).1) : pending.masterIndex ≠ index :=
          fun h => hfresh (h ▸ hscanned.mem pending hpending)
        refine { hscanned with
          answered := fun other => (hscanned.answered other).trans (hbook other).1
          issued := fun other => ?_
          mem := fun pending hpending => List.mem_cons_of_mem _ (hscanned.mem pending hpending)
          serial := fun pending hpending => ?_
          window := fun pending hpending => ?_
          first := fun other hready hmem => ?_ }
        · rw [hscanned.issued other, (hbook other).2]
        · rw [hscanned.serial pending hpending]
          exact congrArg MasterSlot.issued (hother (hne hpending))
        · have hwindow := hscanned.window pending hpending
          dsimp only at hwindow
          rw [hother (hne hpending)] at hwindow
          exact hwindow
        · have hsome : (BusMaster.request (arbiter.masters.get index).master).1 = none := by
            have hslot := hrequest
            unfold MasterSlot.request at hslot
            split at hslot
            · cases hslot
            · rename_i hnone
              rw [hnone]
          have hne' : other ≠ index := by
            rintro rfl
            have hisSome := hready.2
            rw [hsome] at hisSome
            cases hisSome
          have hready' : Ready { arbiter with
              masters := arbiter.masters.set index slot index.isLt } other := by
            unfold Ready
            dsimp only
            rw [hother hne']
            exact hready
          obtain ⟨pending, hpending, before, after, horder, hbefore⟩ :=
            hscanned.first other hready' ((List.mem_cons.1 hmem).resolve_left hne')
          refine ⟨pending, hpending, index :: before, after, by rw [horder]; rfl, ?_⟩
          exact fun h => (List.mem_cons.1 h).elim hne' hbefore
      · rw [hrequest] at hanswered hissued
        -- the master is chosen
        refine ⟨rfl, rfl, rfl, fun other => ?_, fun other => ?_, ?_, ?_, ?_, ?_, ?_, ?_⟩
        · show ((arbiter.masters.set index slot index.isLt).get other).answered = _
          rw [slot_set]
          split
          · rename_i heq
            rw [← heq]
            exact hanswered
          · rfl
        · show ((arbiter.masters.set index slot index.isLt).get other).issued = _
          rw [slot_set]
          by_cases heq : index = other
          · subst heq
            simpa using hissued
          · simp [heq]
        · rintro _ ⟨⟩
          exact List.mem_cons_self
        · rintro _ ⟨⟩
          rfl
        · rintro _ ⟨⟩
          exact not_le.1 hbelow
        · rintro _ ⟨⟩
          rfl
        · exact fun h => by cases h
        · exact fun other hready hmem => ⟨_, rfl, [], rest, rfl, List.not_mem_nil⟩

theorem nodup_scanOrder (start : Nat) : (scanOrder start : List (Fin n)).Nodup := by
  refine (List.nodup_finRange n).map_on fun i _ j _ h => ?_
  have hmod : start + i.val ≡ start + j.val [MOD n] := congrArg Fin.val h
  have heq : i.val % n = j.val % n := Nat.ModEq.add_left_cancel' start hmod
  rw [Nat.mod_eq_of_lt i.isLt, Nat.mod_eq_of_lt j.isLt] at heq
  exact Fin.ext heq

theorem scanned_selectNextRequest (arbiter : ArbiterBus β M n) :
    arbiter.Scanned (scanOrder arbiter.nextMasterIndex) arbiter.selectNextRequest :=
  scanned_scan arbiter (nodup_scanOrder _)

/-- A tick polls, chooses a request and submits it. -/
theorem tick_eq [FabricBus β] (arbiter : ArbiterBus β M n) :
    arbiter.tick = arbiter.polled.chosen.trySubmitPendingRequest := by
  show (if arbiter.polled.pendingRequest.isSome then
    { arbiter.polled with cpuReservedThisCycle := true }.trySubmitPendingRequest else
    match arbiter.polled.selectNextRequest with
    | (some pending, arbiter) =>
      { arbiter with
        cpuReservedThisCycle := true
        pendingRequest := some pending }.trySubmitPendingRequest
    | (none, arbiter) => arbiter) = _
  unfold chosen
  split
  · rfl
  · rename_i hpending
    have hscanned := scanned_selectNextRequest arbiter.polled
    rcases hselect : arbiter.polled.selectNextRequest with ⟨_ | pending, selected⟩
    · rw [hselect] at hscanned
      have hnone : selected.pendingRequest = none :=
        hscanned.pendingRequest.trans (Option.not_isSome_iff_eq_none.1 hpending)
      dsimp only
      unfold trySubmitPendingRequest
      rw [hnone]
    · rfl

end ArbiterBus

/-! ## Runs -/

/-- What happens to the arbiter: a tick, a call of the CPU, anything else that happens to the lower bus
(bursts and maintenance of the CPU), and anything that happens to a master from outside (its device
registers). -/
inductive ArbiterEvent (β M : Type) (n : Nat)
  | tick
  | cpu (request : BusRequest)
  | lower (inner : β)
  | master (index : Fin n) (master : M)

namespace ArbiterBus

variable {β M : Type} {n : Nat} [FabricBus β] [BusMaster M]

def next (arbiter : ArbiterBus β M n) : ArbiterEvent β M n → ArbiterBus β M n
  | .tick => arbiter.tick
  | .cpu request => (request.call arbiter).2
  | .lower inner => { arbiter with inner }
  | .master index master =>
    { arbiter with
      masters := arbiter.masters.set index { arbiter.masters.get index with master } index.isLt }

/-- A call of the CPU changes the lower bus only. -/
theorem call_inner (arbiter : ArbiterBus β M n) (request : BusRequest) :
    ∃ inner, (request.call arbiter).2 = { arbiter with inner } := by
  have hcall {α : Type} (call : β → Except BusError α × β) :
      ∃ inner, (arbiter.forCpu call).2 = { arbiter with inner } := by
    unfold forCpu
    split
    · exact ⟨arbiter.inner, rfl⟩
    · exact ⟨_, rfl⟩
  cases request with
  | fetch32 addr => exact hcall (Bus.fetch32 · addr)
  | load8 addr => exact hcall (Bus.load8 · addr)
  | load16 addr => exact hcall (Bus.load16 · addr)
  | load32 addr => exact hcall (Bus.load32 · addr)
  | store8 addr value => exact hcall (Bus.store8 · addr value)
  | store16 addr value => exact hcall (Bus.store16 · addr value)
  | store32 addr value => exact hcall (Bus.store32 · addr value)

end ArbiterBus

/-! ## A master with a script -/

/-- A master that issues the requests of a list, as the repository's own tests use. -/
structure ScriptedMaster where
  window : Nat
  requests : List BusMasterRequest
  completions : List (Except BusError BusMasterResponse) := []
  deriving DecidableEq

instance : BusMaster ScriptedMaster where
  maxOutstandingRequests master := master.window
  request master := (master.requests.head?, { master with requests := master.requests.tail })
  onResponse master response := { master with completions := master.completions ++ [response] }

end RvSim
