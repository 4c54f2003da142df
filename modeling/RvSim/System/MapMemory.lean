import RvSim.Devices.MemoryDevice
import RvSim.System.BurstBeats
import RvSim.System.Compat
import RvSim.System.DeviceRelation

/-!
# A memory map is a memory

The part of a memory map that one memory device backs is a memory for a client that has one request, or one
burst, in progress at a time, whatever the latencies of the device are.

## Main definitions

* `MemoryMap.Backs`: a device of the map backs a memory
* `MemoryMap.InSlot`, `MemoryMap.InTransfer`: a request, or a burst, is in progress
* the instance of `MemoryContract`

## Main results

* `MemoryMap.step_inSlot`, `MemoryMap.step_inTransfer`: a step of the request, or of the burst
-/

namespace RvSim

open MemoryDevice

/-! ## Requests as transactions -/

namespace BusRequest

/-- The response that a memory makes. -/
def response (request : BusRequest) (memory : ByteMemory) : TransactionResponse :=
  match request.storeOp with
  | some _ => .writeComplete
  | none => .read (MemoryMap.padBytes ((List.range' 0 request.width).map fun i =>
      memory (request.addr + BitVec.ofNat 64 i))) request.width

theorem ofResponse_error (request : BusRequest) (error : BusError) :
    request.ofResponse (.error error) = .error error := by
  cases request <;> rfl

theorem padBytes_four (b0 b1 b2 b3 : U8) : MemoryMap.padBytes [b0, b1, b2, b3] = #v[b0, b1, b2, b3] := by
  refine Vector.ext fun i hi => ?_
  unfold MemoryMap.padBytes
  rw [Vector.getElem_ofFn]
  match i, hi with
  | 0, _ => rfl
  | 1, _ => rfl
  | 2, _ => rfl
  | 3, _ => rfl

/-- The word of a read. -/
theorem fromLeBytes_padBytes (memory : ByteMemory) (addr : Address) :
    fromLeBytes (MemoryMap.padBytes ((List.range' 0 4).map fun i => memory (addr + BitVec.ofNat 64 i))) =
      memory.word addr := by
  have hbytes : (List.range' 0 4).map (fun i => memory (addr + BitVec.ofNat 64 i)) =
      [memory (addr + 0), memory (addr + 1), memory (addr + 2), memory (addr + 3)] := rfl
  rw [hbytes, padBytes_four, show addr + 0 = addr from BitVec.add_zero addr]
  rfl

/-- **The answer of the response.** -/
theorem ofResponse_response {request : BusRequest} (haligned : ¬ request.Misaligned) (memory : ByteMemory) :
    request.ofResponse (.ok (request.response memory)) = .ok (request.answer memory) := by
  have hbyte {addr : Address} {i : Nat} (hi : addr.toNat % 4 + i < 4) :=
    toLeBytes_word_getElem? memory addr hi
  cases request with
  | fetch32 addr | load32 addr => exact congrArg Except.ok (fromLeBytes_padBytes memory addr)
  | load8 addr =>
    have hbyte0 := hbyte (show addr.toNat % 4 + 0 < 4 from Nat.mod_lt _ (by decide))
    exact congrArg (fun byte => Except.ok (BitVec.setWidth 32 byte)) hbyte0.symm
  | load16 addr =>
    have hword : addr.toNat % 4 + 2 ≤ 4 := mod_add_width haligned
    have hbyte0 := hbyte (show addr.toNat % 4 + 0 < 4 by omega)
    have hbyte1 := hbyte (show addr.toNat % 4 + 1 < 4 by omega)
    show Except.ok (BitVec.setWidth 32 (memory (addr + BitVec.ofNat 64 1) ++
      memory (addr + BitVec.ofNat 64 0))) = _
    rw [← hbyte0, ← hbyte1]
    rfl
  | store8 addr value | store16 addr value | store32 addr value => rfl

theorem transaction_spec (request : BusRequest) :
    request.transaction.addr = request.addr ∧ request.transaction.width = request.width := by
  cases request <;> exact ⟨rfl, rfl⟩

end BusRequest

namespace MemoryMap

variable {D : Type} {n : Nat} [Addressable D]

/-- An aligned call is a request through the slot. -/
theorem call_eq {request : BusRequest} (haligned : ¬ request.Misaligned) (map : MemoryMap D n) :
    request.call map = (request.ofResponse (map.performRequest request.transaction).1,
      (map.performRequest request.transaction).2) := by
  refine call_aligned ?_ map
  unfold TransactionRequest.Aligned
  rw [request.transaction_spec.1, request.transaction_spec.2]
  exact not_not.1 haligned

/-! ## The device that backs the memory -/

variable [MemoryDevice D]

/-- A device of the map backs the memory. -/
structure Backs (ram : Fin n) (memory : FlatMemory) (map : MemoryMap D n) : Prop where
  find : ∀ addr, memory.mapped addr = true → map.findDeviceIndex addr = some ram
  agrees : Agrees memory.mapped memory.contents (map.device ram)

variable {ram : Fin n} {memory : FlatMemory} {map map' : MemoryMap D n} {request : BusRequest}

theorem Backs.of_devices (h : Backs ram memory map) (hdevices : map'.devices = map.devices) :
    Backs ram memory map' where
  find addr haddr := by
    have hfind := h.find addr haddr
    unfold findDeviceIndex at hfind ⊢
    rwa [hdevices]
  agrees := by
    have hagrees := h.agrees
    unfold MemoryMap.device at hagrees ⊢
    rwa [hdevices]

theorem Backs.setDevice (h : Backs ram memory map) {contents : ByteMemory} {device : D}
    (hagrees : Agrees memory.mapped contents device) :
    Backs ram ⟨memory.mapped, contents⟩ (map.setDevice ram device) where
  find addr haddr :=
    (findDeviceIndex_congr (map.ranges_setDevice ram device) addr).trans (h.find addr haddr)
  agrees := by
    rw [device_setDevice, if_pos rfl]
    exact hagrees

theorem Backs.askLatency (h : Backs ram memory map) (addr : Address) (kind : AccessKind) (width : Nat) :
    Backs ram memory (map.askLatency ram addr kind width) :=
  h.setDevice (h.agrees.congr (MemoryDevice.latencyAsked _ addr kind width))

/-- The memory stays behind a tick of the devices. -/
theorem Backs.tickDevices (h : Backs ram memory map) : Backs ram memory map.tickDevices where
  find addr haddr := by
    refine (findDeviceIndex_congr ?_ addr).trans (h.find addr haddr)
    unfold MemoryMap.tickDevices
    rw [Vector.map_map]
    rfl
  agrees := by
    rw [device_tickDevices]
    exact h.agrees.congr (MemoryDevice.tick _)

/-- **A request that is performed.** -/
theorem Backs.executeRequest (h : Backs ram memory map) (hmaps : memory.Maps request.addr request.width) :
    ∃ map', map.executeRequest ram request.transaction = (.ok (request.response memory.contents), map') ∧
      Backs ram { memory with contents := request.effect memory.contents } map' := by
  have hload (addr : Address) (count : Nat) (hcount : memory.Maps addr count) :
      ∃ map', (readResponse count (loadBytesFrom (map.device ram) addr 0 count).1,
          map.setDevice ram (loadBytesFrom (map.device ram) addr 0 count).2) =
        (.ok (.read (padBytes ((List.range' 0 count).map fun i =>
          memory.contents (addr + BitVec.ofNat 64 i))) count), map') ∧ Backs ram memory map' := by
    obtain ⟨device', hbytes, hagrees⟩ := loadBytesFrom_eq h.agrees addr 0 count
      fun i _ hlt => hcount i (by omega)
    rw [hbytes]
    exact ⟨map.setDevice ram device', rfl, h.setDevice hagrees⟩
  have hstore (addr : Address) (value : U32) (bytes : List U8) (hcount : memory.Maps addr bytes.length)
      (hbytes : ∀ i (hi : i < bytes.length), (toLeBytes value)[0 + i]? = some bytes[i]) :
      ∃ map', ((storeBytesFrom (map.device ram) addr 0 bytes).1.map fun _ =>
          TransactionResponse.writeComplete,
          map.setDevice ram (storeBytesFrom (map.device ram) addr 0 bytes).2) = (.ok .writeComplete, map') ∧
        Backs ram ⟨memory.mapped, memory.contents.store ⟨addr, bytes.length, value⟩⟩ map' := by
    have hstart : Agrees memory.mapped (memory.contents.store ⟨addr, 0, value⟩) (map.device ram) := by
      rw [ByteMemory.store_zero]
      exact h.agrees
    obtain ⟨device', hstored, hagrees⟩ :=
      storeBytesFrom_eq bytes 0 hstart hbytes fun i _ hlt => hcount i (by omega)
    rw [Nat.zero_add] at hagrees
    rw [hstored]
    exact ⟨map.setDevice ram device', rfl, h.setDevice hagrees⟩
  cases request with
  | fetch32 addr | load32 addr => exact hload addr 4 hmaps
  | load8 addr => exact hload addr 1 hmaps
  | load16 addr => exact hload addr 2 hmaps
  | store8 addr value =>
    refine hstore addr (value.setWidth 32) [value] hmaps fun i hi => ?_
    obtain rfl : i = 0 := Nat.lt_one_iff.1 hi
    simp [toLeBytes]
  | store16 addr value =>
    refine hstore addr (value.setWidth 32) [value.setWidth 8, (value >>> 8).setWidth 8] hmaps fun i hi => ?_
    match i, hi with
    | 0, _ => simp [toLeBytes]
    | 1, _ =>
      have hbyte : (value.setWidth 32 >>> 8).setWidth 8 = (value >>> 8).setWidth 8 := by
        refine BitVec.eq_of_toNat_eq ?_
        have hvalue := value.isLt
        rw [BitVec.toNat_setWidth, BitVec.toNat_setWidth, BitVec.toNat_ushiftRight,
          BitVec.toNat_ushiftRight, BitVec.toNat_setWidth, Nat.mod_eq_of_lt (show value.toNat < 2 ^ 32 by omega)]
      exact congrArg some hbyte
  | store32 addr value =>
    refine hstore addr value (toLeBytes value).toList hmaps fun i hi => ?_
    rw [Nat.zero_add]
    exact (toLeBytes value).getElem?_toList.symm.trans (List.getElem?_eq_getElem hi)

/-! ## A request in progress -/

/-- How far the transaction of a request has come. -/
def Performs (ram : Fin n) (request : BusRequest) (memory : FlatMemory) (phase : TransactionPhase)
    (map : MemoryMap D n) : Prop :=
  match phase with
  | .accepted => Backs ram memory map
  | .inFlight _ => Backs ram memory map
  | .ready response => response = request.response memory.contents ∧
      Backs ram { memory with contents := request.effect memory.contents } map
  | .failed _ => False

theorem Performs.of_devices {phase : TransactionPhase} (h : Performs ram request memory phase map)
    (hdevices : map'.devices = map.devices) : Performs ram request memory phase map' := by
  cases phase with
  | accepted => exact Backs.of_devices h hdevices
  | inFlight remainingCycles => exact Backs.of_devices h hdevices
  | ready response => exact ⟨h.1, h.2.of_devices hdevices⟩
  | failed error => exact h

theorem Performs.tickDevices {phase : TransactionPhase} (h : Performs ram request memory phase map) :
    Performs ram request memory phase map.tickDevices := by
  cases phase with
  | accepted => exact Backs.tickDevices h
  | inFlight remainingCycles => exact Backs.tickDevices h
  | ready response => exact ⟨h.1, h.2.tickDevices⟩
  | failed error => exact h

/-- The request of the slot is the only one in progress. -/
structure InSlot (ram : Fin n) (request : BusRequest) (memory : FlatMemory) (active : ActiveTransaction n)
    (map : MemoryMap D n) : Prop where
  transactions : map.activeTransactions = [active]
  bursts : map.activeBursts = []
  compat : map.compatTransaction = some ⟨active.id, request.transaction⟩
  sameDevice : active.deviceIndex = ram
  sameRequest : active.request = request.transaction
  maps : memory.Maps request.addr request.width
  performs : Performs ram request memory active.phase map

theorem performs_completeRequest {active : ActiveTransaction n} (hdevice : active.deviceIndex = ram)
    (hrequest : active.request = request.transaction) (hmaps : memory.Maps request.addr request.width)
    (h : Backs ram memory map) :
    (map.completeRequest active).1 ≠ .accepted ∧
      Performs ram request memory (map.completeRequest active).1 (map.completeRequest active).2 := by
  obtain ⟨map', hexecute, hbacks⟩ := h.executeRequest hmaps
  unfold completeRequest
  rw [hdevice, hrequest, hexecute]
  exact ⟨nofun, rfl, hbacks⟩

/-- A step of the transaction of a request. -/
theorem performs_stepTransaction {active : ActiveTransaction n} (hdevice : active.deviceIndex = ram)
    (hrequest : active.request = request.transaction) (hmaps : memory.Maps request.addr request.width)
    (h : Performs ram request memory active.phase map) :
    (map.stepTransaction active).1 ≠ .accepted ∧
      Performs ram request memory (map.stepTransaction active).1 (map.stepTransaction active).2 := by
  unfold stepTransaction
  cases hphase : active.phase with
  | accepted =>
    rw [hphase] at h
    have hasked : Backs ram memory (map.askLatency active.deviceIndex active.request.addr
        active.request.kind active.request.width) := by
      rw [hdevice]
      exact Backs.askLatency h _ _ _
    dsimp only
    split
    · exact performs_completeRequest hdevice hrequest hmaps hasked
    · exact ⟨nofun, hasked⟩
  | inFlight remainingCycles =>
    rw [hphase] at h
    dsimp only
    split
    · exact ⟨nofun, h⟩
    · exact performs_completeRequest hdevice hrequest hmaps h
  | ready response =>
    rw [hphase] at h
    exact ⟨nofun, h⟩
  | failed error =>
    rw [hphase] at h
    exact h.elim

/-- **A step of the request.** -/
theorem InSlot.step {active : ActiveTransaction n} (h : InSlot ram request memory active map) :
    (map.stepTransaction active).1 ≠ .accepted ∧
      InSlot ram request memory { active with phase := (map.stepTransaction active).1 }
        (map.advanceTransactionAt 0) := by
  obtain ⟨hne, hperforms⟩ := performs_stepTransaction h.sameDevice h.sameRequest h.maps h.performs
  have hsame := map.sameTraffic_stepTransaction active
  have hget : map.activeTransactions[0]? = some active := by
    rw [h.transactions]
    rfl
  unfold advanceTransactionAt
  rw [hget]
  dsimp only
  refine ⟨hne, ?_, hsame.activeBursts.trans h.bursts, hsame.compatTransaction.trans h.compat, h.sameDevice,
    h.sameRequest, h.maps, hperforms.of_devices rfl⟩
  dsimp only
  rw [hsame.activeTransactions, h.transactions]
  rfl

theorem InSlot.waiting {active : ActiveTransaction n} (h : InSlot ram request memory active map) :
    map.transactionIndex active.id = some 0 ∧
      map.Waiting active.id request.transaction active := by
  have hindex : map.transactionIndex active.id = some 0 := by
    unfold transactionIndex
    rw [h.transactions]
    simp
  refine ⟨hindex, h.compat, ?_⟩
  unfold transaction
  rw [hindex, h.transactions]
  rfl

/-- Nothing is in progress. -/
structure QuietAs (memory : FlatMemory) (map : MemoryMap D n) : Prop where
  transactions : map.activeTransactions = []
  bursts : map.activeBursts = []
  compat : map.compatTransaction = none
  backs : ∃ ram, Backs ram memory map

/-- A request is in progress. -/
def AwaitingAs (request : BusRequest) (memory : FlatMemory) (map : MemoryMap D n) : Prop :=
  ∃ ram active, InSlot ram request memory active map

/-- A request through the slot waits, or has its response. -/
def Responds (request : BusRequest) (memory : FlatMemory)
    (out : Except BusError TransactionResponse × MemoryMap D n) : Prop :=
  match out.1 with
  | .ok response => response = request.response memory.contents ∧
      QuietAs { memory with contents := request.effect memory.contents } out.2
  | .error error => error.isBusy = true ∧ AwaitingAs request memory out.2

theorem InSlot.answerCompat {active : ActiveTransaction n} (h : InSlot ram request memory active map) :
    Responds request memory (map.answerCompat ⟨active.id, request.transaction⟩) := by
  obtain ⟨hindex, hwaiting⟩ := h.waiting
  have hperforms := h.performs
  unfold MemoryMap.answerCompat takeTransactionResponse
  dsimp only
  rw [hindex, hwaiting.phase_eq]
  cases hphase : active.phase with
  | accepted => exact ⟨rfl, ram, active, h⟩
  | inFlight remainingCycles => exact ⟨rfl, ram, active, h⟩
  | ready response =>
    rw [hphase] at hperforms
    obtain ⟨hresponse, hbacks⟩ := hperforms
    have hcleared : swapRemove map.activeTransactions 0 = [] := by
      rw [h.transactions]
      rfl
    refine ⟨hresponse, ?_⟩
    unfold removeTransaction clearCompatIfMatches
    dsimp only
    split
    · exact ⟨hcleared, h.bursts, rfl, ram, hbacks.of_devices rfl⟩
    · exact ⟨hcleared, h.bursts, rfl, ram, hbacks.of_devices rfl⟩
  | failed error =>
    rw [hphase] at hperforms
    exact hperforms.elim

theorem InSlot.awaitCompat {active : ActiveTransaction n} (h : InSlot ram request memory active map) :
    Responds request memory (map.awaitCompat ⟨active.id, request.transaction⟩) := by
  obtain ⟨hindex, hwaiting⟩ := h.waiting
  unfold MemoryMap.awaitCompat advanceTransaction
  dsimp only
  rw [hindex]
  split
  · exact h.step.2.answerCompat
  · exact h.answerCompat

/-- A request that waits is repeated. -/
theorem AwaitingAs.performRequest (h : AwaitingAs request memory map) :
    Responds request memory (map.performRequest request.transaction) := by
  obtain ⟨ram, active, h⟩ := h
  rw [h.waiting.2.performRequest_eq]
  exact h.awaitCompat

/-- A request is put into the slot. -/
theorem QuietAs.performRequest (h : QuietAs memory map) (hmaps : memory.Maps request.addr request.width) :
    Responds request memory (map.performRequest request.transaction) := by
  obtain ⟨ram, hbacks⟩ := h.backs
  obtain ⟨haddr, -⟩ := request.transaction_spec
  have hfind : map.findDeviceIndex request.transaction.addr = some ram := by
    rw [haddr]
    refine hbacks.find _ ?_
    have hfirst := hmaps 0 (by rcases request.width_cases with h | h | h <;> omega)
    rwa [show BitVec.ofNat 64 0 = 0#64 from rfl, BitVec.add_zero] at hfirst
  rw [performRequest_submit h.compat hfind]
  have htransactions : (map.install ram request.transaction).activeTransactions =
      [⟨map.nextTransactionId, ram, request.transaction, .accepted⟩] := by
    unfold install acceptTransaction
    dsimp only
    rw [h.transactions]
    rfl
  have hslot : InSlot ram request memory ⟨map.nextTransactionId, ram, request.transaction, .accepted⟩
      (map.install ram request.transaction) :=
    ⟨htransactions, h.bursts, rfl, rfl, rfl, hmaps, hbacks.of_devices rfl⟩
  exact hslot.awaitCompat

/-- The call that goes through the slot. -/
theorem Responds.call (haligned : ¬ request.Misaligned)
    (h : Responds request memory (map.performRequest request.transaction)) :
    AnsweredAs (AwaitingAs request) QuietAs request memory (request.call map) := by
  rw [call_eq haligned]
  unfold Responds at h
  unfold AnsweredAs
  generalize map.performRequest request.transaction = out at h
  obtain ⟨error | response, map'⟩ := out
  · dsimp only
    rw [request.ofResponse_error]
    exact h
  · obtain ⟨rfl, hquiet⟩ := h
    dsimp only
    rw [BusRequest.ofResponse_response haligned]
    exact ⟨rfl, hquiet⟩

/-! ## A burst in progress -/

variable {burst : BurstRequest} {id : U64}

/-- How far a burst has come. -/
def AtBeat (ram : Fin n) (burst : BurstRequest) (memory : FlatMemory) (active : ActiveBurst n)
    (map : MemoryMap D n) : Prop :=
  Backs ram (memory.behind burst active.beatIndex) map ∧
    match active.phase with
    | .accepted _ _ => active.beatIndex < burst.beats
    | .inFlight _ _ _ => active.beatIndex < burst.beats
    | .ready _ => active.beatIndex = burst.beats
    | .failed _ => False

/-- The burst is the only thing in progress. -/
structure InTransfer (ram : Fin n) (burst : BurstRequest) (memory : FlatMemory) (active : ActiveBurst n)
    (map : MemoryMap D n) : Prop where
  transactions : map.activeTransactions = []
  bursts : map.activeBursts = [active]
  compat : map.compatTransaction = none
  within : burst.Within memory.mapped
  sameDevice : active.deviceIndex = ram
  sameRequest : active.request = burst
  words : burst.HasRead active.beatIndex memory.contents active.readWords
  beat : AtBeat ram burst memory active map

/-- **A beat that is performed.** -/
theorem Backs.executeBurstBeat {index : Nat} (h : Backs ram (memory.behind burst index) map)
    (hwithin : burst.Within memory.mapped) (hindex : index < burst.beats) {readWords : List U32}
    (hwords : burst.HasRead index memory.contents readWords) :
    ∃ readWord map', map.executeBurstBeat ram burst index = (.ok readWord, map') ∧
      Backs ram (memory.behind burst (index + 1)) map' ∧
      burst.HasRead (index + 1) memory.contents (match readWord with
        | some word => readWords.set index word
        | none => readWords) := by
  obtain ⟨-, hmapped⟩ := hwithin.beat hindex
  unfold MemoryMap.executeBurstBeat
  cases burst with
  | readWords baseAddr beats kind =>
    obtain ⟨device', hbytes, hagrees⟩ := loadBytesFrom_eq h.agrees
      (BurstRequest.beatAddr (.readWords baseAddr beats kind) index) 0 4 fun i _ hlt => hmapped i (by omega)
    dsimp only
    rw [hbytes]
    refine ⟨_, _, rfl, h.setDevice hagrees, ?_⟩
    have hword := BusRequest.fromLeBytes_padBytes memory.contents
      (BurstRequest.beatAddr (.readWords baseAddr beats kind) index)
    dsimp only
    rw [show (memory.behind (.readWords baseAddr beats kind) index).contents = memory.contents from rfl, hword]
    exact hwords.set hindex
  | writeWords baseAddr words =>
    have hstart : Agrees memory.mapped
        ((memory.behind (.writeWords baseAddr words) index).contents.store
          ⟨BurstRequest.beatAddr (.writeWords baseAddr words) index, 0, words[index]?.getD 0⟩)
        (map.device ram) := by
      rw [ByteMemory.store_zero]
      exact h.agrees
    obtain ⟨device', hstored, hagrees⟩ := storeBytesFrom_eq (toLeBytes (words[index]?.getD 0)).toList 0 hstart
      (fun i hi => by
        rw [Nat.zero_add]
        exact (toLeBytes _).getElem?_toList.symm.trans (List.getElem?_eq_getElem hi))
      fun i _ hlt => hmapped i (by simpa using hlt)
    have hsucc := BurstRequest.effectUpTo_succ (show index < words.length from hindex)
      (show baseAddr.toNat + 4 * words.length ≤ 2 ^ 64 from hwithin.fits) memory.contents
    dsimp only
    rw [hstored]
    refine ⟨_, _, rfl, ?_, hwords.of_write _⟩
    unfold FlatMemory.behind
    rw [hsucc]
    exact h.setDevice hagrees

/-- What a step of a burst leaves. -/
structure Stepped (ram : Fin n) (burst : BurstRequest) (memory : FlatMemory) (active active' : ActiveBurst n)
    (map : MemoryMap D n) : Prop where
  sameId : active'.id = active.id
  sameDevice : active'.deviceIndex = active.deviceIndex
  sameRequest : active'.request = active.request
  beat : AtBeat ram burst memory active' map
  words : burst.HasRead active'.beatIndex memory.contents active'.readWords
  -- an accepted burst is one beat further
  further : ∀ beat beats, active'.phase = .accepted beat beats → active.beatIndex < active'.beatIndex

theorem stepped_completeBeat {active : ActiveBurst n} (hdevice : active.deviceIndex = ram)
    (hrequest : active.request = burst) (hwithin : burst.Within memory.mapped)
    (hindex : active.beatIndex < burst.beats)
    (hwords : burst.HasRead active.beatIndex memory.contents active.readWords)
    (hbacks : Backs ram (memory.behind burst active.beatIndex) map) :
    Stepped ram burst memory active (ActiveBurst.advanced active (map.completeBeat active).1)
      (map.completeBeat active).2 := by
  obtain ⟨readWord, map', hexecute, hbacks', hwords'⟩ := hbacks.executeBurstBeat hwithin hindex hwords
  unfold completeBeat
  rw [hdevice, hrequest, hexecute]
  refine ⟨rfl, rfl, rfl, ⟨hbacks', ?_⟩, hwords', fun _ _ _ => Nat.lt_succ_self _⟩
  unfold ActiveBurst.advanced
  dsimp only
  rw [hrequest]
  by_cases hlast : active.beatIndex + 1 = burst.beats
  · rw [if_pos hlast]
    exact hlast
  · rw [if_neg hlast]
    show active.beatIndex + 1 < burst.beats
    omega

/-- A step of a burst that is not at its end. -/
theorem stepped_stepBurst {active : ActiveBurst n} (h : InTransfer ram burst memory active map)
    (hphase : ∀ completedBeats, active.phase ≠ .ready completedBeats) :
    Stepped ram burst memory active (ActiveBurst.advanced active (map.stepBurst active).1)
      (map.stepBurst active).2 := by
  obtain ⟨hbacks, hindex⟩ := h.beat
  unfold stepBurst
  split
  · rename_i hcase
    rw [hcase] at hindex
    have hasked := hbacks.askLatency (active.request.beatAddr active.beatIndex) active.request.beatKind 4
    rw [← h.sameDevice] at hasked
    dsimp only
    split
    · exact stepped_completeBeat h.sameDevice h.sameRequest h.within hindex h.words
        (h.sameDevice ▸ hasked)
    · exact ⟨rfl, rfl, rfl, ⟨h.sameDevice ▸ hasked, hindex⟩, h.words, nofun⟩
  · rename_i hcase
    rw [hcase] at hindex
    split
    · exact ⟨rfl, rfl, rfl, ⟨hbacks, hindex⟩, h.words, nofun⟩
    · exact stepped_completeBeat h.sameDevice h.sameRequest h.within hindex h.words hbacks
  · rename_i phase hnotAccepted hnotInFlight
    cases hcase : active.phase with
    | accepted beat beats => exact absurd hcase (hnotAccepted _ _)
    | inFlight beat beats remainingCycles => exact absurd hcase (hnotInFlight _ _ _)
    | ready completedBeats => exact absurd hcase (hphase _)
    | failed error =>
      rw [hcase] at hindex
      exact hindex.elim

/-- **A step of the burst.** -/
theorem InTransfer.step {active : ActiveBurst n} (h : InTransfer ram burst memory active map) :
    ∃ active', InTransfer ram burst memory active' (map.advanceBurstAt 0) ∧ active'.id = active.id ∧
      ∀ beat beats, active'.phase = .accepted beat beats → active.beatIndex < active'.beatIndex := by
  have hsame := map.sameTraffic_stepBurst active
  have hget : map.activeBursts[0]? = some active := by
    rw [h.bursts]
    rfl
  have hadvance : map.advanceBurstAt 0 = { (map.stepBurst active).2 with
      activeBursts := [ActiveBurst.advanced active (map.stepBurst active).1] } := by
    unfold advanceBurstAt
    rw [hget]
    dsimp only
    rw [hsame.activeBursts, h.bursts]
    rfl
  rw [hadvance]
  by_cases hphase : ∃ completedBeats, active.phase = .ready completedBeats
  · -- a burst at its end is left as it is
    obtain ⟨completedBeats, hphase⟩ := hphase
    have hstep : map.stepBurst active = (.phase active.phase, map) := by
      unfold stepBurst
      rw [hphase]
    have hactive : ActiveBurst.advanced active (.phase active.phase) = active := rfl
    rw [hstep]
    dsimp only
    rw [hactive]
    refine ⟨active, ⟨h.transactions, rfl, h.compat, h.within, h.sameDevice, h.sameRequest, h.words,
      h.beat.1.of_devices rfl, h.beat.2⟩, rfl, fun beat beats haccepted => ?_⟩
    rw [hphase] at haccepted
    cases haccepted
  · rw [not_exists] at hphase
    have hstep := stepped_stepBurst h hphase
    refine ⟨_, ⟨hsame.activeTransactions.trans h.transactions, rfl, hsame.compatTransaction.trans h.compat,
      h.within, hstep.sameDevice.trans h.sameDevice, hstep.sameRequest.trans h.sameRequest, hstep.words,
      hstep.beat.1.of_devices rfl, hstep.beat.2⟩, hstep.sameId, hstep.further⟩

theorem InTransfer.found {active : ActiveBurst n} (h : InTransfer ram burst memory active map) :
    map.burstIndex active.id = some 0 ∧ map.burst active.id = some active := by
  have hindex : map.burstIndex active.id = some 0 := by
    unfold burstIndex
    rw [h.bursts]
    simp
  refine ⟨hindex, ?_⟩
  unfold MemoryMap.burst
  rw [hindex, h.bursts]
  rfl

/-- A burst that is accepted. -/
theorem QuietAs.submitBurst (h : QuietAs memory map) (hwithin : burst.Within memory.mapped) :
    ∃ ram active map', map.submitBurst burst = (.ok active.id, map') ∧
      InTransfer ram burst memory active map' := by
  obtain ⟨ram, hbacks⟩ := h.backs
  have hbeats := hwithin.beats_pos
  have hfind (index : Nat) (hindex : index < burst.beats) :
      map.findDeviceIndex (burst.beatAddr index) = some ram := by
    refine hbacks.find _ ?_
    have hfirst := (hwithin.beat hindex).2 0 (by decide)
    rwa [show BitVec.ofNat 64 0 = 0#64 from rfl, BitVec.add_zero] at hfirst
  have hbase : map.findDeviceIndex burst.baseAddr = some ram := by
    have hfirst := hfind 0 hbeats
    rwa [burst.beatAddr_eq, ByteMemory.wordAddr, Nat.mul_zero, show BitVec.ofNat 64 0 = 0#64 from rfl,
      BitVec.add_zero] at hfirst
  have hcrossing : map.crossing burst ram = none := by
    unfold crossing
    rw [List.findSome?_eq_none_iff]
    intro index hmem
    have hlt : index < burst.beats := List.mem_range.1 (List.mem_of_mem_drop hmem)
    dsimp only
    rw [hfind index hlt, if_neg (not_not.2 rfl)]
  have hstart : Backs ram (memory.behind burst 0) map := by
    unfold FlatMemory.behind
    rw [burst.effectUpTo_zero]
    exact hbacks
  let active : ActiveBurst n :=
    { id := map.nextTransactionId, deviceIndex := ram, request := burst, beatIndex := 0
      readWords := List.replicate burst.beats 0, phase := .accepted 0 burst.beats }
  refine ⟨ram, active, { map with
    nextTransactionId := map.nextTransactionId + 1, activeBursts := [active] }, ?_, h.transactions, rfl,
    h.compat, hwithin, rfl, rfl, .zero burst memory.contents, hstart.of_devices rfl, hbeats⟩
  unfold MemoryMap.submitBurst
  rw [if_neg (by omega), hbase]
  dsimp only
  rw [hcrossing, h.bursts]
  rfl

/-- The response of a burst whose beats are done. -/
theorem InTransfer.response {active : ActiveBurst n} (h : InTransfer ram burst memory active map)
    (hindex : active.beatIndex = burst.beats) (completedBeats : Nat) :
    burst.AnsweredBy memory.contents (ActiveBurst.response active completedBeats) := by
  have hwords := h.words
  rw [hindex] at hwords
  unfold ActiveBurst.response
  rw [h.sameRequest]
  exact hwords.answeredBy h.within.kind completedBeats

/-! ## The contract -/

omit [MemoryDevice D] in
/-- A tick: the request, or the burst, goes a step further, and then the devices do. -/
theorem tick_quiet (htransactions : map.activeTransactions = []) (hbursts : map.activeBursts = []) :
    map.tick = map.tickDevices := by
  unfold MemoryMap.tick
  rw [htransactions]
  show ((List.range map.activeBursts.length).foldl advanceBurstAt map).tickDevices = _
  rw [hbursts]
  rfl

theorem InSlot.tick_eq {active : ActiveTransaction n} (h : InSlot ram request memory active map) :
    map.tick = (map.advanceTransactionAt 0).tickDevices := by
  unfold MemoryMap.tick
  rw [h.transactions]
  show ((List.range (map.advanceTransactionAt 0).activeBursts.length).foldl advanceBurstAt
    (map.advanceTransactionAt 0)).tickDevices = _
  rw [h.step.2.bursts]
  rfl

theorem InTransfer.tick_eq {active : ActiveBurst n} (h : InTransfer ram burst memory active map) :
    map.tick = (map.advanceBurstAt 0).tickDevices := by
  unfold MemoryMap.tick
  rw [h.transactions]
  show ((List.range map.activeBursts.length).foldl advanceBurstAt map).tickDevices = _
  rw [h.bursts]
  rfl

theorem InTransfer.phase {active : ActiveBurst n} (h : InTransfer ram burst memory active map) :
    map.burstPhase active.id = some active.phase := by
  unfold MemoryMap.burstPhase
  rw [h.found.2]
  rfl

theorem InTransfer.rounds {active : ActiveBurst n} (h : InTransfer ram burst memory active map) :
    map.burstRounds active.id = burst.beats + 1 - active.beatIndex := by
  unfold MemoryMap.burstRounds
  rw [h.found.2]
  dsimp only
  rw [h.sameRequest]

theorem InTransfer.le {active : ActiveBurst n} (h : InTransfer ram burst memory active map) :
    active.beatIndex ≤ burst.beats := by
  have hbeat := h.beat.2
  split at hbeat
  · exact hbeat.le
  · exact hbeat.le
  · exact hbeat.le
  · exact hbeat.elim

theorem InTransfer.advanceBurst_eq {active : ActiveBurst n} (h : InTransfer ram burst memory active map) :
    map.advanceBurst active.id =
      ((map.advanceBurstAt 0).burstPhase active.id, map.advanceBurstAt 0) := by
  unfold MemoryMap.advanceBurst
  rw [h.found.1]

/-- **A memory map is a memory** where one memory device backs it. -/
instance : MemoryContract (MemoryMap D n) where
  Quiet := QuietAs
  Awaiting := AwaitingAs
  Bursting id burst memory map := ∃ ram active, active.id = id ∧ InTransfer ram burst memory active map
  quiet_tick {memory map} h := by
    obtain ⟨ram, hbacks⟩ := h.backs
    show map.tick.QuietAs memory
    rw [tick_quiet h.transactions h.bursts]
    exact ⟨h.transactions, h.bursts, h.compat, ram, hbacks.tickDevices⟩
  awaiting_tick {request memory map} h := by
    obtain ⟨ram, active, h⟩ := h
    have hnext := h.step.2
    refine ⟨ram, { active with phase := (map.stepTransaction active).1 }, ?_⟩
    show InSlot ram request memory _ map.tick
    rw [h.tick_eq]
    exact { hnext with performs := hnext.performs.tickDevices }
  bursting_tick {id burst memory map} h := by
    obtain ⟨ram, active, rfl, h⟩ := h
    obtain ⟨active', hnext, hid, -⟩ := h.step
    refine ⟨ram, active', hid, ?_⟩
    show InTransfer ram burst memory active' map.tick
    rw [h.tick_eq]
    exact { hnext with beat := ⟨hnext.beat.1.tickDevices, hnext.beat.2⟩ }
  not_busy {memory map} h := by
    show (!map.activeTransactions.isEmpty || !map.activeBursts.isEmpty) = false
    rw [h.transactions, h.bursts]
    rfl
  call_quiet haligned hmaps h := (h.performRequest hmaps).call haligned
  call_awaiting haligned _ h := h.performRequest.call haligned
  submit {burst memory map} hwithin h := by
    obtain ⟨ram, active, map', hsubmit, hburst⟩ := h.submitBurst hwithin
    exact ⟨active.id, map', hsubmit, ram, active, rfl, hburst⟩
  phase {id burst memory map} h := by
    obtain ⟨ram, active, rfl, h⟩ := h
    refine ⟨active.phase, h.phase, fun error hphase => ?_⟩
    have hbeat := h.beat.2
    rw [hphase] at hbeat
    exact hbeat
  advance {id burst memory map} h := by
    obtain ⟨ram, active, rfl, h⟩ := h
    obtain ⟨active', hnext, hid, -⟩ := h.step
    show (map.advanceBurst active.id).1 = (map.advanceBurst active.id).2.burstPhase active.id ∧
      ∃ ram active', active'.id = active.id ∧ InTransfer ram burst memory active' (map.advanceBurst active.id).2
    rw [h.advanceBurst_eq]
    exact ⟨rfl, ram, active', hid, hnext⟩
  take {id burst memory map beats} h hphase := by
    obtain ⟨ram, active, rfl, h⟩ := h
    have hready : active.phase = .ready beats := Option.some.inj (h.phase.symm.trans hphase)
    obtain ⟨hbacks, hindex⟩ := h.beat
    rw [hready] at hindex
    have hcleared : swapRemove map.activeBursts 0 = [] := by
      rw [h.bursts]
      rfl
    refine ⟨ActiveBurst.response active beats,
      { map with activeBursts := swapRemove map.activeBursts 0 }, ?_, h.response hindex beats,
      h.transactions, hcleared, h.compat, ram, ?_⟩
    · show map.takeBurstResponse active.id = _
      unfold MemoryMap.takeBurstResponse
      rw [h.found.1, h.found.2]
      dsimp only
      rw [hready]
    · unfold FlatMemory.behind at hbacks
      rw [hindex, burst.effectUpTo_beats] at hbacks
      exact hbacks.of_devices rfl
  rounds_pos {id burst memory map} h := by
    obtain ⟨ram, active, rfl, h⟩ := h
    have hle := h.le
    show 1 ≤ map.burstRounds active.id
    rw [h.rounds]
    omega
  rounds_accepted {id burst memory map beat beats} h hphase := by
    obtain ⟨ram, active, rfl, h⟩ := h
    have haccepted : active.phase = .accepted beat beats := Option.some.inj (h.phase.symm.trans hphase)
    have hindex := h.beat.2
    rw [haccepted] at hindex
    show 2 ≤ map.burstRounds active.id
    have hlt : active.beatIndex < burst.beats := hindex
    rw [h.rounds]
    omega
  rounds_advance {id burst memory map beat beats beat' beats'} h hphase hphase' := by
    obtain ⟨ram, active, rfl, h⟩ := h
    obtain ⟨active', hnext, hid, hfurther⟩ := h.step
    have hafter : BurstBus.advanceBurst map active.id = (_, map.advanceBurstAt 0) := h.advanceBurst_eq
    rw [hafter] at hphase' ⊢
    dsimp only at hphase' ⊢
    rw [← hid] at hphase'
    have hlt := hfurther beat' beats' (Option.some.inj (hnext.phase.symm.trans hphase'))
    have hle := h.le
    show (map.advanceBurstAt 0).burstRounds active.id < map.burstRounds active.id
    rw [h.rounds, ← hid, hnext.rounds]
    omega

end MemoryMap

end RvSim
