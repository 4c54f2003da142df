import RvSim.System.Accesses
import RvSim.System.Compat

/-!
# The history of every request

A ledger is a memory map whose devices keep records, with what has happened to each request since it was
accepted: the latency that its device was asked for, each cycle that was counted down, each access that its
device has recorded, and the answer that a take delivered.

## Main definitions

* `RequestEvent`: what can happen to a request
* `TransactionHistory`, `BurstHistory`: the histories that belong to a request in its phase
* `Taken`, `Ledger`, `Ledger.apply`: the memory map with its histories, and the calls of all clients

## Main results

* `Ledger.apply_map`: the histories do not change what the memory map does
* `TransactionHistory.step`, `BurstHistory.step`: a step of a request continues its history, by the calls that
  its device has recorded
-/

namespace RvSim

/-- What can happen to a request: a cycle is counted down, or a device is called. -/
inductive RequestEvent (n : Nat)
  | counted
  | call (device : Fin n) (call : DeviceCall)

/-- The device of a request is asked for its latency, and some cycles of it are counted down. -/
def waited {n : Nat} (device : Fin n) (addr : Address) (kind : AccessKind) (width : Nat) (latency : U32)
    (count : Nat) : List (RequestEvent n) :=
  .call device (.latency addr kind width latency) :: List.replicate count .counted

/-- The accesses of a device. -/
def accessed {n : Nat} (device : Fin n) (accesses : List ByteAccess) : List (RequestEvent n) :=
  accesses.map fun access => .call device (.access access)

section Waited

variable {n : Nat} {device : Fin n} {addr : Address} {kind : AccessKind} {width : Nat}

theorem waited_succ (latency : U32) (count : Nat) : waited device addr kind width latency (count + 1) =
    waited device addr kind width latency count ++ [.counted] := by
  unfold waited
  rw [List.replicate_succ', List.cons_append]

/-- The last cycle of a latency. -/
theorem eq_one_of_not_lt {remaining : U32} (hne : remaining ≠ 0) (hlt : ¬ 1 < remaining) :
    remaining.toNat = 1 := by
  have hle := BitVec.not_lt.1 hlt
  rw [BitVec.le_def, show (1 : U32).toNat = 1 from rfl] at hle
  have hpos : remaining.toNat ≠ 0 := fun h => hne (BitVec.eq_of_toNat_eq h)
  omega

/-- One more cycle is counted. -/
theorem waited_counted {latency remaining : U32} (hle : remaining ≤ latency) (hlt : 1 < remaining) :
    remaining - 1 ≠ 0 ∧ remaining - 1 ≤ latency ∧
      waited device addr kind width latency (latency.toNat - remaining.toNat) ++ [.counted] =
        waited device addr kind width latency (latency.toNat - (remaining - 1).toNat) := by
  rw [BitVec.le_def] at hle
  rw [BitVec.lt_def, show (1 : U32).toNat = 1 from rfl] at hlt
  have hsub : (remaining - 1).toNat = remaining.toNat - 1 := by
    rw [BitVec.toNat_sub_of_le (BitVec.le_def.2 (by rw [show (1 : U32).toNat = 1 from rfl]; omega))]
    rfl
  refine ⟨fun h => ?_, ?_, ?_⟩
  · have hzero := congrArg BitVec.toNat h
    rw [hsub, show (0 : U32).toNat = 0 from rfl] at hzero
    omega
  · rw [BitVec.le_def, hsub]
    omega
  · rw [← waited_succ, hsub]
    congr 1
    omega

/-- The whole latency is counted. -/
theorem waited_last {latency remaining : U32} (hle : remaining ≤ latency) (hone : remaining.toNat = 1)
    (events : List (RequestEvent n)) :
    waited device addr kind width latency (latency.toNat - remaining.toNat) ++ .counted :: events =
      waited device addr kind width latency latency.toNat ++ events := by
  rw [BitVec.le_def] at hle
  rw [← List.singleton_append, ← List.append_assoc, ← waited_succ, hone]
  congr 2
  omega

end Waited

/-! ## Transactions -/

/-- The device of a transaction is asked for its latency, and some cycles of it are counted down. -/
def ActiveTransaction.waited {n : Nat} (active : ActiveTransaction n) (latency : U32) (count : Nat) :
    List (RequestEvent n) :=
  RvSim.waited active.deviceIndex active.request.addr active.request.kind active.request.width latency count

/-- The history of a transaction in its phase: it waits for its latency, and then performs its accesses. -/
def TransactionHistory {n : Nat} (active : ActiveTransaction n) (history : List (RequestEvent n)) : Prop :=
  match active.phase with
  | .accepted => history = []
  | .inFlight remaining => remaining ≠ 0 ∧ ∃ latency, remaining ≤ latency ∧
    history = active.waited latency (latency.toNat - remaining.toNat)
  | .ready response => ∃ latency accesses, active.request.Performed (.ok response) accesses ∧
    history = active.waited latency latency.toNat ++ accessed active.deviceIndex accesses
  | .failed error => ∃ latency accesses, active.request.Performed (.error error) accesses ∧
    history = active.waited latency latency.toNat ++ accessed active.deviceIndex accesses

/-! ## Bursts -/

/-- The device of a burst is asked for the latency of a beat, and some cycles of it are counted down. -/
def BurstRequest.waited {n : Nat} (request : BurstRequest) (device : Fin n) (beatIndex : Nat) (latency : U32)
    (count : Nat) : List (RequestEvent n) :=
  RvSim.waited device (request.beatAddr beatIndex) request.beatKind 4 latency count

/-- A beat that has been performed. -/
structure BeatRecord where
  latency : U32
  accesses : List ByteAccess
  readWord : Option U32

/-- What has happened to the beats of a burst, from one on. -/
def BurstRequest.beatEvents {n : Nat} (request : BurstRequest) (device : Fin n) (beatIndex : Nat) :
    List BeatRecord → List (RequestEvent n)
  | [] => []
  | beat :: beats =>
    request.waited device beatIndex beat.latency beat.latency.toNat ++ accessed device beat.accesses ++
      request.beatEvents device (beatIndex + 1) beats

/-- What has happened to the beat that a burst is at. -/
def BeatHistory {n : Nat} (active : ActiveBurst n) (history : List (RequestEvent n)) : Prop :=
  match active.phase with
  | .accepted beatIndex totalBeats => beatIndex = active.beatIndex ∧ totalBeats = active.request.beats ∧
    active.beatIndex < active.request.beats ∧ history = []
  | .inFlight beatIndex totalBeats remaining => beatIndex = active.beatIndex ∧
    totalBeats = active.request.beats ∧ active.beatIndex < active.request.beats ∧ remaining ≠ 0 ∧
    ∃ latency, remaining ≤ latency ∧
      history = active.request.waited active.deviceIndex active.beatIndex latency (latency.toNat - remaining.toNat)
  | .ready completedBeats => completedBeats = active.request.beats ∧
    active.beatIndex = active.request.beats ∧ history = []
  | .failed error => active.beatIndex < active.request.beats ∧ ∃ latency accesses,
    active.request.PerformedBeat active.beatIndex (.error error) accesses ∧
    history = active.request.waited active.deviceIndex active.beatIndex latency latency.toNat ++
      accessed active.deviceIndex accesses

/-- The history of a burst: the beats that it has performed, one after the other, and the beat it is at. A
burst that reads holds their words. -/
def BurstHistory {n : Nat} (active : ActiveBurst n) (history : List (RequestEvent n)) : Prop :=
  ∃ (beats : List BeatRecord) (current : List (RequestEvent n)), beats.length = active.beatIndex ∧
    (∀ i beat, beats[i]? = some beat →
      active.request.PerformedBeat i (.ok beat.readWord) beat.accesses) ∧
    active.readWords = beats.map (fun beat => beat.readWord.getD 0) ++
      List.replicate (active.request.beats - active.beatIndex) 0 ∧
    BeatHistory active current ∧ history = active.request.beatEvents active.deviceIndex 0 beats ++ current

theorem BurstRequest.beatEvents_append {n : Nat} (request : BurstRequest) (device : Fin n) (beatIndex : Nat)
    (beats more : List BeatRecord) : request.beatEvents device beatIndex (beats ++ more) =
      request.beatEvents device beatIndex beats ++
        request.beatEvents device (beatIndex + beats.length) more := by
  induction beats generalizing beatIndex with
  | nil => rfl
  | cons beat beats ih =>
    rw [List.cons_append, beatEvents, beatEvents, ih, ← List.append_assoc, List.length_cons,
      show beatIndex + (beats.length + 1) = beatIndex + 1 + beats.length by omega]

/-! ## What a step adds -/

/-- The calls of a device among the events. -/
def calledOn {n : Nat} (index : Fin n) (events : List (RequestEvent n)) : List DeviceCall :=
  events.filterMap fun
    | .counted => none
    | .call device call => if device = index then some call else none

namespace MemoryMap

variable {D : Type} {n : Nat}

/-- The calls that a device has recorded since. -/
def recordedEvents (map map' : MemoryMap (Recorded D) n) (index : Fin n) : List (RequestEvent n) :=
  (map.newCalls map' index).map (.call index)

variable [Addressable D]

/-- What happens to a transaction in its next step: a cycle is counted down, and its device is called. -/
def transactionEvents (map : MemoryMap (Recorded D) n) (active : ActiveTransaction n) :
    List (RequestEvent n) :=
  (match active.phase with
    | .inFlight _ => [.counted]
    | _ => []) ++ map.recordedEvents (map.stepTransaction active).2 active.deviceIndex

/-- What happens to a burst in its next step: a cycle is counted down, and its device is called. -/
def burstEvents (map : MemoryMap (Recorded D) n) (active : ActiveBurst n) : List (RequestEvent n) :=
  (match active.phase with
    | .inFlight _ _ _ => [.counted]
    | _ => []) ++ map.recordedEvents (map.stepBurst active).2 active.deviceIndex

end MemoryMap

section Step

variable {D : Type} {n : Nat}

theorem MemoryMap.Records.events {map map' : MemoryMap (Recorded D) n} {index : Fin n}
    {calls : List DeviceCall} (h : map.Records map' index calls) :
    map.recordedEvents map' index = calls.map (.call index) := by
  unfold MemoryMap.recordedEvents
  rw [h.newCalls_eq]

/-- The events of a device are the calls that it has recorded. -/
theorem MemoryMap.Records.calledOn {map map' : MemoryMap (Recorded D) n} {index : Fin n}
    {calls : List DeviceCall} (h : map.Records map' index calls) (other : Fin n) :
    (map'.device other).record =
      (map.device other).record ++ RvSim.calledOn other (calls.map (.call index)) := by
  rw [h other]
  unfold RvSim.calledOn
  rw [List.filterMap_map]
  by_cases hindex : index = other
  · subst hindex
    rw [if_pos rfl]
    simp
  · rw [if_neg (Ne.symm hindex)]
    simp [hindex]

theorem calledOn_append (index : Fin n) (events more : List (RequestEvent n)) :
    calledOn index (events ++ more) = calledOn index events ++ calledOn index more := List.filterMap_append

variable [Addressable D]

/-- The calls of the events of a step are the ones that the devices have recorded. -/
theorem MemoryMap.Records.transactionEvents {map : MemoryMap (Recorded D) n} {active : ActiveTransaction n}
    {calls : List DeviceCall} (h : map.Records (map.stepTransaction active).2 active.deviceIndex calls)
    (other : Fin n) : ((map.stepTransaction active).2.device other).record =
      (map.device other).record ++ RvSim.calledOn other (map.transactionEvents active) := by
  unfold MemoryMap.transactionEvents
  rw [h.calledOn other, h.events, calledOn_append]
  cases active.phase <;> rfl

theorem MemoryMap.Records.burstEvents {map : MemoryMap (Recorded D) n} {active : ActiveBurst n}
    {calls : List DeviceCall} (h : map.Records (map.stepBurst active).2 active.deviceIndex calls)
    (other : Fin n) : ((map.stepBurst active).2.device other).record =
      (map.device other).record ++ RvSim.calledOn other (map.burstEvents active) := by
  unfold MemoryMap.burstEvents
  rw [h.calledOn other, h.events, calledOn_append]
  cases active.phase <;> rfl

/-- A transaction that is performed. -/
theorem TransactionHistory.complete (active : ActiveTransaction n) (map : MemoryMap (Recorded D) n)
    (latency : U32) : ∃ accesses,
    map.Records (map.completeRequest active).2 active.deviceIndex (accesses.map .access) ∧
      TransactionHistory { active with phase := (map.completeRequest active).1 }
        (active.waited latency latency.toNat ++ accessed active.deviceIndex accesses) := by
  obtain ⟨accesses, hanswer, hrecords⟩ := map.executeRequest_performed active.deviceIndex active.request
  unfold MemoryMap.completeRequest
  generalize map.executeRequest active.deviceIndex active.request = out at hanswer hrecords ⊢
  obtain ⟨error | response, after⟩ := out
  · exact ⟨accesses, hrecords, latency, accesses, hanswer, rfl⟩
  · exact ⟨accesses, hrecords, latency, accesses, hanswer, rfl⟩

/-- **A step of a transaction** continues its history, by the calls that its device has recorded. -/
theorem TransactionHistory.step {active : ActiveTransaction n} {history : List (RequestEvent n)}
    (h : TransactionHistory active history) (map : MemoryMap (Recorded D) n) :
    (∃ calls, map.Records (map.stepTransaction active).2 active.deviceIndex calls) ∧
      TransactionHistory { active with phase := (map.stepTransaction active).1 }
        (history ++ map.transactionEvents active) := by
  unfold MemoryMap.transactionEvents
  have hasked := map.records_askLatency active.deviceIndex active.request.addr active.request.kind
    active.request.width
  unfold TransactionHistory at h
  split at h
  · rename_i hphase
    rw [hphase, h]
    have hstep : map.stepTransaction active =
        if Addressable.accessLatency (map.device active.deviceIndex) active.request.addr
            active.request.kind active.request.width = 0 then
          (map.askLatency active.deviceIndex active.request.addr active.request.kind
            active.request.width).completeRequest active
        else (.inFlight (Addressable.accessLatency (map.device active.deviceIndex) active.request.addr
            active.request.kind active.request.width),
          map.askLatency active.deviceIndex active.request.addr active.request.kind
            active.request.width) := by
      unfold MemoryMap.stepTransaction
      rw [hphase]
    rw [hstep]
    generalize Addressable.accessLatency (map.device active.deviceIndex) active.request.addr
      active.request.kind active.request.width = latency at hasked ⊢
    -- without a latency the access is performed in the tick in which the request is taken up
    by_cases hzero : latency = 0
    · rw [if_pos hzero]
      obtain ⟨accesses, hrecords, hhistory⟩ := TransactionHistory.complete active
        (map.askLatency active.deviceIndex active.request.addr active.request.kind active.request.width)
        latency
      have hboth := hasked.trans hrecords
      refine ⟨⟨_, hboth⟩, ?_⟩
      rw [hboth.events, List.map_append, List.map_map]
      rw [hzero] at hhistory ⊢
      exact hhistory
    · rw [if_neg hzero]
      refine ⟨⟨_, hasked⟩, hzero, latency, BitVec.le_refl _, ?_⟩
      rw [hasked.events, Nat.sub_self]
      rfl
  · rename_i remaining hphase
    -- one more cycle is counted, and the last one performs
    obtain ⟨hne, latency, hle, rfl⟩ := h
    rw [hphase]
    have hstep : map.stepTransaction active =
        if 1 < remaining then (.inFlight (remaining - 1), map) else map.completeRequest active := by
      unfold MemoryMap.stepTransaction
      rw [hphase]
    rw [hstep]
    split
    · rename_i hlt
      have hsame : map.Records map active.deviceIndex [] := .of_devices rfl _
      obtain ⟨hne, hle, hcounted⟩ := waited_counted hle hlt
      refine ⟨⟨_, hsame⟩, hne, latency, hle, ?_⟩
      rw [hsame.events]
      exact hcounted
    · rename_i hlt
      obtain ⟨accesses, hrecords, hhistory⟩ := TransactionHistory.complete active map latency
      refine ⟨⟨_, hrecords⟩, ?_⟩
      rw [hrecords.events]
      refine Eq.mp (congrArg _ ?_) hhistory
      unfold accessed
      rw [List.map_map]
      exact (waited_last hle (eq_one_of_not_lt hne hlt) _).symm
  · rename_i response hphase
    have hsame : map.Records map active.deviceIndex [] := .of_devices rfl _
    have hstep : map.stepTransaction active = (.ready response, map) := by
      unfold MemoryMap.stepTransaction
      rw [hphase]
    rw [hstep, hsame.events, hphase]
    refine ⟨⟨_, hsame⟩, ?_⟩
    rw [show ([] ++ ([] : List DeviceCall).map (RequestEvent.call active.deviceIndex)) = [] from rfl,
      List.append_nil]
    exact h
  · rename_i error hphase
    have hsame : map.Records map active.deviceIndex [] := .of_devices rfl _
    have hstep : map.stepTransaction active = (.failed error, map) := by
      unfold MemoryMap.stepTransaction
      rw [hphase]
    rw [hstep, hsame.events, hphase]
    refine ⟨⟨_, hsame⟩, ?_⟩
    rw [show ([] ++ ([] : List DeviceCall).map (RequestEvent.call active.deviceIndex)) = [] from rfl,
      List.append_nil]
    exact h

/-- A beat that is performed ends it, and with it perhaps the burst. -/
theorem BurstHistory.complete {active : ActiveBurst n} {beats : List BeatRecord}
    (hlength : beats.length = active.beatIndex) (hlt : active.beatIndex < active.request.beats)
    (hbeats : ∀ i beat, beats[i]? = some beat →
      active.request.PerformedBeat i (.ok beat.readWord) beat.accesses)
    (hwords : active.readWords = beats.map (fun beat => beat.readWord.getD 0) ++
      List.replicate (active.request.beats - active.beatIndex) 0)
    (map : MemoryMap (Recorded D) n) (latency : U32) : ∃ accesses,
    map.Records (map.completeBeat active).2 active.deviceIndex (accesses.map .access) ∧
      BurstHistory (MemoryMap.ActiveBurst.advanced active (map.completeBeat active).1)
        (active.request.beatEvents active.deviceIndex 0 beats ++ (active.request.waited active.deviceIndex active.beatIndex latency latency.toNat ++
          accessed active.deviceIndex accesses)) := by
  obtain ⟨accesses, hanswer, hrecords⟩ :=
    map.executeBurstBeat_performed active.deviceIndex active.request active.beatIndex
  refine ⟨accesses, ?_, ?_⟩
  · unfold MemoryMap.completeBeat
    generalize map.executeBurstBeat active.deviceIndex active.request active.beatIndex = out at hrecords ⊢
    obtain ⟨error | readWord, after⟩ := out <;> exact hrecords
  unfold MemoryMap.completeBeat
  generalize map.executeBurstBeat active.deviceIndex active.request active.beatIndex = out at hanswer ⊢
  obtain ⟨error | readWord, after⟩ := out
  · exact ⟨beats, _, hlength, hbeats, hwords, ⟨hlt, latency, accesses, hanswer, rfl⟩, rfl⟩
  · refine ⟨beats ++ [⟨latency, accesses, readWord⟩], [], ?_, ?_, ?_, ?_, ?_⟩
    · rw [List.length_append, hlength]
      rfl
    · intro i beat hi
      rcases Nat.lt_or_ge i beats.length with hold | hnew
      · rw [List.getElem?_append_left hold] at hi
        exact hbeats i beat hi
      · rw [List.getElem?_append_right hnew] at hi
        have hi' := (List.getElem?_eq_some_iff.1 hi).1
        rw [List.length_singleton] at hi'
        obtain rfl : i = active.beatIndex := by omega
        rw [hlength, Nat.sub_self] at hi
        cases hi
        exact hanswer
    · have hsplit : List.replicate (active.request.beats - active.beatIndex) (0 : U32) =
          0 :: List.replicate (active.request.beats - (active.beatIndex + 1)) 0 := by
        rw [← List.replicate_succ]
        congr 1
        omega
      have hindex : (beats.map fun beat => beat.readWord.getD 0).length = active.beatIndex := by
        rw [List.length_map, hlength]
      rw [hsplit] at hwords
      rw [List.map_append, List.append_assoc]
      cases readWord with
      | some word =>
        show active.readWords.set active.beatIndex word = _
        rw [hwords, List.set_append_right _ _ hindex.le, hindex, Nat.sub_self]
        rfl
      | none => exact hwords
    · show BeatHistory { active with
        readWords := _, beatIndex := active.beatIndex + 1
        phase := if active.beatIndex + 1 = active.request.beats then .ready active.request.beats
          else .accepted (active.beatIndex + 1) active.request.beats } []
      by_cases hlast : active.beatIndex + 1 = active.request.beats
      · rw [if_pos hlast]
        exact ⟨rfl, hlast, rfl⟩
      · rw [if_neg hlast]
        exact ⟨rfl, rfl, show active.beatIndex + 1 < active.request.beats by omega, rfl⟩
    · show _ = active.request.beatEvents active.deviceIndex 0 (beats ++ [⟨latency, accesses, readWord⟩]) ++ []
      rw [BurstRequest.beatEvents_append, List.append_nil, hlength, Nat.zero_add]
      exact congrArg _ (List.append_nil _).symm

/-- **A step of a burst** continues its history, by the calls that its device has recorded. -/
theorem BurstHistory.step {active : ActiveBurst n} {history : List (RequestEvent n)}
    (h : BurstHistory active history) (map : MemoryMap (Recorded D) n) :
    (∃ calls, map.Records (map.stepBurst active).2 active.deviceIndex calls) ∧
      BurstHistory (MemoryMap.ActiveBurst.advanced active (map.stepBurst active).1)
        (history ++ map.burstEvents active) := by
  obtain ⟨beats, current, hlength, hbeats, hwords, hcurrent, rfl⟩ := h
  rw [List.append_assoc]
  unfold MemoryMap.burstEvents
  have hasked := map.records_askLatency active.deviceIndex (active.request.beatAddr active.beatIndex)
    active.request.beatKind 4
  have hsame : map.Records map active.deviceIndex [] := .of_devices rfl _
  unfold BeatHistory at hcurrent
  split at hcurrent
  · rename_i beatIndex totalBeats hphase
    obtain ⟨rfl, rfl, hlt, rfl⟩ := hcurrent
    rw [hphase]
    have hstep : map.stepBurst active =
        if Addressable.accessLatency (map.device active.deviceIndex)
            (active.request.beatAddr active.beatIndex) active.request.beatKind 4 = 0 then
          (map.askLatency active.deviceIndex (active.request.beatAddr active.beatIndex)
            active.request.beatKind 4).completeBeat active
        else (.phase (.inFlight active.beatIndex active.request.beats
            (Addressable.accessLatency (map.device active.deviceIndex)
              (active.request.beatAddr active.beatIndex) active.request.beatKind 4)),
          map.askLatency active.deviceIndex (active.request.beatAddr active.beatIndex)
            active.request.beatKind 4) := by
      unfold MemoryMap.stepBurst
      rw [hphase]
    rw [hstep]
    generalize Addressable.accessLatency (map.device active.deviceIndex)
      (active.request.beatAddr active.beatIndex) active.request.beatKind 4 = latency at hasked ⊢
    -- the beat is performed at once, or its latency is waited for
    by_cases hzero : latency = 0
    · rw [if_pos hzero]
      obtain ⟨accesses, hrecords, hhistory⟩ := BurstHistory.complete hlength hlt hbeats hwords
        (map.askLatency active.deviceIndex (active.request.beatAddr active.beatIndex)
          active.request.beatKind 4) latency
      have hboth := hasked.trans hrecords
      refine ⟨⟨_, hboth⟩, ?_⟩
      rw [hboth.events, List.map_append, List.map_map]
      rw [hzero] at hhistory ⊢
      exact hhistory
    · rw [if_neg hzero]
      refine ⟨⟨_, hasked⟩, beats, _, hlength, hbeats, hwords,
        ⟨rfl, rfl, hlt, hzero, latency, BitVec.le_refl _, ?_⟩, rfl⟩
      rw [hasked.events, Nat.sub_self]
      rfl
  -- one more cycle is counted, and the last one performs
  · rename_i beatIndex totalBeats remaining hphase
    obtain ⟨rfl, rfl, hlt, hne, latency, hle, rfl⟩ := hcurrent
    rw [hphase]
    have hstep : map.stepBurst active =
        if 1 < remaining then
          (.phase (.inFlight active.beatIndex active.request.beats (remaining - 1)), map)
        else map.completeBeat active := by
      unfold MemoryMap.stepBurst
      rw [hphase]
    rw [hstep]
    split
    · rename_i hcycles
      obtain ⟨hne, hle, hcounted⟩ := waited_counted hle hcycles
      refine ⟨⟨_, hsame⟩, beats, _, hlength, hbeats, hwords, ⟨rfl, rfl, hlt, hne, latency, hle, ?_⟩, rfl⟩
      rw [hsame.events]
      exact hcounted
    · rename_i hcycles
      obtain ⟨accesses, hrecords, hhistory⟩ :=
        BurstHistory.complete hlength hlt hbeats hwords map latency
      refine ⟨⟨_, hrecords⟩, ?_⟩
      rw [hrecords.events]
      refine Eq.mp (congrArg _ (congrArg _ ?_)) hhistory
      unfold accessed
      rw [List.map_map]
      exact (waited_last hle (eq_one_of_not_lt hne hcycles) _).symm
  · rename_i completedBeats hphase
    have hstep : map.stepBurst active = (.phase (.ready completedBeats), map) := by
      unfold MemoryMap.stepBurst
      rw [hphase]
    rw [hstep, hsame.events, hphase]
    exact ⟨⟨_, hsame⟩, beats, _, hlength, hbeats, hwords, ⟨hcurrent.1, hcurrent.2.1, by rw [hcurrent.2.2]; rfl⟩, rfl⟩
  · rename_i error hphase
    obtain ⟨hlt, latency, accesses, hfailed, rfl⟩ := hcurrent
    have hstep : map.stepBurst active = (.phase (.failed error), map) := by
      unfold MemoryMap.stepBurst
      rw [hphase]
    rw [hstep, hsame.events, hphase]
    exact ⟨⟨_, hsame⟩, beats, _, hlength, hbeats, hwords,
      ⟨hlt, latency, accesses, hfailed, List.append_nil _⟩, rfl⟩

end Step

/-! ## The ledger -/

/-- A request that has been taken, as it was then, and the answer that the take delivered. -/
inductive Taken (n : Nat)
  | transaction (active : ActiveTransaction n) (answer : Except BusError TransactionResponse)
  | burst (active : ActiveBurst n) (answer : Except BusError BurstResponse)

/-- A memory map whose devices keep records, what has happened to its requests in order, the requests that
have been taken, and the number of requests that were accepted. -/
structure Ledger (D : Type) (n : Nat) where
  map : MemoryMap (Recorded D) n
  log : List (U64 × RequestEvent n) := []
  taken : List (Taken n) := []
  accepted : Nat := 0

namespace Ledger

variable {D : Type} {n : Nat}

/-- What has happened to a request. -/
def history {n : Nat} (log : List (U64 × RequestEvent n)) (id : U64) : List (RequestEvent n) :=
  log.filterMap fun entry => if entry.1 = id then some entry.2 else none

variable [Addressable D]

def advanceTransactionAt (ledger : Ledger D n) (index : Nat) : Ledger D n :=
  match ledger.map.activeTransactions[index]? with
  | none => ledger
  | some active =>
    { ledger with
      map := ledger.map.advanceTransactionAt index
      log := ledger.log ++ (ledger.map.transactionEvents active).map fun event => (active.id, event) }

def advanceBurstAt (ledger : Ledger D n) (index : Nat) : Ledger D n :=
  match ledger.map.activeBursts[index]? with
  | none => ledger
  | some active =>
    { ledger with
      map := ledger.map.advanceBurstAt index
      log := ledger.log ++ (ledger.map.burstEvents active).map fun event => (active.id, event) }

def advanceTransaction (ledger : Ledger D n) (id : U64) : Ledger D n :=
  match ledger.map.transactionIndex id with
  | none => ledger
  | some index => ledger.advanceTransactionAt index

def advanceBurst (ledger : Ledger D n) (id : U64) : Ledger D n :=
  match ledger.map.burstIndex id with
  | none => ledger
  | some index => ledger.advanceBurstAt index

def submitTransaction (ledger : Ledger D n) (request : TransactionRequest) : Ledger D n :=
  match ledger.map.submitTransaction request with
  | (.ok _, map) => { ledger with map, accepted := ledger.accepted + 1 }
  | (.error _, map) => { ledger with map }

def submitBurst (ledger : Ledger D n) (request : BurstRequest) : Ledger D n :=
  match ledger.map.submitBurst request with
  | (.ok _, map) => { ledger with map, accepted := ledger.accepted + 1 }
  | (.error _, map) => { ledger with map }

def takeTransactionResponse (ledger : Ledger D n) (id : U64) : Ledger D n :=
  match ledger.map.transaction id, ledger.map.takeTransactionResponse id with
  | some active, (some answer, map) =>
    { ledger with map, taken := ledger.taken ++ [.transaction active answer] }
  | _, (_, map) => { ledger with map }

def takeBurstResponse (ledger : Ledger D n) (id : U64) : Ledger D n :=
  match ledger.map.burst id, ledger.map.takeBurstResponse id with
  | some active, (some answer, map) =>
    { ledger with map, taken := ledger.taken ++ [.burst active answer] }
  | _, (_, map) => { ledger with map }

/-- The slot of the compatibility path. -/
def withSlot (ledger : Ledger D n) (compatTransaction : Option CompatTransaction) : Ledger D n :=
  { ledger with map := { ledger.map with compatTransaction } }

def answerCompat (ledger : Ledger D n) (compat : CompatTransaction) : Ledger D n :=
  match (ledger.map.takeTransactionResponse compat.id).1 with
  | some _ => (ledger.takeTransactionResponse compat.id).withSlot none
  | none => ledger.takeTransactionResponse compat.id

def awaitCompat (ledger : Ledger D n) (compat : CompatTransaction) : Ledger D n :=
  if ledger.map.transactionPhase compat.id = some .accepted then
    (ledger.advanceTransaction compat.id).answerCompat compat
  else ledger.answerCompat compat

def performRequest (ledger : Ledger D n) (request : TransactionRequest) : Ledger D n :=
  match ledger.map.compatTransaction with
  | some compat =>
    if compat.request ≠ request then ledger
    else if ledger.map.transactionPhase compat.id = none then ledger.withSlot none
    else ledger.awaitCompat compat
  | none =>
    match (ledger.map.submitTransaction request).1 with
    | .ok id =>
      ((ledger.submitTransaction request).withSlot (some { id, request })).awaitCompat { id, request }
    | .error _ => ledger.submitTransaction request

def tick (ledger : Ledger D n) : Ledger D n :=
  let ledger := (List.range ledger.map.activeTransactions.length).foldl advanceTransactionAt ledger
  let ledger := (List.range ledger.map.activeBursts.length).foldl advanceBurstAt ledger
  { ledger with
    map := { ledger.map with
      devices := ledger.map.devices.map fun slot =>
        { slot with device := Addressable.tick slot.device } } }

/-- A call of a client, with what it does to the histories. -/
def apply (ledger : Ledger D n) : MapOp → Ledger D n
  | .request request =>
    if request.transaction.Aligned then ledger.performRequest request.transaction else ledger
  | .submitTransaction request => ledger.submitTransaction request
  | .advanceTransaction id => ledger.advanceTransaction id
  | .takeTransactionResponse id => ledger.takeTransactionResponse id
  | .submitBurst request => ledger.submitBurst request
  | .advanceBurst id => ledger.advanceBurst id
  | .takeBurstResponse id => ledger.takeBurstResponse id
  | .tick => ledger.tick

/-- A device that has not been called. -/
def recorded (slot : DeviceSlot D) : DeviceSlot (Recorded D) := ⟨slot.range, { inner := slot.device }⟩

/-- A memory map in which nothing has been requested. -/
def start (devices : Vector (DeviceSlot D) n) : Ledger D n where
  map := .fresh (devices.map recorded)

/-! ## The histories do not change the map -/

section Erasure

variable (ledger : Ledger D n)

theorem advanceTransactionAt_map (index : Nat) :
    (ledger.advanceTransactionAt index).map = ledger.map.advanceTransactionAt index := by
  unfold advanceTransactionAt
  split
  · rename_i hnone
    unfold MemoryMap.advanceTransactionAt
    rw [hnone]
  · rfl

theorem advanceBurstAt_map (index : Nat) :
    (ledger.advanceBurstAt index).map = ledger.map.advanceBurstAt index := by
  unfold advanceBurstAt
  split
  · rename_i hnone
    unfold MemoryMap.advanceBurstAt
    rw [hnone]
  · rfl

theorem advanceTransaction_map (id : U64) :
    (ledger.advanceTransaction id).map = (ledger.map.advanceTransaction id).2 := by
  unfold advanceTransaction MemoryMap.advanceTransaction
  rcases ledger.map.transactionIndex id with _ | index
  · rfl
  · exact ledger.advanceTransactionAt_map index

theorem advanceBurst_map (id : U64) : (ledger.advanceBurst id).map = (ledger.map.advanceBurst id).2 := by
  unfold advanceBurst MemoryMap.advanceBurst
  rcases ledger.map.burstIndex id with _ | index
  · rfl
  · exact ledger.advanceBurstAt_map index

omit [Addressable D] in
theorem submitTransaction_map (request : TransactionRequest) :
    (ledger.submitTransaction request).map = (ledger.map.submitTransaction request).2 := by
  unfold submitTransaction
  split <;> rename_i hsubmit <;> rw [hsubmit]

omit [Addressable D] in
theorem submitBurst_map (request : BurstRequest) :
    (ledger.submitBurst request).map = (ledger.map.submitBurst request).2 := by
  unfold submitBurst
  split <;> rename_i hsubmit <;> rw [hsubmit]

omit [Addressable D] in
theorem takeTransactionResponse_map (id : U64) :
    (ledger.takeTransactionResponse id).map = (ledger.map.takeTransactionResponse id).2 := by
  unfold takeTransactionResponse
  rcases ledger.map.transaction id with _ | active <;>
    rcases ledger.map.takeTransactionResponse id with ⟨_ | answer, map⟩ <;> rfl

omit [Addressable D] in
theorem takeBurstResponse_map (id : U64) :
    (ledger.takeBurstResponse id).map = (ledger.map.takeBurstResponse id).2 := by
  unfold takeBurstResponse
  rcases ledger.map.burst id with _ | active <;>
    rcases ledger.map.takeBurstResponse id with ⟨_ | answer, map⟩ <;> rfl

omit [Addressable D] in
theorem answerCompat_map (compat : CompatTransaction) :
    (ledger.answerCompat compat).map = (ledger.map.answerCompat compat).2 := by
  have htake := ledger.takeTransactionResponse_map compat.id
  unfold answerCompat MemoryMap.answerCompat
  rcases hanswer : ledger.map.takeTransactionResponse compat.id with ⟨_ | answer, map⟩
  · exact htake.trans (congrArg Prod.snd hanswer)
  · show { (ledger.takeTransactionResponse compat.id).map with compatTransaction := none } = _
    rw [htake, hanswer]

theorem awaitCompat_map (compat : CompatTransaction) :
    (ledger.awaitCompat compat).map = (ledger.map.awaitCompat compat).2 := by
  unfold awaitCompat MemoryMap.awaitCompat
  split
  · rw [answerCompat_map, advanceTransaction_map]
  · exact ledger.answerCompat_map compat

theorem performRequest_map (request : TransactionRequest) :
    (ledger.performRequest request).map = (ledger.map.performRequest request).2 := by
  have hsubmit := ledger.submitTransaction_map request
  unfold performRequest MemoryMap.performRequest
  rcases ledger.map.compatTransaction with _ | compat
  · rcases hanswer : ledger.map.submitTransaction request with ⟨error | id, map⟩
    · exact hsubmit.trans (congrArg Prod.snd hanswer)
    · dsimp only
      rw [awaitCompat_map]
      show (MemoryMap.awaitCompat { (ledger.submitTransaction request).map with
        compatTransaction := some { id, request } } _).2 = _
      rw [hsubmit, hanswer]
  · dsimp only
    split
    · rfl
    · split
      · rfl
      · exact ledger.awaitCompat_map compat

theorem tick_map : ledger.tick.map = ledger.map.tick := by
  have htransactions (indices : List Nat) : ∀ ledger : Ledger D n,
      (indices.foldl advanceTransactionAt ledger).map =
        indices.foldl MemoryMap.advanceTransactionAt ledger.map := by
    induction indices with
    | nil => exact fun _ => rfl
    | cons index indices ih =>
      intro ledger
      rw [List.foldl_cons, List.foldl_cons, ih, advanceTransactionAt_map]
  have hbursts (indices : List Nat) : ∀ ledger : Ledger D n,
      (indices.foldl advanceBurstAt ledger).map = indices.foldl MemoryMap.advanceBurstAt ledger.map := by
    induction indices with
    | nil => exact fun _ => rfl
    | cons index indices ih =>
      intro ledger
      rw [List.foldl_cons, List.foldl_cons, ih, advanceBurstAt_map]
  unfold tick MemoryMap.tick
  dsimp only
  rw [hbursts, htransactions]

/-- The histories do not change what the map does. -/
theorem apply_map (op : MapOp) : (ledger.apply op).map = ledger.map.apply op := by
  cases op with
  | request request =>
    show (if request.transaction.Aligned then ledger.performRequest request.transaction else ledger).map =
      (request.call ledger.map).2
    rcases MemoryMap.call_cases request ledger.map with ⟨haligned, hcall⟩ | ⟨haligned, hcall⟩
    · rw [if_neg haligned, hcall]
    · rw [if_pos haligned, hcall, performRequest_map]
  | submitTransaction request => exact ledger.submitTransaction_map request
  | advanceTransaction id => exact ledger.advanceTransaction_map id
  | takeTransactionResponse id => exact ledger.takeTransactionResponse_map id
  | submitBurst request => exact ledger.submitBurst_map request
  | advanceBurst id => exact ledger.advanceBurst_map id
  | takeBurstResponse id => exact ledger.takeBurstResponse_map id
  | tick => exact ledger.tick_map

end Erasure

end Ledger

end RvSim
