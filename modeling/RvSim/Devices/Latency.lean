import RvSim.Core.Reference
import RvSim.Devices.BlockDevice
import RvSim.Devices.DmaController
import RvSim.Devices.Dram
import RvSim.Devices.InterruptController
import RvSim.Devices.Ram
import RvSim.System.DeviceRelation

/-!
# The latency adapter

A memory map that holds devices behind latency adapters, beside one that holds the devices themselves. The
runs compared carry out the same accesses and ticks in the same order; when a request was made, and how long
it waited, may differ.

The adapter does not forward `machine_time`: a time source behind an adapter is lost.

## Main definitions

* `QuietLatency`: being asked for a latency shows in latencies only
* `BusCall`, `calls`, `answers`: what a run carries out, and what it answers
* `HidesTime`, `TimeShown`: an adapter is in front of the time that the map should report

## Main results

* `latencyAdapter_run`: the answers and interrupts are the same, and the time is exactly if it is shown
-/

namespace RvSim

/-! ## Latency queries -/

/-- A device that looks the same after a latency query, but for later latencies. -/
class QuietLatency (D : Type) [Addressable D] where
  Same : D → D → Prop
  refl : ∀ device, Same device device
  asked : ∀ {device other} addr kind width, Same device other →
    Same (Addressable.latencyAsked device addr kind width) other
  alike : AnswerAlike Same
  tick : ∀ {device other}, Same device other → Same (Addressable.tick device) (Addressable.tick other)
  machineTime : ∀ {device other : D}, Same device other →
    Addressable.machineTime device = Addressable.machineTime other
  pendingInterrupts : ∀ {device other : D}, Same device other →
    Addressable.pendingInterrupts device = Addressable.pendingInterrupts other

/-- A device that notes nothing. -/
@[reducible] def QuietLatency.ofUnchanged {D : Type} [Addressable D]
    (h : ∀ (device : D) addr kind width, Addressable.latencyAsked device addr kind width = device) :
    QuietLatency D where
  Same := Eq
  refl _ := rfl
  asked addr kind width hsame := (h _ addr kind width).trans hsame
  alike := ⟨fun _ hsame => hsame ▸ ⟨rfl, rfl⟩, fun _ _ hsame => hsame ▸ ⟨rfl, rfl⟩⟩
  tick hsame := hsame ▸ rfl
  machineTime hsame := hsame ▸ rfl
  pendingInterrupts hsame := hsame ▸ rfl

instance : QuietLatency Ram := .ofUnchanged fun _ _ _ _ => rfl
instance : QuietLatency Rom := .ofUnchanged fun _ _ _ _ => rfl
instance : QuietLatency MachineTimer := .ofUnchanged fun _ _ _ _ => rfl
instance : QuietLatency SimpleUart := .ofUnchanged fun _ _ _ _ => rfl
instance : QuietLatency DmaController := .ofUnchanged fun _ _ _ _ => rfl
instance : QuietLatency BlockDevice := .ofUnchanged fun _ _ _ _ => rfl
instance : QuietLatency InterruptController := .ofUnchanged fun _ _ _ _ => rfl

/-! ### The DRAM notes the query in cells that only latencies are made of -/

namespace Dram

/-- Two DRAMs but for their cells. -/
def SameBytes (dram other : Dram) : Prop := dram.range = other.range ∧ dram.data = other.data

theorem sameBytes_commitPendingAccess (dram : Dram) (addr : Address) :
    (dram.commitPendingAccess addr).SameBytes dram := by
  unfold commitPendingAccess
  rcases dram.pendingAccess with _ | pending
  · exact ⟨rfl, rfl⟩
  · dsimp only
    split <;> exact ⟨rfl, rfl⟩

theorem SameBytes.committed {dram other : Dram} (h : dram.SameBytes other) (addr : Address) :
    (dram.commitPendingAccess addr).SameBytes (other.commitPendingAccess addr) := by
  have hleft := dram.sameBytes_commitPendingAccess addr
  have hright := other.sameBytes_commitPendingAccess addr
  exact ⟨hleft.1.trans (h.1.trans hright.1.symm), hleft.2.trans (h.2.trans hright.2.symm)⟩

theorem SameBytes.offset {dram other : Dram} (h : dram.SameBytes other) (addr : Address) :
    dram.offset addr = other.offset addr := by
  unfold Dram.offset
  rw [h.1]

theorem SameBytes.load8 {dram other : Dram} (h : dram.SameBytes other) (addr : Address) :
    (dram.load8 addr).1 = (other.load8 addr).1 ∧ (dram.load8 addr).2.SameBytes (other.load8 addr).2 := by
  have hcommitted := h.committed addr
  unfold Dram.load8
  dsimp only
  rw [hcommitted.offset]
  rcases (other.commitPendingAccess addr).offset addr with error | offset
  · exact ⟨rfl, hcommitted⟩
  · dsimp only
    rw [hcommitted.2]
    rcases (other.commitPendingAccess addr).data[offset]? with _ | byte <;> exact ⟨rfl, hcommitted⟩

theorem SameBytes.store8 {dram other : Dram} (h : dram.SameBytes other) (addr : Address) (value : U8) :
    (dram.store8 addr value).1 = (other.store8 addr value).1 ∧
      (dram.store8 addr value).2.SameBytes (other.store8 addr value).2 := by
  have hcommitted := h.committed addr
  unfold Dram.store8
  dsimp only
  rw [hcommitted.offset]
  rcases (other.commitPendingAccess addr).offset addr with error | offset
  · exact ⟨rfl, hcommitted⟩
  · dsimp only
    rw [hcommitted.2]
    split
    · exact ⟨rfl, hcommitted.1, rfl⟩
    · exact ⟨rfl, hcommitted⟩

instance : QuietLatency Dram where
  Same := SameBytes
  refl _ := ⟨rfl, rfl⟩
  asked _ _ _ h := h
  alike := ⟨fun addr h => h.load8 addr, fun addr value h => h.store8 addr value⟩
  tick h := h
  machineTime _ := rfl
  pendingInterrupts _ := rfl

end Dram

/-! ## What a run carries out -/

/-- What is carried out on the devices. -/
inductive BusCall (n : Nat)
  | access (access : Access n)
  | tick
  deriving DecidableEq

/-- What is carried out, with the answer of an access. -/
inductive BusEvent (n : Nat)
  | access (access : Access n) (answer : AccessAnswer)
  | tick

def BusEvent.call {n : Nat} : BusEvent n → BusCall n
  | .access performed _ => .access performed
  | .tick => .tick

namespace MemoryMap

variable {D : Type} {n : Nat} [Addressable D]

/-- The monitor of what is carried out. -/
def carriedOut (D : Type) (n : Nat) [Addressable D] : Monitor D n (BusEvent n) where
  asked _ _ := []
  performed map access := [.access access (access.perform map).1]
  ticked _ := [.tick]

/-- The accesses and ticks of a run, with their answers. -/
def answers (devices : Vector (DeviceSlot D) n) (ops : List MapOp) : List (BusEvent n) :=
  (Automata.run (carriedOut D n).apply ⟨fresh devices, []⟩ ops).log

/-- The accesses and ticks of a run. -/
def calls (devices : Vector (DeviceSlot D) n) (ops : List MapOp) : List (BusCall n) :=
  (answers devices ops).map BusEvent.call

/-- An access or a tick on the devices alone, with no request and no latency. -/
def carryOut (s : Monitored D n (BusEvent n)) : BusCall n → Monitored D n (BusEvent n)
  | .access access => ⟨(access.perform s.map).2, s.log ++ [.access access (access.perform s.map).1]⟩
  | .tick => ⟨s.map.tickDevices, s.log ++ [.tick]⟩

/-- The accesses and ticks, one after the other. -/
def replay (devices : Vector (DeviceSlot D) n) (calls : List (BusCall n)) : Monitored D n (BusEvent n) :=
  calls.foldl carryOut ⟨fresh devices, []⟩

theorem replay_snoc (devices : Vector (DeviceSlot D) n) (calls : List (BusCall n)) (call : BusCall n) :
    replay devices (calls ++ [call]) = carryOut (replay devices calls) call := by
  unfold replay
  rw [List.foldl_append]
  rfl

end MemoryMap

/-! ## Runs of related maps -/

section Runs

open MemoryMap

variable {A D : Type} {n : Nat} [Addressable A] [Addressable D] {R : A → D → Prop}

/-- The log is that of a replay, and the devices are related to the replayed ones. -/
def Replayed (R : A → D → Prop) (devices : Vector (DeviceSlot D) n) (map : MemoryMap A n)
    (log : List (BusEvent n)) : Prop :=
  (replay devices (log.map BusEvent.call)).log = log ∧
    ∀ index, R (map.device index) ((replay devices (log.map BusEvent.call)).map.device index)

/-- **A run is a replay** of what it carries out, on devices that are alike but for latencies. -/
theorem keeps_replayed (alike : AnswerAlike R)
    (asked : ∀ {a d} addr kind width, R a d → R (Addressable.latencyAsked a addr kind width) d)
    (tick : ∀ {a d}, R a d → R (Addressable.tick a) (Addressable.tick d))
    (devices : Vector (DeviceSlot D) n) : (carriedOut A n).Keeps (Replayed R devices) where
  traffic map map' log hdevices h := by
    refine ⟨h.1, fun index => ?_⟩
    have hdevice : map'.device index = map.device index := by
      unfold MemoryMap.device
      rw [hdevices]
    rw [hdevice]
    exact h.2 index
  asked map log access h := by
    rw [show (carriedOut A n).asked map access = [] from rfl, List.append_nil]
    refine ⟨h.1, fun index => ?_⟩
    unfold Access.ask MemoryMap.askLatency
    rw [device_setDevice]
    split
    · rename_i hindex
      subst hindex
      exact asked _ _ _ (h.2 _)
    · exact h.2 index
  performed map log access h := by
    -- both maps perform the access, and answer alike
    obtain ⟨hanswer, hafter⟩ := alike.perform h.2 access
    unfold Replayed
    rw [List.map_append, show List.map BusEvent.call ((carriedOut A n).performed map access) =
      [.access access] from rfl, replay_snoc]
    refine ⟨?_, hafter⟩
    show (replay devices _).log ++ [.access access _] = log ++ [.access access (access.perform map).1]
    rw [h.1, hanswer]
  ticked map log h := by
    unfold Replayed
    rw [List.map_append, show List.map BusEvent.call ((carriedOut A n).ticked map.tickDevices) =
      [.tick] from rfl, replay_snoc]
    refine ⟨?_, fun index => ?_⟩
    · show (replay devices _).log ++ [.tick] = log ++ [.tick]
      rw [h.1]
    · show R (map.tickDevices.device index) ((replay devices _).map.tickDevices.device index)
      rw [device_tickDevices, device_tickDevices]
      exact tick (h.2 index)

end Runs

/-! ## Devices behind an adapter -/

/-- The device without its adapter, if it has one. -/
def bareDevice {D : Type} : D ⊕ LatencyAdapter D → D
  | .inl device => device
  | .inr adapter => adapter.inner

/-- The same devices, mapped without adapters. -/
def bareDevices {D : Type} {n : Nat} (devices : Vector (DeviceSlot (D ⊕ LatencyAdapter D)) n) :
    Vector (DeviceSlot D) n :=
  devices.map fun slot => ⟨slot.range, bareDevice slot.device⟩

section Adapter

open MemoryMap

variable {D : Type} {n : Nat} [Addressable D] [QuietLatency D]

/-- The device, perhaps behind an adapter, is the same. -/
def BareSame (device : D ⊕ LatencyAdapter D) (other : D) : Prop :=
  QuietLatency.Same (bareDevice device) other

theorem answerAlike_bareSame : AnswerAlike (BareSame (D := D)) where
  load8 {device other} addr h := by
    rcases device with device | adapter
    · exact QuietLatency.alike.load8 addr h
    · exact QuietLatency.alike.load8 addr h
  store8 {device other} addr value h := by
    rcases device with device | adapter
    · exact QuietLatency.alike.store8 addr value h
    · exact QuietLatency.alike.store8 addr value h

/-- A run of either map is a replay on the bare devices. -/
theorem replayed_bare (devices : Vector (DeviceSlot (D ⊕ LatencyAdapter D)) n) (ops : List MapOp) :
    Replayed QuietLatency.Same (bareDevices devices)
      (Automata.run MemoryMap.apply (fresh (bareDevices devices)) ops)
      (answers (bareDevices devices) ops) := by
  have keeps := keeps_replayed (R := QuietLatency.Same (D := D)) QuietLatency.alike
    (fun addr kind width h => QuietLatency.asked addr kind width h) (fun h => QuietLatency.tick h)
    (bareDevices devices)
  have hrun := keeps.run (s := ⟨fresh (bareDevices devices), []⟩)
    ⟨rfl, fun index => QuietLatency.refl _⟩ ops
  rwa [(carriedOut D n).run_map] at hrun

theorem replayed_adapted (devices : Vector (DeviceSlot (D ⊕ LatencyAdapter D)) n) (ops : List MapOp) :
    Replayed BareSame (bareDevices devices) (Automata.run MemoryMap.apply (fresh devices) ops)
      (answers devices ops) := by
  have keeps := keeps_replayed (R := BareSame (D := D)) answerAlike_bareSame
    (fun {device _} addr kind width h => by
      rcases device with device | adapter
      · exact QuietLatency.asked addr kind width h
      · exact h)
    (fun {device _} h => by
      rcases device with device | adapter
      · exact QuietLatency.tick h
      · exact QuietLatency.tick h)
    (bareDevices devices)
  have hstart (index : Fin n) : BareSame ((fresh devices).device index)
      ((fresh (bareDevices devices)).device index) := by
    have hbare : (fresh (bareDevices devices)).device index = bareDevice ((fresh devices).device index) := by
      show (bareDevices devices)[index].device = bareDevice devices[index].device
      unfold bareDevices
      simp
    rw [hbare]
    exact QuietLatency.refl _
  have hrun := keeps.run (s := ⟨fresh devices, []⟩) ⟨rfl, hstart⟩ ops
  rwa [(carriedOut _ n).run_map] at hrun

end Adapter

/-! ## The time that the map reports -/

section Time

variable {D : Type} {n : Nat} [Addressable D]

/-- The machine time of a device, adapter or not. -/
def bareTime (device : D ⊕ LatencyAdapter D) : Option U64 := Addressable.machineTime (bareDevice device)

/-- The first device that has a time is behind an adapter. -/
def HidesTime (map : MemoryMap (D ⊕ LatencyAdapter D) n) (time : U64) : Prop :=
  ∃ index adapter, map.device index = .inr adapter ∧ Addressable.machineTime adapter.inner = some time ∧
    ∀ before < index, bareTime (map.device before) = none

/-- The first device without an adapter that has a time has this one. -/
def ReportsTime (map : MemoryMap (D ⊕ LatencyAdapter D) n) (time : U64) : Prop :=
  ∃ index device, map.device index = .inl device ∧ Addressable.machineTime device = some time ∧
    ∀ before < index, ∀ device, map.device before = .inl device → Addressable.machineTime device = none

/-- A time that an adapter hides is reported by another device. -/
def TimeShown (map : MemoryMap (D ⊕ LatencyAdapter D) n) : Prop :=
  ∀ time, HidesTime map time → ReportsTime map time

omit [Addressable D] in
/-- The first index at which there is a value. -/
theorem findSome?_finRange_eq_some {α : Type} {f : Fin n → Option α} {a : α} :
    (List.finRange n).findSome? f = some a ↔
      ∃ index, f index = some a ∧ ∀ before < index, f before = none := by
  have first (b : α) (h : (List.finRange n).findSome? f = some b) :
      ∃ index, f index = some b ∧ ∀ before < index, f before = none := by
    obtain ⟨before, index, after, hsplit, hindex, hnone⟩ := List.findSome?_eq_some_iff.1 h
    refine ⟨index, hindex, fun other hlt => hnone other ?_⟩
    have hmem : other ∈ before ++ index :: after := hsplit ▸ List.mem_finRange other
    have hsorted : (before ++ index :: after).Pairwise (· < ·) := hsplit ▸ List.pairwise_lt_finRange n
    rcases List.mem_append.1 hmem with hbefore | hafter
    · exact hbefore
    · rcases List.mem_cons.1 hafter with heq | hafter
      · exact absurd hlt (heq ▸ lt_irrefl _)
      · have hgt := (List.pairwise_cons.1 (List.pairwise_append.1 hsorted).2.1).1 other hafter
        exact absurd hlt (not_lt.2 hgt.le)
  refine ⟨first a, fun ⟨index, hindex, hnone⟩ => ?_⟩
  rcases hfound : (List.finRange n).findSome? f with _ | b
  · rw [List.findSome?_eq_none_iff] at hfound
    rw [hfound index (List.mem_finRange index)] at hindex
    cases hindex
  · obtain ⟨other, hother, hnone'⟩ := first b hfound
    rcases lt_trichotomy index other with hlt | heq | hlt
    · rw [hnone' index hlt] at hindex
      cases hindex
    · subst heq
      exact hother.symm.trans hindex
    · rw [hnone other hlt] at hother
      cases hother

omit [Addressable D] in
theorem toList_devices (map : MemoryMap D n) :
    map.devices.toList = (List.finRange n).map map.devices.get := by
  refine List.ext_getElem (by simp) fun i h h' => ?_
  simp [Vector.get]

theorem machineTime_eq (map : MemoryMap D n) :
    Bus.machineTime map =
      (List.finRange n).findSome? fun index => Addressable.machineTime (map.device index) := by
  show map.devices.toList.findSome? _ = _
  rw [toList_devices, List.findSome?_map]
  rfl

theorem pendingInterrupts_eq (map : MemoryMap D n) :
    Bus.pendingInterrupts map = (List.finRange n).foldl
      (fun interrupts index =>
        interrupts.union (Addressable.pendingInterrupts (map.device index))) .empty := by
  show map.devices.toList.foldl _ _ = _
  rw [toList_devices, List.foldl_map]
  rfl

/-- **The time of a map with adapters** is that of its devices, unless an adapter hides it. -/
theorem machineTime_eq_iff (map : MemoryMap (D ⊕ LatencyAdapter D) n) :
    Bus.machineTime map = (List.finRange n).findSome? (fun index => bareTime (map.device index)) ↔
      TimeShown map := by
  rw [machineTime_eq]
  -- a device with a time that nothing in front of it reports is the one that the map reports
  have hreports (time : U64) : ReportsTime map time →
      (List.finRange n).findSome? (fun index => Addressable.machineTime (map.device index)) = some time := by
    rintro ⟨index, device, hdevice, htime, hbefore⟩
    refine findSome?_finRange_eq_some.2 ⟨index, ?_, fun before hlt => ?_⟩
    · rw [hdevice]
      exact htime
    · rcases hother : map.device before with device' | adapter
      · exact hbefore before hlt device' hother
      · rfl
  constructor
  -- the time of an adapted device would be reported, so that a bare one reports it
  · rintro heq time ⟨index, adapter, hdevice, htime, hbefore⟩
    have hfirst : (List.finRange n).findSome? (fun index => bareTime (map.device index)) = some time :=
      findSome?_finRange_eq_some.2 ⟨index, by rw [hdevice]; exact htime, hbefore⟩
    obtain ⟨found, hfound, hnone⟩ := findSome?_finRange_eq_some.1 (heq.trans hfirst)
    rcases hother : map.device found with device | adapter'
    · rw [hother] at hfound
      refine ⟨found, device, hother, hfound, fun before hlt device' hdevice' => ?_⟩
      have hnone' := hnone before hlt
      rwa [hdevice'] at hnone'
    · rw [hother] at hfound
      cases hfound
  -- the first bare time is that of a bare device, or is shown by one
  · intro hshown
    rcases hall : (List.finRange n).findSome? (fun index => bareTime (map.device index)) with _ | time
    · rw [List.findSome?_eq_none_iff] at hall ⊢
      intro index hmem
      have hnone := hall index hmem
      rcases hdevice : map.device index with device | adapter
      · rwa [hdevice] at hnone
      · rfl
    · obtain ⟨index, htime, hbefore⟩ := findSome?_finRange_eq_some.1 hall
      rcases hdevice : map.device index with device | adapter
      · rw [hdevice] at htime
        refine hreports time ⟨index, device, hdevice, htime, fun before hlt device' hdevice' => ?_⟩
        have hnone := hbefore before hlt
        rwa [hdevice'] at hnone
      · rw [hdevice] at htime
        exact hreports time (hshown time ⟨index, adapter, hdevice, htime, hbefore⟩)

end Time

/-! ## The adapter changes how long an access is busy -/

section Adapted

open MemoryMap

variable {D : Type} {n : Nat} [Addressable D] [QuietLatency D]

/-- **A map with latency adapters** beside the map of the bare devices, in runs that carry out the same
accesses and ticks. The answers and the pending interrupts are the same. The machine time, and with it what a
core makes of the bus at the start of a cycle, is the same exactly if no adapter hides it. -/
theorem latencyAdapter_run (devices : Vector (DeviceSlot (D ⊕ LatencyAdapter D)) n)
    (ops adaptedOps : List MapOp) (same : calls (bareDevices devices) ops = calls devices adaptedOps) :
    let bare := Automata.run MemoryMap.apply (fresh (bareDevices devices)) ops
    let adapted := Automata.run MemoryMap.apply (fresh devices) adaptedOps
    answers (bareDevices devices) ops = answers devices adaptedOps ∧
    Bus.pendingInterrupts bare = Bus.pendingInterrupts adapted ∧
    ((Bus.machineTime bare = Bus.machineTime adapted ∧
      ∀ state : HartState, beginCycle state bare = beginCycle state adapted) ↔ TimeShown adapted) := by
  intro bare adapted
  obtain ⟨hlog, hbare⟩ := replayed_bare devices ops
  obtain ⟨hlog', hadapted⟩ := replayed_adapted devices adaptedOps
  have hcalls : (answers (bareDevices devices) ops).map BusEvent.call =
      (answers devices adaptedOps).map BusEvent.call := same
  rw [hcalls] at hlog hbare
  -- both runs end in the devices of one replay, but for what latency queries note
  have hinterrupts : Bus.pendingInterrupts bare = Bus.pendingInterrupts adapted := by
    rw [pendingInterrupts_eq, pendingInterrupts_eq]
    congr 1
    funext interrupts index
    have hleft := QuietLatency.pendingInterrupts (hbare index)
    have hright := QuietLatency.pendingInterrupts (hadapted index)
    have hforward : Addressable.pendingInterrupts (adapted.device index) =
        Addressable.pendingInterrupts (bareDevice (adapted.device index)) := by
      rcases adapted.device index with device | adapter <;> rfl
    rw [hforward]
    exact congrArg _ (hleft.trans hright.symm)
  have htime : Bus.machineTime bare =
      (List.finRange n).findSome? fun index => bareTime (adapted.device index) := by
    rw [machineTime_eq]
    congr 1
    funext index
    exact (QuietLatency.machineTime (hbare index)).trans (QuietLatency.machineTime (hadapted index)).symm
  refine ⟨hlog.symm.trans hlog', hinterrupts, ?_⟩
  rw [← machineTime_eq_iff adapted, ← htime]
  constructor
  · rintro ⟨heq, -⟩
    exact heq.symm
  · intro heq
    refine ⟨heq.symm, fun state => ?_⟩
    unfold beginCycle
    rw [heq, hinterrupts]

end Adapted

/-- A memory behind an adapter of two cycles. -/
def adaptedRam : Vector (DeviceSlot (Ram ⊕ LatencyAdapter Ram)) 1 :=
  #v[⟨⟨0, 4⟩, .inr ⟨.new 0 4, 2⟩⟩]

open MemoryMap in
/-- The load from behind the adapter is asked for two ticks earlier, and carried out in the same place. -/
theorem latencyAdapter_run_ram :
    calls (bareDevices adaptedRam) [.tick, .request (.load32 0), .tick] =
        calls adaptedRam [.request (.load32 0), .tick, .tick] ∧
      answers (bareDevices adaptedRam) [.tick, .request (.load32 0), .tick] =
        answers adaptedRam [.request (.load32 0), .tick, .tick] :=
  have same : calls (bareDevices adaptedRam) [.tick, .request (.load32 0), .tick] =
      calls adaptedRam [.request (.load32 0), .tick, .tick] := by decide +kernel
  ⟨same, (latencyAdapter_run adaptedRam _ _ same).1⟩

/-- A machine timer behind an adapter of three cycles. -/
def adaptedTimer : Vector (DeviceSlot (MachineTimer ⊕ LatencyAdapter MachineTimer)) 1 :=
  #v[⟨⟨0, 16⟩, .inr ⟨.new 0, 3⟩⟩]

open MemoryMap in
/-- After two ticks the map of the timer reports two, and the core takes the time over; the map of the
adapter reports nothing, and the core counts for itself. -/
theorem latencyAdapter_hides_time :
    calls (bareDevices adaptedTimer) [.tick, .tick] = calls adaptedTimer [.tick, .tick] ∧
      Bus.machineTime (Automata.run MemoryMap.apply (fresh (bareDevices adaptedTimer)) [.tick, .tick]) =
        some 2 ∧
      Bus.machineTime (Automata.run MemoryMap.apply (fresh adaptedTimer) [.tick, .tick]) = none ∧
      (beginCycle (.new 0) (Automata.run MemoryMap.apply (fresh (bareDevices adaptedTimer))
        [.tick, .tick])).csrs.read .time = 2 ∧
      (beginCycle (.new 0) (Automata.run MemoryMap.apply (fresh adaptedTimer)
        [.tick, .tick])).csrs.read .time = 1 := by
  decide +kernel

end RvSim
