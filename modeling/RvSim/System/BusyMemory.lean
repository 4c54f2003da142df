import RvSim.Exec.Helpers
import RvSim.System.MemoryContract
import RvSim.System.FlatRam

/-!
# A memory that may be busy

A bus that is a flat memory wherever it is mapped, but for busy answers that change nothing. The data
accesses of the cores are requests to it.

## Main definitions

* `BusyMemory`: the contract, with the flat memory and the scheduled bus as instances
* `LoadKind.request`, `StoreKind.request`: the requests of loads and stores

## Main results

* `loadValue_eq`, `storeValue_eq`: an access of the cores is the call of its request
* `FlatMemory.accessible_of_ok`: what a flat memory answers is aligned and mapped
-/

namespace RvSim

/-- The bytes of an aligned access are mapped. -/
structure BusRequest.Accessible (request : BusRequest) (memory : FlatMemory) : Prop where
  aligned : ¬ request.Misaligned
  maps : memory.Maps request.addr request.width

/-- A bus that answers an access as the memory it holds, or is busy. -/
class BusyMemory (β : Type) [Bus β] where
  Holds : FlatMemory → β → Prop
  call {request : BusRequest} {memory : FlatMemory} {b : β} : request.Accessible memory →
    Holds memory b → AnsweredAs Holds Holds request memory (request.call b)
  read {request : BusRequest} {memory : FlatMemory} {b : β} : request.storeOp = none →
    Holds memory b → Holds memory (request.call b).2

/-- A memory that holds `words` from address zero, little-endian. -/
def FlatMemory.ofWords (words : List U32) : FlatMemory where
  mapped addr := decide (addr.toNat < 4 * words.length)
  contents addr := ((words[addr.toNat / 4]?.getD 0) >>> (8 * (addr.toNat % 4))).setWidth 8

/-! ## The accesses of the cores -/

section Access

variable {β : Type} [Bus β]

/-- The request of a load. -/
def LoadKind.request (kind : LoadKind) (addr : Address) : BusRequest :=
  match kind with
  | .byte | .byteUnsigned => .load8 addr
  | .half | .halfUnsigned => .load16 addr
  | .word => .load32 addr

/-- What a load makes of the answer. -/
def LoadKind.extend (kind : LoadKind) (value : U32) : U32 :=
  match kind with
  | .byte => signExtendByte (value.setWidth 8)
  | .half => signExtendHalf (value.setWidth 16)
  | .word | .byteUnsigned | .halfUnsigned => value

/-- The request of a store. -/
def StoreKind.request (kind : StoreKind) (addr : Address) (value : U32) : BusRequest :=
  match kind with
  | .byte => .store8 addr (value.setWidth 8)
  | .half => .store16 addr (value.setWidth 16)
  | .word => .store32 addr value

/-- A load is the call of its request. -/
theorem loadValue_eq (bus : β) (kind : LoadKind) (addr : Address) :
    loadValue bus kind addr = mapValue kind.extend ((kind.request addr).call bus) := by
  have narrow {w : Nat} (out : Except BusError (BitVec w) × β) (hw : w ≤ 32) (f : BitVec w → U32) :
      mapValue f out = mapValue (fun value : U32 => f (value.setWidth w))
        (out.1.map (·.setWidth 32), out.2) := by
    rcases out with ⟨error | value, b⟩
    · rfl
    · show (Except.ok (f value), b) = (Except.ok (f ((value.setWidth 32).setWidth w)), b)
      rw [BitVec.setWidth_setWidth_of_le _ hw, BitVec.setWidth_eq]
  cases kind with
  | byte => exact narrow _ (by decide) signExtendByte
  | half => exact narrow _ (by decide) signExtendHalf
  | word =>
    show Bus.load32 bus addr = mapValue id (Bus.load32 bus addr)
    rcases Bus.load32 bus addr with ⟨error | value, b⟩ <;> rfl
  | byteUnsigned =>
    show mapValue (fun value : U8 => value.setWidth 32) (Bus.load8 bus addr) =
      mapValue id ((Bus.load8 bus addr).1.map (·.setWidth 32), (Bus.load8 bus addr).2)
    rcases Bus.load8 bus addr with ⟨error | value, b⟩ <;> rfl
  | halfUnsigned =>
    show mapValue (fun value : U16 => value.setWidth 32) (Bus.load16 bus addr) =
      mapValue id ((Bus.load16 bus addr).1.map (·.setWidth 32), (Bus.load16 bus addr).2)
    rcases Bus.load16 bus addr with ⟨error | value, b⟩ <;> rfl

/-- A store is the call of its request. -/
theorem storeValue_eq (bus : β) (kind : StoreKind) (addr : Address) (value : U32) :
    storeValue bus kind addr value = mapValue (fun _ => ()) ((kind.request addr value).call bus) := by
  have unit (out : Except BusError Unit × β) :
      out = mapValue (fun _ : U32 => ()) (out.1.map fun _ => 0, out.2) := by
    rcases out with ⟨error | value, b⟩ <;> rfl
  cases kind with
  | byte => exact unit _
  | half => exact unit _
  | word => exact unit _

end Access

/-! ## The flat memory -/

namespace FlatMemory

variable {memory : FlatMemory}

instance : BusyMemory FlatMemory where
  Holds memory b := b = memory
  call {request memory b} h hb := by
    subst hb
    rw [call_eq h.aligned h.maps]
    exact ⟨rfl, rfl⟩
  read {request memory b} hread hb := by
    subst hb
    have stays8 (addr : Address) : (b.load8 addr).2 = b := by
      unfold FlatMemory.load8
      split <;> rfl
    have stays {α γ : Type} {out : Except BusError α × FlatMemory}
        {next : α → FlatMemory → Except BusError γ × FlatMemory} (h : out.2 = b)
        (hnext : ∀ a, (next a b).2 = b) : (andThen out next).2 = b := by
      rcases out with ⟨error | a, b'⟩
      · exact h
      · obtain rfl : b' = b := h
        exact hnext a
    have stays16 (addr : Address) : (defaultLoad16 FlatMemory.load8 b addr).2 = b := by
      unfold defaultLoad16
      split
      · rfl
      · exact stays (stays8 _) fun _ => stays (stays8 _) fun _ => rfl
    have stays32 (addr : Address) : (defaultLoad32 FlatMemory.load8 b addr).2 = b := by
      unfold defaultLoad32
      split
      · rfl
      · exact stays (stays8 _) fun _ => stays (stays8 _) fun _ => stays (stays8 _) fun _ =>
          stays (stays8 _) fun _ => rfl
    cases request with
    | load8 addr => exact stays8 addr
    | load16 addr => exact stays16 addr
    | load32 addr | fetch32 addr => exact stays32 addr
    | store8 | store16 | store32 => cases hread

/-! ## What a flat memory answers -/

theorem of_andThen_ok {α γ β : Type} {out : Except BusError α × β}
    {next : α → β → Except BusError γ × β} {c : γ} (h : (andThen out next).1 = .ok c) :
    ∃ a b, out = (.ok a, b) ∧ (next a b).1 = .ok c := by
  rcases out with ⟨error | a, b⟩
  · cases h
  · exact ⟨a, b, rfl, h⟩

theorem of_load8_ok {addr : Address} {value : U8} {b : FlatMemory}
    (h : memory.load8 addr = (.ok value, b)) : memory.mapped addr = true ∧ b = memory := by
  unfold FlatMemory.load8 at h
  split at h
  · next hmapped => exact ⟨hmapped, (congrArg Prod.snd h).symm⟩
  · cases h

theorem of_store8_ok {addr : Address} {value : U8} {b : FlatMemory}
    (h : memory.store8 addr value = (.ok (), b)) :
    memory.mapped addr = true ∧ b.mapped = memory.mapped := by
  unfold FlatMemory.store8 at h
  split at h
  · next hmapped => exact ⟨hmapped, congrArg (fun out => out.2.mapped) h.symm⟩
  · cases h

theorem load8_mapped {addr : Address} {value : U8} (h : (memory.load8 addr).1 = .ok value) :
    memory.mapped addr = true := (of_load8_ok (Prod.ext h rfl)).1

theorem store8_mapped {addr : Address} {value : U8} (h : (memory.store8 addr value).1 = .ok ()) :
    memory.mapped addr = true := (of_store8_ok (Prod.ext h rfl)).1

theorem maps_one {addr : Address} (h : memory.mapped addr = true) : memory.Maps addr 1 := by
  intro offset hoffset
  obtain rfl : offset = 0 := by omega
  rwa [show BitVec.ofNat 64 0 = 0#64 from rfl, BitVec.add_zero]

theorem maps_two {addr : Address} (h0 : memory.mapped addr = true)
    (h1 : memory.mapped (addr + 1) = true) : memory.Maps addr 2 := by
  intro offset hoffset
  match offset, hoffset with
  | 0, _ => exact maps_one h0 0 (by decide)
  | 1, _ => exact h1

theorem maps_four {addr : Address} (h : memory.Maps addr 2) (h2 : memory.mapped (addr + 2) = true)
    (h3 : memory.mapped (addr + 3) = true) : memory.Maps addr 4 := by
  intro offset hoffset
  match offset, hoffset with
  | 0, _ => exact h 0 (by decide)
  | 1, _ => exact h 1 (by decide)
  | 2, _ => exact h2
  | 3, _ => exact h3

theorem of_load16_ok {addr : Address} {value : U16}
    (h : (defaultLoad16 FlatMemory.load8 memory addr).1 = .ok value) :
    ¬ addr % 2 ≠ 0 ∧ memory.Maps addr 2 := by
  unfold defaultLoad16 at h
  split at h
  · cases h
  · next haligned =>
    obtain ⟨_, _, hload0, hrest0⟩ := of_andThen_ok h
    obtain ⟨h0, rfl⟩ := of_load8_ok hload0
    obtain ⟨_, _, hload1, -⟩ := of_andThen_ok hrest0
    exact ⟨haligned, maps_two h0 (of_load8_ok hload1).1⟩

theorem of_load32_ok {addr : Address} {value : U32}
    (h : (defaultLoad32 FlatMemory.load8 memory addr).1 = .ok value) :
    ¬ addr % 4 ≠ 0 ∧ memory.Maps addr 4 := by
  unfold defaultLoad32 at h
  split at h
  · cases h
  · next haligned =>
    obtain ⟨_, _, hload0, hrest0⟩ := of_andThen_ok h
    obtain ⟨h0, rfl⟩ := of_load8_ok hload0
    obtain ⟨_, _, hload1, hrest1⟩ := of_andThen_ok hrest0
    obtain ⟨h1, rfl⟩ := of_load8_ok hload1
    obtain ⟨_, _, hload2, hrest2⟩ := of_andThen_ok hrest1
    obtain ⟨h2, rfl⟩ := of_load8_ok hload2
    obtain ⟨_, _, hload3, -⟩ := of_andThen_ok hrest2
    exact ⟨haligned, maps_four (maps_two h0 h1) h2 (of_load8_ok hload3).1⟩

theorem of_store16_ok {addr : Address} {value : U16}
    (h : (defaultStore16 FlatMemory.store8 memory addr value).1 = .ok ()) :
    ¬ addr % 2 ≠ 0 ∧ memory.Maps addr 2 := by
  unfold defaultStore16 at h
  split at h
  · cases h
  · next haligned =>
    obtain ⟨_, _, hstore0, hrest0⟩ := of_andThen_ok h
    obtain ⟨h0, hb⟩ := of_store8_ok hstore0
    have h1 := store8_mapped hrest0
    rw [hb] at h1
    exact ⟨haligned, maps_two h0 h1⟩

theorem of_store32_ok {addr : Address} {value : U32}
    (h : (defaultStore32 FlatMemory.store8 memory addr value).1 = .ok ()) :
    ¬ addr % 4 ≠ 0 ∧ memory.Maps addr 4 := by
  unfold defaultStore32 at h
  split at h
  · cases h
  · next haligned =>
    obtain ⟨_, _, hstore0, hrest0⟩ := of_andThen_ok h
    obtain ⟨h0, hb⟩ := of_store8_ok hstore0
    obtain ⟨_, _, hstore1, hrest1⟩ := of_andThen_ok hrest0
    obtain ⟨h1, hb1⟩ := of_store8_ok hstore1
    obtain ⟨_, _, hstore2, hrest2⟩ := of_andThen_ok hrest1
    obtain ⟨h2, hb2⟩ := of_store8_ok hstore2
    have h3 := store8_mapped hrest2
    rw [hb2, hb1, hb] at h3
    rw [hb1, hb] at h2
    rw [hb] at h1
    exact ⟨haligned, maps_four (maps_two h0 h1) h2 h3⟩

theorem of_map_ok {α γ : Type} {answer : Except BusError α} {f : α → γ} {c : γ}
    (h : answer.map f = .ok c) : ∃ a, answer = .ok a := by
  rcases answer with error | a
  · cases h
  · exact ⟨a, rfl⟩

/-- **What a flat memory answers is aligned and mapped.** -/
theorem accessible_of_ok {request : BusRequest} {value : U32}
    (h : (request.call memory).1 = .ok value) : request.Accessible memory := by
  cases request with
  | fetch32 addr | load32 addr =>
    obtain ⟨haligned, hmaps⟩ := of_load32_ok h
    exact ⟨haligned, hmaps⟩
  | load8 addr =>
    obtain ⟨_, h⟩ := of_map_ok h
    exact ⟨fun h => h BitVec.umod_one, maps_one (load8_mapped h)⟩
  | load16 addr =>
    obtain ⟨_, h⟩ := of_map_ok h
    obtain ⟨haligned, hmaps⟩ := of_load16_ok h
    exact ⟨haligned, hmaps⟩
  | store8 addr value =>
    obtain ⟨_, h⟩ := of_map_ok h
    exact ⟨fun h => h BitVec.umod_one, maps_one (store8_mapped h)⟩
  | store16 addr value =>
    obtain ⟨_, h⟩ := of_map_ok h
    obtain ⟨haligned, hmaps⟩ := of_store16_ok h
    exact ⟨haligned, hmaps⟩
  | store32 addr value =>
    obtain ⟨_, h⟩ := of_map_ok h
    obtain ⟨haligned, hmaps⟩ := of_store32_ok h
    exact ⟨haligned, hmaps⟩

end FlatMemory

/-! ## Buses that are never busy, and the scheduled bus -/

/-- A call of a bus that is never busy settles. -/
theorem NeverBusy.call {β : Type} [Bus β] [NeverBusy β] (request : BusRequest) (b : β) :
    Settled (request.call b).1 := by
  cases request with
  | fetch32 addr => exact NeverBusy.fetch32 b addr
  | load8 addr => exact (NeverBusy.load8 b addr).map _
  | load16 addr => exact (NeverBusy.load16 b addr).map _
  | load32 addr => exact NeverBusy.load32 b addr
  | store8 addr value => exact (NeverBusy.store8 b addr value).map _
  | store16 addr value => exact (NeverBusy.store16 b addr value).map _
  | store32 addr value => exact (NeverBusy.store32 b addr value).map _

namespace FlatMemory

theorem settled_load8 (memory : FlatMemory) (addr : Address) : Settled (memory.load8 addr).1 := by
  unfold FlatMemory.load8
  split
  · exact settled_ok _
  · exact settled_error rfl

theorem settled_store8 (memory : FlatMemory) (addr : Address) (value : U8) :
    Settled (memory.store8 addr value).1 := by
  unfold FlatMemory.store8
  split
  · exact settled_ok _
  · exact settled_error rfl

instance : NeverBusy FlatMemory where
  load8 := settled_load8
  load16 := settled_defaultLoad16 settled_load8
  load32 := settled_defaultLoad32 settled_load8
  fetch32 := settled_defaultLoad32 settled_load8
  store8 := settled_store8
  store16 := settled_defaultStore16 settled_store8
  store32 := settled_defaultStore32 settled_store8

end FlatMemory

namespace Scheduled

variable {M : Type} [Bus M]

/-- A scheduled call is busy and leaves the memory alone, or is the call of the memory. -/
theorem call_cases (request : BusRequest) (b : Scheduled M) :
    (∃ n, (request.call b).1 = .error (.busy n) ∧ (request.call b).2.memory = b.memory) ∨
      ((request.call b).1 = (request.call b.memory).1 ∧
        (request.call b).2.memory = (request.call b.memory).2) := by
  have performed {α : Type} (record : Except BusError α → BusAccess)
      (op : M → Except BusError α × M) :
      (∃ n, (b.perform record op).1 = .error (.busy n) ∧ (b.perform record op).2.memory = b.memory) ∨
        ((b.perform record op).1 = (op b.memory).1 ∧
          (b.perform record op).2.memory = (op b.memory).2) := by
    unfold perform
    rcases b.busy with _ | n
    · exact .inr ⟨rfl, rfl⟩
    · exact .inl ⟨1, rfl, rfl⟩
  have mapped {α : Type} (f : α → U32) (record : Except BusError α → BusAccess)
      (op : M → Except BusError α × M) :
      (∃ n, (b.perform record op).1.map f = .error (.busy n) ∧
        (b.perform record op).2.memory = b.memory) ∨
        ((b.perform record op).1.map f = (op b.memory).1.map f ∧
          (b.perform record op).2.memory = (op b.memory).2) := by
    rcases performed record op with ⟨n, h, hmemory⟩ | ⟨h, hmemory⟩
    · exact .inl ⟨n, by rw [h]; rfl, hmemory⟩
    · exact .inr ⟨by rw [h], hmemory⟩
  cases request with
  | fetch32 addr => exact performed (readRecord .instruction 4 addr) (Bus.fetch32 · addr)
  | load32 addr => exact performed (readRecord .load 4 addr) (Bus.load32 · addr)
  | load8 addr => exact mapped _ _ _
  | load16 addr => exact mapped _ _ _
  | store8 addr value => exact mapped _ _ _
  | store16 addr value => exact mapped _ _ _
  | store32 addr value => exact mapped _ _ _

instance [BusyMemory M] : BusyMemory (Scheduled M) where
  Holds memory b := BusyMemory.Holds memory b.memory
  call {request memory b} h hb := by
    have hcall := BusyMemory.call h hb
    rcases call_cases request b with ⟨n, hbusy, hmemory⟩ | ⟨hanswer, hmemory⟩
    · unfold AnsweredAs
      rw [hbusy]
      exact ⟨rfl, (congrArg (BusyMemory.Holds memory) hmemory).mpr hb⟩
    · unfold AnsweredAs at hcall ⊢
      dsimp only
      rw [hanswer, hmemory]
      exact hcall
  read {request memory b} hread hb := by
    rcases call_cases request b with ⟨n, -, hmemory⟩ | ⟨-, hmemory⟩
    · rw [hmemory]
      exact hb
    · rw [hmemory]
      exact BusyMemory.read hread hb

end Scheduled

end RvSim
