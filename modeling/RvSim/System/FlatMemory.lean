import Mathlib.Logic.Function.Basic
import RvSim.System.ByteMemory
import RvSim.System.Cache.Request

/-!
# What a client wants of a memory

A memory that answers every access at once, byte by byte, wherever it is mapped. Caches and memory maps are
compared with it.

## Main definitions

* `FlatMemory`, with its instance of the bus trait
* `ByteMemory.store`: the memory behind a store
* `FlatMemory.Maps`: all bytes of an access are mapped
* `BusRequest.answer`, `BusRequest.effect`: an aligned access

## Main results

* `FlatMemory.call_eq`: what an aligned access does
* `ByteMemory.word_store`: the words behind a store
-/

namespace RvSim

/-- Bytes, some of them mapped. -/
structure FlatMemory where
  mapped : Address → Bool
  contents : ByteMemory

namespace FlatMemory

def load8 (memory : FlatMemory) (addr : Address) : Except BusError U8 × FlatMemory :=
  if memory.mapped addr then (.ok (memory.contents addr), memory)
  else (.error (.unmappedAddress addr), memory)

def store8 (memory : FlatMemory) (addr : Address) (value : U8) : Except BusError Unit × FlatMemory :=
  if memory.mapped addr then
    (.ok (), { memory with contents := Function.update memory.contents addr value })
  else (.error (.unmappedAddress addr), memory)

instance : Bus FlatMemory where
  load8 := load8
  store8 := store8

/-- All bytes of an access are mapped. -/
def Maps (memory : FlatMemory) (addr : Address) (width : Nat) : Prop :=
  ∀ offset < width, memory.mapped (addr + BitVec.ofNat 64 offset) = true

end FlatMemory

namespace ByteMemory

/-- The memory behind a store. -/
def store (memory : ByteMemory) (op : StoreOp) : ByteMemory := fun addr =>
  if (addr - op.addr).toNat < op.width then (toLeBytes op.value)[(addr - op.addr).toNat]?.getD 0
  else memory addr

theorem store_apply (memory : ByteMemory) (addr a : Address) (width : Nat) (value : U32) :
    memory.store ⟨addr, width, value⟩ a =
      if (a - addr).toNat < width then (toLeBytes value)[(a - addr).toNat]?.getD 0 else memory a := rfl

/-- An address by its distance from another one. -/
theorem eq_add_ofNat_iff {other addr : Address} {i : Nat} (hi : i < 2 ^ 64) :
    other = addr + BitVec.ofNat 64 i ↔ (other - addr).toNat = i := by
  constructor
  · rintro rfl
    rw [BitVec.add_comm, BitVec.add_sub_cancel, BitVec.toNat_ofNat, Nat.mod_eq_of_lt hi]
  · intro h
    rw [← h, BitVec.ofNat_toNat, BitVec.setWidth_eq, BitVec.add_comm, BitVec.sub_add_cancel]

/-- A store is one of its bytes behind the other. -/
theorem store_succ (memory : ByteMemory) (addr : Address) {width : Nat} (hwidth : width < 4) (value : U32) :
    memory.store ⟨addr, width + 1, value⟩ =
      Function.update (memory.store ⟨addr, width, value⟩) (addr + BitVec.ofNat 64 width)
        ((toLeBytes value)[width]?.getD 0) := by
  funext other
  by_cases hother : other = addr + BitVec.ofNat 64 width
  · rw [hother, Function.update_self]
    have hdistance := (eq_add_ofNat_iff (show width < 2 ^ 64 by omega)).1 hother
    rw [← hother]
    unfold store
    dsimp only
    rw [hdistance, if_pos (by omega)]
  · rw [Function.update_of_ne hother]
    have hdistance := mt (eq_add_ofNat_iff (show width < 2 ^ 64 by omega)).2 hother
    unfold store
    dsimp only
    by_cases hlt : (other - addr).toNat < width
    · rw [if_pos hlt, if_pos (by omega)]
    · rw [if_neg hlt, if_neg (by omega)]

theorem store_zero (memory : ByteMemory) (addr : Address) (value : U32) :
    memory.store ⟨addr, 0, value⟩ = memory := funext fun _ => if_neg (Nat.not_lt_zero _)

theorem word_eq_ofFn (memory : ByteMemory) (addr : Address) :
    memory.word addr = fromLeBytes (Vector.ofFn fun i : Fin 4 => memory (addr + BitVec.ofNat 64 i)) := by
  refine congrArg fromLeBytes (Vector.ext fun i hi => ?_)
  rw [Vector.getElem_ofFn]
  match i, hi with
  | 0, _ => exact congrArg memory (BitVec.add_zero addr).symm
  | 1, _ => rfl
  | 2, _ => rfl
  | 3, _ => rfl

/-- The word at an aligned address behind a store into one word. -/
theorem word_store (memory : ByteMemory) (op : StoreOp) {addr : Address} (haddr : addr.toNat % 4 = 0)
    (hword : op.addr.toNat % 4 + op.width ≤ 4) :
    (memory.store op).word addr =
      if addr.toNat / 4 = op.addr.toNat / 4 then op.applyWord (op.addr.toNat % 4) (memory.word addr)
      else memory.word addr := by
  obtain ⟨base, width, value⟩ := op
  dsimp only at hword ⊢
  have hlt := addr.isLt
  have hbase := base.isLt
  have hdistance (i : Fin 4) : (addr + BitVec.ofNat 64 i - base).toNat =
      (2 ^ 64 - base.toNat + (addr.toNat + i)) % 2 ^ 64 := by
    rw [BitVec.toNat_sub, BitVec.toNat_add, BitVec.toNat_ofNat]
    omega
  rw [word_eq_ofFn]
  split
  · rename_i hsame
    refine congrArg (fun f => fromLeBytes (Vector.ofFn f)) (funext fun i => ?_)
    have hi := i.isLt
    unfold store
    dsimp only
    rw [hdistance]
    by_cases hin : base.toNat % 4 ≤ i.val ∧ i.val < base.toNat % 4 + width
    · rw [if_pos hin, if_pos (by omega)]
      congr 2
      omega
    · rw [if_neg hin, if_neg (by omega)]
      exact (get_toLeBytes_word memory addr i).symm
  · rename_i hother
    rw [word_eq_ofFn]
    refine congrArg (fun f => fromLeBytes (Vector.ofFn f)) (funext fun i => ?_)
    have hi := i.isLt
    unfold store
    dsimp only
    rw [hdistance, if_neg]
    omega

end ByteMemory

/-! ## Aligned accesses -/

theorem toNat_and_not_three (addr : Address) : (addr &&& ~~~3).toNat = addr.toNat / 4 * 4 := by
  have hmask : ~~~(3 : Address) = ~~~(BitVec.ofNat 64 (2 ^ 2) - 1) := by decide
  rw [hmask]
  exact toNat_clearLow (by decide) addr

theorem toNat_and_three (addr : Address) : (addr &&& 3).toNat = addr.toNat % 4 := by
  rw [BitVec.toNat_and]
  exact Nat.and_two_pow_sub_one_eq_mod addr.toNat 2

/-- An address by its word and its place in the word. -/
theorem word_add_place (addr : Address) (i : Nat) :
    (addr &&& ~~~3) + BitVec.ofNat 64 (addr.toNat % 4 + i) = addr + BitVec.ofNat 64 i := by
  have hlt := addr.isLt
  refine BitVec.eq_of_toNat_eq ?_
  rw [BitVec.toNat_add, BitVec.toNat_add, toNat_and_not_three, BitVec.toNat_ofNat, BitVec.toNat_ofNat]
  omega

/-- A byte of the word around an address. -/
theorem toLeBytes_word_getElem? (memory : ByteMemory) (addr : Address) {i : Nat}
    (hi : addr.toNat % 4 + i < 4) :
    (toLeBytes (memory.word (addr &&& ~~~3)))[(addr &&& 3).toNat + i]?.getD 0 =
      memory (addr + BitVec.ofNat 64 i) := by
  have hbyte := memory.get_toLeBytes_word (addr &&& ~~~3) ⟨addr.toNat % 4 + i, hi⟩
  rw [toNat_and_three, Vector.getElem?_eq_getElem hi, Option.getD_some]
  rw [← word_add_place addr i]
  exact hbyte

namespace BusRequest

theorem width_cases (request : BusRequest) : request.width = 1 ∨ request.width = 2 ∨ request.width = 4 := by
  cases request with
  | load8 _ | store8 _ _ => exact .inl rfl
  | load16 _ | store16 _ _ => exact .inr (.inl rfl)
  | fetch32 _ | load32 _ | store32 _ _ => exact .inr (.inr rfl)

/-- The bytes of an aligned access lie in one word. -/
theorem mod_add_width {request : BusRequest} (h : ¬ request.Misaligned) :
    request.addr.toNat % 4 + request.width ≤ 4 := by
  unfold Misaligned at h
  have hmod := congrArg BitVec.toNat (not_not.1 h)
  rw [BitVec.toNat_umod, BitVec.toNat_ofNat, show (0 : Address).toNat = 0 from rfl] at hmod
  have hsmall : request.width % 2 ^ 64 = request.width := by
    rcases request.width_cases with hwidth | hwidth | hwidth <;> rw [hwidth] <;> rfl
  rw [hsmall] at hmod
  rcases request.width_cases with hwidth | hwidth | hwidth <;> rw [hwidth] at hmod ⊢ <;> omega

/-- What an aligned access answers. -/
def answer (request : BusRequest) (memory : ByteMemory) : U32 :=
  match request.storeOp with
  | none => request.ofWord (memory.word request.wordAddr)
  | some _ => 0

/-- The memory behind an aligned access. -/
def effect (request : BusRequest) (memory : ByteMemory) : ByteMemory :=
  match request.storeOp with
  | none => memory
  | some op => memory.store op

theorem storeOp_addr {request : BusRequest} {op : StoreOp} (h : request.storeOp = some op) :
    op.addr = request.addr ∧ op.width = request.width := by
  cases request <;> cases h <;> exact ⟨rfl, rfl⟩

end BusRequest

namespace FlatMemory

variable {memory : FlatMemory}

theorem Maps.load8 {addr : Address} {width offset : Nat} (h : memory.Maps addr width)
    (hoffset : offset < width) :
    memory.load8 (addr + BitVec.ofNat 64 offset) =
      (.ok (memory.contents (addr + BitVec.ofNat 64 offset)), memory) := if_pos (h offset hoffset)

theorem load8_eq {addr : Address} (h : memory.Maps addr 1) :
    memory.load8 addr = (.ok (memory.contents addr), memory) := by
  have h0 := h.load8 (show 0 < 1 by decide)
  rwa [show BitVec.ofNat 64 0 = 0#64 from rfl, BitVec.add_zero] at h0

theorem defaultLoad16_eq {addr : Address} (haligned : ¬ addr % 2 ≠ 0) (h : memory.Maps addr 2) :
    defaultLoad16 FlatMemory.load8 memory addr =
      (.ok (memory.contents (addr + 1) ++ memory.contents addr), memory) := by
  have h0 := h.load8 (show 0 < 2 by decide)
  have h1 : memory.load8 (addr + 1) = _ := h.load8 (show 1 < 2 by decide)
  rw [show BitVec.ofNat 64 0 = 0#64 from rfl, BitVec.add_zero] at h0
  unfold defaultLoad16 andThen
  rw [if_neg haligned, h0]
  dsimp only
  rw [h1]
  rfl

theorem defaultLoad32_eq {addr : Address} (haligned : ¬ addr % 4 ≠ 0) (h : memory.Maps addr 4) :
    defaultLoad32 FlatMemory.load8 memory addr = (.ok (memory.contents.word addr), memory) := by
  have h0 := h.load8 (show 0 < 4 by decide)
  have h1 : memory.load8 (addr + 1) = _ := h.load8 (show 1 < 4 by decide)
  have h2 : memory.load8 (addr + 2) = _ := h.load8 (show 2 < 4 by decide)
  have h3 : memory.load8 (addr + 3) = _ := h.load8 (show 3 < 4 by decide)
  rw [show BitVec.ofNat 64 0 = 0#64 from rfl, BitVec.add_zero] at h0
  unfold defaultLoad32 andThen
  rw [if_neg haligned, h0]
  dsimp only
  rw [h1]
  dsimp only
  rw [h2]
  dsimp only
  rw [h3]
  rfl

theorem Maps.store8 {addr : Address} {width offset : Nat} (h : memory.Maps addr width)
    (hoffset : offset < width) (contents : ByteMemory) (value : U8) :
    FlatMemory.store8 { memory with contents } (addr + BitVec.ofNat 64 offset) value =
      (.ok (), { memory with
        contents := Function.update contents (addr + BitVec.ofNat 64 offset) value }) :=
  if_pos (h offset hoffset)

theorem store8_eq {addr : Address} (h : memory.Maps addr 1) (value : U32) :
    memory.store8 addr (value.setWidth 8) =
      (.ok (), { memory with contents := memory.contents.store ⟨addr, 1, value⟩ }) := by
  have h0 := h.store8 (show 0 < 1 by decide) memory.contents (value.setWidth 8)
  rw [show BitVec.ofNat 64 0 = 0#64 from rfl, BitVec.add_zero] at h0
  rw [ByteMemory.store_succ _ _ (by decide), ByteMemory.store_zero, BitVec.add_zero]
  exact h0

theorem defaultStore16_eq {addr : Address} (haligned : ¬ addr % 2 ≠ 0) (h : memory.Maps addr 2)
    (value : U16) :
    defaultStore16 FlatMemory.store8 memory addr value =
      (.ok (), { memory with contents := memory.contents.store ⟨addr, 2, value.setWidth 32⟩ }) := by
  have h0 := h.store8 (show 0 < 2 by decide) memory.contents (value.setWidth 8)
  have h1 (contents : ByteMemory) (byte : U8) :
      FlatMemory.store8 { memory with contents } (addr + 1) byte = _ := h.store8 (show 1 < 2 by decide) _ _
  rw [show BitVec.ofNat 64 0 = 0#64 from rfl, BitVec.add_zero] at h0
  unfold defaultStore16 andThen
  rw [if_neg haligned, show memory.store8 addr (value.setWidth 8) = _ from h0]
  dsimp only
  rw [h1, ByteMemory.store_succ _ _ (by decide), ByteMemory.store_succ _ _ (by decide),
    ByteMemory.store_zero, BitVec.add_zero]
  have hbyte0 : (toLeBytes (value.setWidth 32))[0]?.getD 0 = value.setWidth 8 := by
    show (value.setWidth 32).setWidth 8 = _
    exact BitVec.setWidth_setWidth_of_le _ (by decide)
  have hbyte1 : (toLeBytes (value.setWidth 32))[1]?.getD 0 = (value >>> 8).setWidth 8 := by
    show ((value.setWidth 32) >>> 8).setWidth 8 = _
    refine BitVec.eq_of_getLsbD_eq fun i hi => ?_
    simp only [BitVec.getLsbD_setWidth, BitVec.getLsbD_ushiftRight]
    simp [hi, show 8 + i < 32 by omega]
  rw [hbyte0, hbyte1]

theorem defaultStore32_eq {addr : Address} (haligned : ¬ addr % 4 ≠ 0) (h : memory.Maps addr 4)
    (value : U32) :
    defaultStore32 FlatMemory.store8 memory addr value =
      (.ok (), { memory with contents := memory.contents.store ⟨addr, 4, value⟩ }) := by
  have h0 := h.store8 (show 0 < 4 by decide) memory.contents (value.setWidth 8)
  have h1 (contents : ByteMemory) (byte : U8) :
      FlatMemory.store8 { memory with contents } (addr + 1) byte = _ := h.store8 (show 1 < 4 by decide) _ _
  have h2 (contents : ByteMemory) (byte : U8) :
      FlatMemory.store8 { memory with contents } (addr + 2) byte = _ := h.store8 (show 2 < 4 by decide) _ _
  have h3 (contents : ByteMemory) (byte : U8) :
      FlatMemory.store8 { memory with contents } (addr + 3) byte = _ := h.store8 (show 3 < 4 by decide) _ _
  rw [show BitVec.ofNat 64 0 = 0#64 from rfl, BitVec.add_zero] at h0
  unfold defaultStore32 andThen
  rw [if_neg haligned, show memory.store8 addr (value.setWidth 8) = _ from h0]
  dsimp only
  rw [h1]
  dsimp only
  rw [h2]
  dsimp only
  rw [h3, ByteMemory.store_succ _ _ (by decide), ByteMemory.store_succ _ _ (by decide),
    ByteMemory.store_succ _ _ (by decide), ByteMemory.store_succ _ _ (by decide), ByteMemory.store_zero,
    BitVec.add_zero]
  rfl

/-- An aligned read of a mapped word. -/
theorem call_read {request : BusRequest} (hread : request.storeOp = none)
    (haligned : ¬ request.Misaligned) (hmaps : memory.Maps request.addr request.width) :
    request.call memory =
      (.ok (request.ofWord (memory.contents.word request.wordAddr)), memory) := by
  have hbyte {addr : Address} {i : Nat} (hi : addr.toNat % 4 + i < 4) :=
    toLeBytes_word_getElem? memory.contents addr hi
  cases request with
  | fetch32 addr => exact defaultLoad32_eq haligned hmaps
  | load32 addr => exact defaultLoad32_eq haligned hmaps
  | load8 addr =>
    have hbyte0 := hbyte (show addr.toNat % 4 + 0 < 4 from Nat.mod_lt _ (by decide))
    rw [show BitVec.ofNat 64 0 = 0#64 from rfl, BitVec.add_zero] at hbyte0
    have h0 := load8_eq (show memory.Maps addr 1 from hmaps)
    show ((memory.load8 addr).1.map (·.setWidth 32), (memory.load8 addr).2) = _
    rw [h0]
    exact congrArg (fun byte => (Except.ok (BitVec.setWidth 32 byte), memory)) hbyte0.symm
  | load16 addr =>
    have hword : addr.toNat % 4 + 2 ≤ 4 := BusRequest.mod_add_width haligned
    have hbyte0 := hbyte (show addr.toNat % 4 + 0 < 4 by omega)
    have hbyte1 := hbyte (show addr.toNat % 4 + 1 < 4 by omega)
    rw [show BitVec.ofNat 64 0 = 0#64 from rfl, BitVec.add_zero] at hbyte0
    have hload := defaultLoad16_eq (show ¬ addr % 2 ≠ 0 from haligned) hmaps
    show ((defaultLoad16 FlatMemory.load8 memory addr).1.map (·.setWidth 32),
      (defaultLoad16 FlatMemory.load8 memory addr).2) = _
    rw [hload, ← hbyte0, show memory.contents (addr + 1) = _ from hbyte1.symm]
    rfl
  | store8 addr value | store16 addr value | store32 addr value => cases hread

/-- An aligned store to a mapped word. -/
theorem call_store {request : BusRequest} {op : StoreOp} (hstore : request.storeOp = some op)
    (haligned : ¬ request.Misaligned) (hmaps : memory.Maps request.addr request.width) :
    request.call memory = (.ok 0, { memory with contents := memory.contents.store op }) := by
  have hdone {out : Except BusError Unit × FlatMemory} {memory' : FlatMemory} (h : out = (.ok (), memory')) :
      (out.1.map fun _ => (0 : U32), out.2) = (.ok 0, memory') := by
    rw [h]
    rfl
  cases request with
  | store8 addr value =>
    cases hstore
    refine hdone ?_
    have hvalue : (value.setWidth 32).setWidth 8 = value := by simp
    have h := store8_eq hmaps (value.setWidth 32)
    rwa [hvalue] at h
  | store16 addr value =>
    cases hstore
    exact hdone (defaultStore16_eq haligned hmaps value)
  | store32 addr value =>
    cases hstore
    exact hdone (defaultStore32_eq haligned hmaps value)
  | fetch32 addr | load8 addr | load16 addr | load32 addr => cases hstore

/-- **An aligned access to mapped bytes.** -/
theorem call_eq {request : BusRequest} (haligned : ¬ request.Misaligned)
    (hmaps : memory.Maps request.addr request.width) :
    request.call memory = (.ok (request.answer memory.contents),
      { memory with contents := request.effect memory.contents }) := by
  unfold BusRequest.answer BusRequest.effect
  cases hstore : request.storeOp with
  | none => exact call_read hstore haligned hmaps
  | some op => exact call_store hstore haligned hmaps

end FlatMemory

end RvSim
