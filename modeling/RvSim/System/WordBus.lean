import RvSim.System.Bus

/-!
# Buses that are a memory of words

A bus whose aligned word accesses read and write a memory, fail by address, or answer busy at will,
and a small such bus for worked runs.

## Main definitions

* `WordMemory`: what the word accesses of such a bus do
* `WordBus`: words from address zero, with a list of addresses that are busy
-/

namespace RvSim

/-- A bus that may answer busy at will and is otherwise a memory of words, in which every access
succeeds or fails by its address. -/
class WordMemory (β : Type) [Bus β] where
  word : β → Address → U32
  readable : Address → Bool
  writable : Address → Bool
  load32 (bus : β) (addr : Address) (aligned : addr % 4 = 0) :
    (∃ n b, Bus.load32 bus addr = (.error (.busy n), b) ∧ word b = word bus) ∨
    (readable addr = true ∧ ∃ b, Bus.load32 bus addr = (.ok (word bus addr), b) ∧
      word b = word bus) ∨
    (readable addr = false ∧ ∃ error b, Bus.load32 bus addr = (.error error, b) ∧
      error.isBusy = false ∧ word b = word bus)
  store32 (bus : β) (addr : Address) (value : U32) (aligned : addr % 4 = 0) :
    (∃ n b, Bus.store32 bus addr value = (.error (.busy n), b) ∧ word b = word bus) ∨
    (writable addr = true ∧ ∃ b, Bus.store32 bus addr value = (.ok (), b) ∧
      ∀ a, a % 4 = 0 → word b a = if a = addr then value else word bus a) ∨
    (writable addr = false ∧ ∃ error b, Bus.store32 bus addr value = (.error error, b) ∧
      error.isBusy = false ∧ word b = word bus)

/-- The words of a memory from address zero. The first `readOnly` of them cannot be written. -/
structure WordBus (size readOnly : Nat) where
  words : Vector U32 size
  busyAt : List Address := []
  deriving DecidableEq

namespace WordBus

variable {size readOnly : Nat}

def word (bus : WordBus size readOnly) (addr : Address) : U32 :=
  (bus.words[addr.toNat / 4]?).getD 0

def load32 (bus : WordBus size readOnly) (addr : Address) :
    Except BusError U32 × WordBus size readOnly :=
  if bus.busyAt.contains addr then (.error (.busy 1), bus)
  else if addr % 4 ≠ 0 then (.error (.misalignedAccess addr 4), bus)
  else if addr.toNat / 4 < size then (.ok (bus.word addr), bus)
  else (.error (.unmappedAddress addr), bus)

def store32 (bus : WordBus size readOnly) (addr : Address) (value : U32) :
    Except BusError Unit × WordBus size readOnly :=
  if bus.busyAt.contains addr then (.error (.busy 1), bus)
  else if addr % 4 ≠ 0 then (.error (.misalignedAccess addr 4), bus)
  else if addr.toNat / 4 < size then
    if addr.toNat / 4 < readOnly then (.error (.readOnlyAddress addr), bus)
    else (.ok (), { bus with words := bus.words.setIfInBounds (addr.toNat / 4) value })
  else (.error (.unmappedAddress addr), bus)

/-- The byte of a word at an address. -/
def load8 (bus : WordBus size readOnly) (addr : Address) :
    Except BusError U8 × WordBus size readOnly :=
  match bus.load32 (addr - addr % 4) with
  | (.ok value, bus) => (.ok ((value >>> (8 * (addr.toNat % 4))).setWidth 8), bus)
  | (.error error, bus) => (.error error, bus)

/-- Write the byte at an address into its word. -/
def store8 (bus : WordBus size readOnly) (addr : Address) (value : U8) :
    Except BusError Unit × WordBus size readOnly :=
  let shift := 8 * (addr.toNat % 4)
  let old := bus.word addr
  bus.store32 (addr - addr % 4)
    ((old &&& ~~~((0xff : U32) <<< shift)) ||| (value.setWidth 32 <<< shift))

instance : Bus (WordBus size readOnly) where
  load8 := load8
  store8 := store8
  load32 := load32
  store32 := store32

/-- The tick after which exactly the addresses `busyAt` are busy. -/
def setBusyAt (busyAt : List Address) (bus : WordBus size readOnly) : WordBus size readOnly :=
  { bus with busyAt }

/-- The tick in which something else writes a word. -/
def setWord (index : Nat) (value : U32) (bus : WordBus size readOnly) : WordBus size readOnly :=
  { bus with words := bus.words.setIfInBounds index value }

instance : WordMemory (WordBus size readOnly) where
  word := word
  readable addr := decide (addr.toNat / 4 < size)
  writable addr := decide (addr.toNat / 4 < size ∧ ¬ addr.toNat / 4 < readOnly)
  load32 bus addr aligned := by
    show (∃ n b, load32 bus addr = _ ∧ _) ∨ (_ ∧ ∃ b, load32 bus addr = _ ∧ _) ∨
      (_ ∧ ∃ error b, load32 bus addr = _ ∧ _)
    unfold load32
    by_cases hbusy : bus.busyAt.contains addr = true
    · rw [if_pos hbusy]
      exact .inl ⟨1, bus, rfl, rfl⟩
    · rw [if_neg hbusy, if_neg (not_not.mpr aligned)]
      by_cases hsize : addr.toNat / 4 < size
      · rw [if_pos hsize]
        exact .inr (.inl ⟨decide_eq_true hsize, bus, rfl, rfl⟩)
      · rw [if_neg hsize]
        exact .inr (.inr ⟨decide_eq_false hsize, _, bus, rfl, rfl, rfl⟩)
  store32 bus addr value aligned := by
    show (∃ n b, store32 bus addr value = _ ∧ _) ∨ (_ ∧ ∃ b, store32 bus addr value = _ ∧ _) ∨
      (_ ∧ ∃ error b, store32 bus addr value = _ ∧ _)
    unfold store32
    by_cases hbusy : bus.busyAt.contains addr = true
    · rw [if_pos hbusy]
      exact .inl ⟨1, bus, rfl, rfl⟩
    · rw [if_neg hbusy, if_neg (not_not.mpr aligned)]
      by_cases hsize : addr.toNat / 4 < size
      · rw [if_pos hsize]
        by_cases hreadOnly : addr.toNat / 4 < readOnly
        · rw [if_pos hreadOnly]
          exact .inr (.inr ⟨decide_eq_false fun h => h.2 hreadOnly, _, bus, rfl, rfl, rfl⟩)
        · rw [if_neg hreadOnly]
          refine .inr (.inl ⟨decide_eq_true ⟨hsize, hreadOnly⟩, _, rfl, fun a ha => ?_⟩)
          unfold word
          rw [Vector.getElem?_setIfInBounds]
          by_cases hsame : a = addr
          · subst hsame
            rw [if_pos rfl, if_pos rfl, if_pos hsize, Option.getD_some]
          · have hindex : addr.toNat / 4 ≠ a.toNat / 4 := by
              intro h
              have hmod : a.toNat % 4 = 0 := congrArg BitVec.toNat ha
              have hmod' : addr.toNat % 4 = 0 := congrArg BitVec.toNat aligned
              exact hsame (BitVec.eq_of_toNat_eq (by omega))
            rw [if_neg hindex, if_neg hsame]
      · rw [if_neg hsize]
        exact .inr (.inr ⟨decide_eq_false fun h => hsize h.1, _, bus, rfl, rfl, rfl⟩)

end WordBus

end RvSim
