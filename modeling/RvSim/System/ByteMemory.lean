import Mathlib.Tactic.Ring
import RvSim.System.Protocol

/-!
# Memory as a function

The contents of a memory, byte by byte, with the words in it.

## Main definitions

* `ByteMemory`, `ByteMemory.word`, `ByteMemory.words`, `ByteMemory.writeWords`
* `ByteMemory.copied`: the memory in which some words of a range are copied to another one

## Main results

* `ByteMemory.words_copied`, `ByteMemory.writeWords_copied`: reading and writing during a copy
-/

namespace RvSim

/-- The contents of a memory. -/
abbrev ByteMemory := Address → U8

namespace ByteMemory

/-- The little-endian word at an address. -/
def word (memory : ByteMemory) (addr : Address) : U32 :=
  fromLeBytes #v[memory addr, memory (addr + 1), memory (addr + 2), memory (addr + 3)]

/-- The address of the word with an index. -/
def wordAddr (base : Address) (index : Nat) : Address := base + BitVec.ofNat 64 (4 * index)

/-- `beats` words from an address on. -/
def words (memory : ByteMemory) (base : Address) (beats : Nat) : List U32 :=
  (List.range beats).map fun index => memory.word (wordAddr base index)

/-- The memory with words written from an address on. -/
def writeWords (memory : ByteMemory) (base : Address) (words : List U32) : ByteMemory := fun addr =>
  let offset := (addr - base).toNat
  match words[offset / 4]? with
  | some word => (toLeBytes word).get ⟨offset % 4, Nat.mod_lt _ (by decide)⟩
  | none => memory addr

@[simp] theorem length_words (memory : ByteMemory) (base : Address) (beats : Nat) :
    (memory.words base beats).length = beats := by
  simp [words]

/-- The bytes of the word at an address. -/
theorem toLeBytes_word (memory : ByteMemory) (addr : Address) :
    toLeBytes (memory.word addr) =
      #v[memory addr, memory (addr + 1), memory (addr + 2), memory (addr + 3)] :=
  toLeBytes_fromLeBytes _

/-- A byte of a word of the memory. -/
theorem get_toLeBytes_word (memory : ByteMemory) (addr : Address) (i : Fin 4) :
    (toLeBytes (memory.word addr)).get i = memory (addr + BitVec.ofNat 64 i) := by
  rw [toLeBytes_word]
  rcases i with ⟨_ | _ | _ | _ | i, hi⟩
  · exact congrArg memory (BitVec.add_zero addr).symm
  · rfl
  · rfl
  · rfl
  · omega

/-- Words depend on their bytes only. -/
theorem words_congr {memory other : ByteMemory} {base : Address} {beats : Nat}
    (h : ∀ offset < 4 * beats, memory (base + BitVec.ofNat 64 offset) =
      other (base + BitVec.ofNat 64 offset)) : memory.words base beats = other.words base beats := by
  refine List.map_congr_left fun index hindex => ?_
  have hlt := List.mem_range.1 hindex
  have hbyte {i : Nat} (hi : i < 4) : memory (wordAddr base index + BitVec.ofNat 64 i) =
      other (wordAddr base index + BitVec.ofNat 64 i) := by
    unfold wordAddr
    rw [BitVec.add_assoc, ← BitVec.ofNat_add]
    exact h _ (by omega)
  have h0 := hbyte (show 0 < 4 by decide)
  rw [show BitVec.ofNat 64 0 = 0#64 from rfl, BitVec.add_zero] at h0
  unfold word
  rw [h0, show memory (wordAddr base index + 1) = other (wordAddr base index + 1) from
    hbyte (show 1 < 4 by decide), show memory (wordAddr base index + 2) =
      other (wordAddr base index + 2) from hbyte (show 2 < 4 by decide),
    show memory (wordAddr base index + 3) = other (wordAddr base index + 3) from
      hbyte (show 3 < 4 by decide)]

/-- A byte of the words of a memory, written somewhere else. -/
theorem writeWords_words (memory source : ByteMemory) (base from_ : Address) (beats : Nat)
    (addr : Address) : memory.writeWords base (source.words from_ beats) addr =
      if (addr - base).toNat / 4 < beats then source (from_ + (addr - base)) else memory addr := by
  unfold writeWords words
  dsimp only
  split
  · rename_i word hword
    rw [List.getElem?_map, Option.map_eq_some_iff] at hword
    obtain ⟨index, hindex, rfl⟩ := hword
    obtain ⟨hlt, rfl⟩ := List.getElem?_eq_some_iff.1 hindex
    rw [List.length_range] at hlt
    rw [List.getElem_range, get_toLeBytes_word, if_pos hlt]
    refine congrArg source ?_
    unfold wordAddr
    rw [BitVec.add_assoc, ← BitVec.ofNat_add]
    dsimp only
    rw [Nat.div_add_mod, BitVec.ofNat_toNat, BitVec.setWidth_eq]
  · rename_i hnone
    rw [List.getElem?_map, Option.map_eq_none_iff, List.getElem?_eq_none_iff, List.length_range] at hnone
    rw [if_neg (not_lt.2 hnone)]

/-! ## A copy in progress -/

/-- The memory in which the words with the indices `copied` of the range at `source` are copied to the
range at `destination`. -/
def copied (memory : ByteMemory) (source destination : Address) (indices : List Nat) : ByteMemory :=
  fun addr =>
    if (addr - destination).toNat / 4 ∈ indices then memory (source + (addr - destination))
    else memory addr

theorem copied_nil (memory : ByteMemory) (source destination : Address) :
    memory.copied source destination [] = memory := by
  funext addr
  exact if_neg List.not_mem_nil

/-- The order of the copied words makes no difference. -/
theorem copied_perm (memory : ByteMemory) (source destination : Address) {indices other : List Nat}
    (h : indices.Perm other) :
    memory.copied source destination indices = memory.copied source destination other := by
  funext addr
  unfold copied
  simp only [h.mem_iff]

/-- No byte of the one range is one of the other. -/
def DisjointRanges (source destination : Address) (length : Nat) : Prop :=
  ∀ x < 4 * length, ∀ y < 4 * length,
    source + BitVec.ofNat 64 x ≠ destination + BitVec.ofNat 64 y

variable {memory : ByteMemory} {source destination : Address} {length : Nat}

/-- The source is not changed by the copy. -/
theorem words_copied (hdisjoint : DisjointRanges source destination length) {indices : List Nat}
    (hindices : ∀ index ∈ indices, index < length) {start beats : Nat} (hle : start + beats ≤ length) :
    (memory.copied source destination indices).words (wordAddr source start) beats =
      memory.words (wordAddr source start) beats := by
  refine words_congr fun offset hoffset => ?_
  unfold copied wordAddr
  rw [BitVec.add_assoc, ← BitVec.ofNat_add]
  refine if_neg fun hmem => ?_
  have hlt := hindices _ hmem
  have hback : destination +
      (source + BitVec.ofNat 64 (4 * start + offset) - destination) =
        source + BitVec.ofNat 64 (4 * start + offset) := by ring
  refine hdisjoint (4 * start + offset) (by omega)
    (source + BitVec.ofNat 64 (4 * start + offset) - destination).toNat (by omega) ?_
  rw [BitVec.ofNat_toNat, BitVec.setWidth_eq, hback]

/-- Writing the words of the source copies them. -/
theorem writeWords_copied {indices : List Nat} {start beats : Nat}
    (hsmall : 4 * (start + beats) < 2 ^ 64) :
    (memory.copied source destination indices).writeWords (wordAddr destination start)
        (memory.words (wordAddr source start) beats) =
      memory.copied source destination (indices ++ List.range' start beats) := by
  funext addr
  rw [writeWords_words]
  unfold copied wordAddr
  have hoffset : addr - (destination + BitVec.ofNat 64 (4 * start)) =
      addr - destination - BitVec.ofNat 64 (4 * start) := by ring
  rw [hoffset]
  generalize addr - destination = x
  have hin : (x - BitVec.ofNat 64 (4 * start)).toNat / 4 < beats ↔
      start ≤ x.toNat / 4 ∧ x.toNat / 4 < start + beats := by
    have hx := x.isLt
    have hstart : 4 * start % 2 ^ 64 = 4 * start := Nat.mod_eq_of_lt (by omega)
    rw [BitVec.toNat_sub, BitVec.toNat_ofNat, hstart]
    rcases Nat.lt_or_ge x.toNat (4 * start) with hlow | hhigh
    · rw [Nat.mod_eq_of_lt (by omega)]
      omega
    · rw [show 2 ^ 64 - 4 * start + x.toNat = x.toNat - 4 * start + 2 ^ 64 by omega,
        Nat.add_mod_right, Nat.mod_eq_of_lt (by omega)]
      omega
  have hsource : source + BitVec.ofNat 64 (4 * start) + (x - BitVec.ofNat 64 (4 * start)) =
      source + x := by ring
  rw [hsource]
  simp only [hin, List.mem_append, List.mem_range'_1]
  by_cases hnew : start ≤ x.toNat / 4 ∧ x.toNat / 4 < start + beats
  · rw [if_pos hnew, if_pos (.inr hnew)]
  · rw [if_neg hnew]
    by_cases hold : x.toNat / 4 ∈ indices
    · rw [if_pos hold, if_pos (.inl hold)]
    · rw [if_neg hold, if_neg (fun h => h.elim hold hnew)]

/-- The bytes of the words that are copied, and the others. -/
theorem copied_contents {indices : List Nat} (hindices : indices.Perm (List.range length))
    (hsmall : 4 * length < 2 ^ 64) {offset : Nat} (hoffset : offset < 4 * length) :
    memory.copied source destination indices (destination + BitVec.ofNat 64 offset) =
      memory (source + BitVec.ofNat 64 offset) := by
  have hback : destination + BitVec.ofNat 64 offset - destination = BitVec.ofNat 64 offset := by ring
  unfold copied
  rw [hback, if_pos]
  rw [hindices.mem_iff, List.mem_range, BitVec.toNat_ofNat, Nat.mod_eq_of_lt (by omega)]
  omega

theorem copied_frame {indices : List Nat} (hindices : indices.Perm (List.range length)) {addr : Address}
    (haddr : ∀ offset < 4 * length, addr ≠ destination + BitVec.ofNat 64 offset) :
    memory.copied source destination indices addr = memory addr := by
  refine if_neg fun hmem => ?_
  rw [hindices.mem_iff, List.mem_range] at hmem
  refine haddr (addr - destination).toNat (by omega) ?_
  rw [BitVec.ofNat_toNat, BitVec.setWidth_eq]
  ring

end ByteMemory

end RvSim
