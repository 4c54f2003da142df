import RvSim.System.Cache.Lines
import RvSim.System.FlatMemory

/-!
# The words of a line

A line holds the words of a memory. Which addresses it holds, and what a store does to its words.

## Main results

* `CacheConfig.lineBase_eq_iff_sub_lt`: the addresses of a line
* `CacheConfig.writeWords_line`: the memory behind the write-back of a line
* `CacheConfig.words_store_same`, `CacheConfig.words_store_other`: the words of a line behind a store
-/

namespace RvSim

namespace CacheConfig

variable (config : CacheConfig)

/-- A line ends within the address space. -/
theorem lineBase_add_le (addr : Address) : (config.lineBase addr).toNat + config.lineSize ≤ 2 ^ 64 := by
  have hpow : config.lineSize * 2 ^ (64 - config.lineBits) = 2 ^ 64 := by
    unfold lineSize
    rw [← Nat.pow_add]
    congr 1
    have := config.lineBits_lt
    omega
  have hlt : addr.toNat / config.lineSize < 2 ^ (64 - config.lineBits) := by
    rw [Nat.div_lt_iff_lt_mul config.lineSize_pos, Nat.mul_comm, hpow]
    exact addr.isLt
  rw [toNat_lineBase, ← Nat.succ_mul, ← hpow, Nat.mul_comm]
  exact Nat.mul_le_mul_left _ hlt

theorem lineBase_mod_four (addr : Address) : (config.lineBase addr).toNat % 4 = 0 := by
  rw [toNat_lineBase]
  exact Nat.mod_eq_zero_of_dvd (Dvd.dvd.mul_left config.four_dvd_lineSize _)

/-- The addresses of a line. -/
theorem lineBase_eq_iff_sub_lt {a addr : Address} :
    config.lineBase a = config.lineBase addr ↔ (a - config.lineBase addr).toNat < config.lineSize := by
  have hend := config.lineBase_add_le addr
  have hbase := config.toNat_lineBase addr
  have hpos := config.lineSize_pos
  have ha := a.isLt
  rw [lineBase_eq_iff, BitVec.toNat_sub, Nat.div_eq_iff hpos]
  rw [hbase] at hend ⊢
  generalize addr.toNat / config.lineSize * config.lineSize = base at hend
  omega

theorem div_four_lt_iff (offset : Nat) : offset / 4 < config.lineWords ↔ offset < config.lineSize := by
  have h := config.lineWords_mul
  omega

/-- The words of a line that is written. -/
theorem writeWords_line (lower memory : ByteMemory) (addr a : Address) :
    lower.writeWords (config.lineBase addr) (memory.words (config.lineBase addr) config.lineWords) a =
      if config.lineBase a = config.lineBase addr then memory a else lower a := by
  have hback : config.lineBase addr + (a - config.lineBase addr) = a := by
    rw [BitVec.add_comm, BitVec.sub_add_cancel]
  rw [ByteMemory.writeWords_words, hback]
  simp only [div_four_lt_iff, ← lineBase_eq_iff_sub_lt]

/-- A word of a line. -/
theorem toNat_wordAddr (addr : Address) {i : Nat} (hi : i < config.lineWords) :
    (ByteMemory.wordAddr (config.lineBase addr) i).toNat = (config.lineBase addr).toNat + 4 * i := by
  have hend := config.lineBase_add_le addr
  have hwords := config.lineWords_mul
  unfold ByteMemory.wordAddr
  rw [BitVec.toNat_add, BitVec.toNat_ofNat, Nat.mod_eq_of_lt (show 4 * i < 2 ^ 64 by omega)]
  exact Nat.mod_eq_of_lt (by omega)

theorem lineBase_wordAddr_eq (addr : Address) {i : Nat} (hi : i < config.lineWords) :
    config.lineBase (ByteMemory.wordAddr (config.lineBase addr) i) = config.lineBase addr := by
  have hwords := config.lineWords_mul
  have hsize := config.lineSize_lt
  rw [lineBase_eq_iff_sub_lt]
  unfold ByteMemory.wordAddr
  rw [BitVec.add_comm, BitVec.add_sub_cancel, BitVec.toNat_ofNat, Nat.mod_eq_of_lt (by omega)]
  omega

/-- The word of an address in its line. -/
theorem wordAddr_wordIndex {addr : Address} (haddr : addr.toNat % 4 = 0) :
    ByteMemory.wordAddr (config.lineBase addr) (config.decode addr).wordIndex = addr := by
  have hle := config.lineBase_le addr
  have hfour := config.lineBase_mod_four addr
  have hlt := addr.isLt
  have hindex : (config.decode addr).wordIndex.val = (addr - config.lineBase addr).toNat / 4 := rfl
  refine BitVec.eq_of_toNat_eq ?_
  rw [toNat_wordAddr config addr (config.decode addr).wordIndex.isLt, hindex, BitVec.toNat_sub]
  omega

variable {config} {memory : ByteMemory} {words : Vector U32 config.lineWords}

theorem getElem_of_words {addr : Address} (h : words.toList = memory.words (config.lineBase addr) config.lineWords)
    {i : Nat} (hi : i < config.lineWords) :
    words[i] = memory.word (ByteMemory.wordAddr (config.lineBase addr) i) := by
  have hget : words.toList[i]? = some words[i] := by simp [hi]
  rw [h, ByteMemory.words, List.getElem?_map, List.getElem?_range hi, Option.map_some,
    Option.some.injEq] at hget
  exact hget.symm

theorem words_of_getElem {addr : Address}
    (h : ∀ i (hi : i < config.lineWords),
      words[i] = memory.word (ByteMemory.wordAddr (config.lineBase addr) i)) :
    words.toList = memory.words (config.lineBase addr) config.lineWords := by
  refine List.ext_getElem (by simp) fun i hi _ => ?_
  have hi : i < config.lineWords := by simpa using hi
  simp [ByteMemory.words, h i hi]

/-- The bytes of a store into one word lie in one line. -/
theorem lineBase_of_stored {op : StoreOp} (hword : op.addr.toNat % 4 + op.width ≤ 4) {a : Address}
    (h : (a - op.addr).toNat < op.width) : config.lineBase a = config.lineBase op.addr := by
  have ha := a.isLt
  have hop := op.addr.isLt
  rw [BitVec.toNat_sub] at h
  have hsame : a.toNat / 4 = op.addr.toNat / 4 := by omega
  rw [lineBase_eq_iff, ← config.lineWords_mul, Nat.mul_comm config.lineWords 4, ← Nat.div_div_eq_div_mul,
    ← Nat.div_div_eq_div_mul, hsame]

/-- A store leaves the words of other lines. -/
theorem words_store_other {addr : Address} {op : StoreOp} (hword : op.addr.toNat % 4 + op.width ≤ 4)
    (h : config.lineBase op.addr ≠ config.lineBase addr) :
    (memory.store op).words (config.lineBase addr) config.lineWords =
      memory.words (config.lineBase addr) config.lineWords := by
  refine List.map_congr_left fun i hi => ?_
  have hi := List.mem_range.1 hi
  have haddr := config.toNat_wordAddr addr hi
  have hfour := config.lineBase_mod_four addr
  rw [ByteMemory.word_store _ _ (by omega) hword, if_neg]
  intro hsame
  refine h ?_
  rw [← config.lineBase_wordAddr_eq addr hi, lineBase_eq_iff, ← config.lineWords_mul,
    Nat.mul_comm config.lineWords 4, ← Nat.div_div_eq_div_mul, ← Nat.div_div_eq_div_mul, hsame]

/-- A store into a line is one into its words. -/
theorem words_store_same {op : StoreOp} (hword : op.addr.toNat % 4 + op.width ≤ 4)
    (h : words.toList = memory.words (config.lineBase op.addr) config.lineWords) :
    (CacheBank.storedWords (config.decode op.addr) op words).toList =
      (memory.store op).words (config.lineBase op.addr) config.lineWords := by
  refine words_of_getElem fun i hi => ?_
  have haddr := config.toNat_wordAddr op.addr hi
  have hfour := config.lineBase_mod_four op.addr
  have hle := config.lineBase_le op.addr
  have hlt := op.addr.isLt
  have hindex : (config.decode op.addr).wordIndex.val = (op.addr - config.lineBase op.addr).toNat / 4 := rfl
  have hoffset : (op.addr - (config.decode op.addr).lineBase).toNat % 4 = op.addr.toNat % 4 := by
    rw [decode_lineBase, BitVec.toNat_sub]
    omega
  rw [BitVec.toNat_sub] at hindex
  rw [ByteMemory.word_store _ _ (by omega) hword]
  unfold CacheBank.storedWords
  rw [Vector.getElem_set, hoffset]
  split
  · rename_i heq
    subst heq
    rw [if_pos (by omega)]
    exact congrArg _ (getElem_of_words h hi)
  · rename_i hne
    rw [if_neg (by omega)]
    exact getElem_of_words h hi

end CacheConfig

end RvSim
