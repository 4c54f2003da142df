import Mathlib.Data.Nat.Bitwise
import RvSim.System.Protocol

/-!
# The geometry of a cache

How a cache splits an address into a line, a set, a tag and a word, and the policies it is built with.

## Main definitions

* `CacheConfig`: geometry and policies; its fields carry what the constructors assert
* `CacheConfig.decode`, `CacheConfig.lineBaseForTag`
* `CacheConfig.caches`: the address is one that the cache may hold

## Main results

* `CacheConfig.lineBaseForTag_decode`: set and tag give back the line
* `CacheConfig.decode_inj`: lines with the same set and tag are the same
* `CacheConfig.caches_eq`: an address is cached if its line is
-/

namespace RvSim

/-- Replacement policy used by set-associative cache banks. -/
inductive ReplacementPolicy
  | roundRobin | leastRecentlyUsed
  deriving DecidableEq, Repr

/-- Store commit policy for cached lines. -/
inductive WritePolicy
  | writeThrough | writeBack
  deriving DecidableEq, Repr

/-- Miss policy for store accesses. -/
inductive StoreAllocationPolicy
  | noWriteAllocate | writeAllocate
  deriving DecidableEq, Repr

/-- Static cache geometry and address policy. A line has `2 ^ lineBits` bytes, at least four. -/
structure CacheConfig where
  lineCount : Nat
  lineBits : Nat := 2
  associativity : Nat := 1
  replacementPolicy : ReplacementPolicy := .roundRobin
  writePolicy : WritePolicy := .writeThrough
  storeAllocationPolicy : StoreAllocationPolicy := .noWriteAllocate
  cachedRanges : List AddressRange
  lineCount_pos : 0 < lineCount := by decide
  lineCount_lt : lineCount < 2 ^ 64 := by decide
  lineBits_ge : 2 ≤ lineBits := by decide
  lineBits_lt : lineBits < 64 := by decide
  associativity_pos : 0 < associativity := by decide
  associativity_dvd : associativity ∣ lineCount := by decide
  cachedRanges_aligned : ∀ range ∈ cachedRanges,
    range.start.toNat % 2 ^ lineBits = 0 ∧ range.size.toNat % 2 ^ lineBits = 0 := by decide

/-- An address with its low bits cleared. -/
theorem toNat_clearLow {bits : Nat} (hbits : bits < 64) (addr : Address) :
    (addr &&& ~~~(BitVec.ofNat 64 (2 ^ bits) - 1)).toNat = addr.toNat / 2 ^ bits * 2 ^ bits := by
  have hlt : 2 ^ bits < 2 ^ 64 := Nat.pow_lt_pow_right (by decide) hbits
  have hmask : BitVec.ofNat 64 (2 ^ bits) - 1 = BitVec.ofNat 64 (2 ^ bits - 1) := by
    have hpos := Nat.two_pow_pos bits
    have hone : (1 : BitVec 64).toNat = 1 := rfl
    apply BitVec.eq_of_toNat_eq
    simp only [BitVec.toNat_sub, BitVec.toNat_ofNat, hone]
    omega
  have hshift : addr &&& ~~~(BitVec.ofNat 64 (2 ^ bits) - 1) = (addr >>> bits) <<< bits := by
    rw [hmask]
    refine BitVec.eq_of_getLsbD_eq fun i hi => ?_
    rw [BitVec.getLsbD_and, BitVec.getLsbD_not, BitVec.getLsbD_ofNat, BitVec.getLsbD_shiftLeft,
      BitVec.getLsbD_ushiftRight, Nat.testBit_two_pow_sub_one]
    by_cases h : i < bits
    · simp [h, hi]
    · simp [h, hi, show bits + (i - bits) = i by omega]
  rw [hshift, BitVec.toNat_shiftLeft, BitVec.toNat_ushiftRight, Nat.shiftRight_eq_div_pow,
    Nat.shiftLeft_eq]
  exact Nat.mod_eq_of_lt ((Nat.div_mul_le_self _ _).trans_lt addr.isLt)

namespace CacheConfig

variable (config : CacheConfig)

def lineSize : Nat := 2 ^ config.lineBits

def lineWords : Nat := config.lineSize / 4

def setCount : Nat := config.lineCount / config.associativity

theorem setCount_pos : 0 < config.setCount :=
  Nat.div_pos (Nat.le_of_dvd config.lineCount_pos config.associativity_dvd) config.associativity_pos

theorem setCount_lt : config.setCount < 2 ^ 64 :=
  (Nat.div_le_self _ _).trans_lt config.lineCount_lt

theorem lineSize_pos : 0 < config.lineSize := Nat.two_pow_pos _

theorem lineSize_lt : config.lineSize < 2 ^ 64 :=
  Nat.pow_lt_pow_right (by decide) config.lineBits_lt

theorem four_dvd_lineSize : 4 ∣ config.lineSize := Nat.pow_dvd_pow 2 config.lineBits_ge

theorem lineWords_mul : config.lineWords * 4 = config.lineSize :=
  Nat.div_mul_cancel config.four_dvd_lineSize

theorem lineWords_pos : 0 < config.lineWords := by
  have h := config.lineWords_mul
  have hpos := config.lineSize_pos
  omega

/-! ## The line of an address -/

def cachesAddress (addr : Address) : Bool := config.cachedRanges.any (·.contains addr)

def lineBase (addr : Address) : Address := addr &&& ~~~(BitVec.ofNat 64 config.lineSize - 1)

/-- The line lies in one of the cached ranges; `checked_add` refuses the last line of the address
space. -/
def cachesLine (lineBase : Address) : Bool :=
  if lineBase.toNat + config.lineSize < 2 ^ 64 then
    config.cachedRanges.any fun range =>
      range.start ≤ lineBase && lineBase + BitVec.ofNat 64 config.lineSize ≤ range.endAddress
  else false

def cachesLineContaining (addr : Address) : Bool := config.cachesLine (config.lineBase addr)

/-- The address is cached: it lies in a cached range, and so does its line. -/
def caches (addr : Address) : Bool := config.cachesAddress addr && config.cachesLineContaining addr

theorem toNat_lineSize : (BitVec.ofNat 64 config.lineSize).toNat = config.lineSize :=
  Nat.mod_eq_of_lt config.lineSize_lt

theorem toNat_setCount : (BitVec.ofNat 64 config.setCount).toNat = config.setCount :=
  Nat.mod_eq_of_lt config.setCount_lt

theorem toNat_lineBase (addr : Address) :
    (config.lineBase addr).toNat = addr.toNat / config.lineSize * config.lineSize :=
  toNat_clearLow config.lineBits_lt addr

theorem lineBase_le (addr : Address) : (config.lineBase addr).toNat ≤ addr.toNat := by
  rw [toNat_lineBase]
  exact Nat.div_mul_le_self _ _

theorem toNat_sub_lineBase (addr : Address) :
    (addr - config.lineBase addr).toNat = addr.toNat % config.lineSize := by
  have hle := config.lineBase_le addr
  have hdiv := Nat.div_add_mod' addr.toNat config.lineSize
  rw [toNat_lineBase] at hle
  rw [BitVec.toNat_sub, toNat_lineBase]
  have haddr := addr.isLt
  omega

theorem lineBase_eq_iff {a b : Address} :
    config.lineBase a = config.lineBase b ↔ a.toNat / config.lineSize = b.toNat / config.lineSize := by
  rw [← BitVec.toNat_inj, toNat_lineBase, toNat_lineBase]
  exact Nat.mul_left_inj config.lineSize_pos.ne'

theorem lineBase_lineBase (addr : Address) :
    config.lineBase (config.lineBase addr) = config.lineBase addr := by
  rw [lineBase_eq_iff, toNat_lineBase, Nat.mul_div_cancel _ config.lineSize_pos]

/-- A cached line lies in one range, with every address of it. -/
theorem cachesAddress_of_cachesLineContaining {addr : Address}
    (h : config.cachesLineContaining addr = true) : config.cachesAddress addr = true := by
  unfold cachesLineContaining cachesLine at h
  split at h
  · rename_i hfit
    obtain ⟨range, hrange, hin⟩ := List.any_eq_true.1 h
    refine List.any_eq_true.2 ⟨range, hrange, ?_⟩
    simp only [Bool.and_eq_true, decide_eq_true_eq, BitVec.le_def, BitVec.toNat_add,
      toNat_lineSize] at hin
    rw [Nat.mod_eq_of_lt hfit] at hin
    have hmod := Nat.mod_lt addr.toNat config.lineSize_pos
    have hdiv := Nat.div_add_mod' addr.toNat config.lineSize
    rw [toNat_lineBase] at hin
    simp only [AddressRange.contains, Bool.and_eq_true, decide_eq_true_eq, BitVec.le_def,
      BitVec.lt_def]
    omega
  · cases h

theorem caches_eq (addr : Address) : config.caches addr = config.cachesLineContaining addr := by
  unfold caches
  cases h : config.cachesLineContaining addr with
  | false => exact Bool.and_false _
  | true => rw [config.cachesAddress_of_cachesLineContaining h]; rfl

end CacheConfig

/-! ## Set and tag -/

/-- Where an address is in a cache. -/
structure DecodedAddress (config : CacheConfig) where
  lineBase : Address
  setIndex : Fin config.setCount
  tag : U64
  wordIndex : Fin config.lineWords
  deriving DecidableEq

namespace CacheConfig

variable (config : CacheConfig)

theorem wordIndex_lt (addr : Address) :
    (addr - config.lineBase addr).toNat / 4 < config.lineWords := by
  rw [toNat_sub_lineBase]
  have hwords := config.lineWords_mul
  have hmod := Nat.mod_lt addr.toNat config.lineSize_pos
  omega

def decode (addr : Address) : DecodedAddress config :=
  let lineBase := config.lineBase addr
  let lineNumber := lineBase / BitVec.ofNat 64 config.lineSize
  { lineBase
    setIndex := ⟨lineNumber.toNat % config.setCount, Nat.mod_lt _ config.setCount_pos⟩
    tag := lineNumber / BitVec.ofNat 64 config.setCount
    wordIndex := ⟨(addr - lineBase).toNat / 4, config.wordIndex_lt addr⟩ }

def lineBaseForTag (setIndex : Fin config.setCount) (tag : U64) : Address :=
  (tag * BitVec.ofNat 64 config.setCount + BitVec.ofNat 64 setIndex.val) *
    BitVec.ofNat 64 config.lineSize

@[simp] theorem decode_lineBase (addr : Address) :
    (config.decode addr).lineBase = config.lineBase addr := rfl

theorem toNat_lineNumber (addr : Address) :
    (config.lineBase addr / BitVec.ofNat 64 config.lineSize).toNat =
      addr.toNat / config.lineSize := by
  rw [BitVec.toNat_udiv, toNat_lineSize, toNat_lineBase, Nat.mul_div_cancel _ config.lineSize_pos]

theorem decode_setIndex_val (addr : Address) :
    (config.decode addr).setIndex.val = addr.toNat / config.lineSize % config.setCount := by
  show (config.lineBase addr / BitVec.ofNat 64 config.lineSize).toNat % _ = _
  rw [toNat_lineNumber]

theorem toNat_decode_tag (addr : Address) :
    (config.decode addr).tag.toNat = addr.toNat / config.lineSize / config.setCount := by
  show (config.lineBase addr / BitVec.ofNat 64 config.lineSize / _).toNat = _
  rw [BitVec.toNat_udiv, toNat_lineNumber, toNat_setCount]

/-- Set and tag give back the line. -/
theorem lineBaseForTag_decode (addr : Address) :
    config.lineBaseForTag (config.decode addr).setIndex (config.decode addr).tag =
      config.lineBase addr := by
  have hnumber : addr.toNat / config.lineSize / config.setCount * config.setCount +
      addr.toNat / config.lineSize % config.setCount = addr.toNat / config.lineSize :=
    Nat.div_add_mod' _ _
  have hline := Nat.div_mul_le_self addr.toNat config.lineSize
  have hle := Nat.div_le_self addr.toNat config.lineSize
  have haddr := addr.isLt
  apply BitVec.eq_of_toNat_eq
  rw [toNat_lineBase, lineBaseForTag, BitVec.toNat_mul, BitVec.toNat_add, BitVec.toNat_mul,
    toNat_lineSize, toNat_setCount, toNat_decode_tag, BitVec.toNat_ofNat, decode_setIndex_val,
    ← Nat.add_mod, hnumber, Nat.mod_eq_of_lt (hle.trans_lt haddr),
    Nat.mod_eq_of_lt (hline.trans_lt haddr)]

/-- Addresses of one line have the same set and tag. -/
theorem decode_congr {a b : Address} (h : config.lineBase a = config.lineBase b) :
    (config.decode a).setIndex = (config.decode b).setIndex ∧
      (config.decode a).tag = (config.decode b).tag := by
  have hnumber := (config.lineBase_eq_iff).1 h
  constructor
  · apply Fin.ext
    rw [decode_setIndex_val, decode_setIndex_val, hnumber]
  · apply BitVec.eq_of_toNat_eq
    rw [toNat_decode_tag, toNat_decode_tag, hnumber]

/-- Lines with the same set and tag are the same. -/
theorem decode_inj {a b : Address} (hset : (config.decode a).setIndex = (config.decode b).setIndex)
    (htag : (config.decode a).tag = (config.decode b).tag) :
    config.lineBase a = config.lineBase b := by
  rw [← lineBaseForTag_decode, hset, htag, lineBaseForTag_decode]

end CacheConfig

/-! ## Small caches -/

/-- A cache of one word. -/
def oneWordCache : CacheConfig where
  lineCount := 1
  cachedRanges := [⟨0, 4⟩]

/-- A write-back cache of one word. -/
def oneWordWriteBack : CacheConfig where
  lineCount := 1
  writePolicy := .writeBack
  storeAllocationPolicy := .writeAllocate
  cachedRanges := [⟨0, 4⟩]

/-- A cache with two lines of one word. -/
def twoWords : CacheConfig where
  lineCount := 2
  cachedRanges := [⟨0, 16⟩]

/-- Two lines of one word in one set. -/
def twoWays : CacheConfig where
  lineCount := 2
  associativity := 2
  replacementPolicy := .leastRecentlyUsed
  cachedRanges := [⟨0, 16⟩]

/-- A write-back cache of one line of two words. -/
def twoWordLine : CacheConfig where
  lineCount := 1
  lineBits := 3
  writePolicy := .writeBack
  storeAllocationPolicy := .writeAllocate
  cachedRanges := [⟨0, 16⟩]

/-- A write-back cache with two lines of four words. -/
def twoLines : CacheConfig where
  lineCount := 2
  lineBits := 4
  writePolicy := .writeBack
  storeAllocationPolicy := .writeAllocate
  cachedRanges := [⟨0, 64⟩]

end RvSim
