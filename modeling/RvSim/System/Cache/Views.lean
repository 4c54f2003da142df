import RvSim.System.Cache.UnifiedMemory
import RvSim.System.MapMemory

/-!
# What is seen through a bank

The bytes of a bank and of the bus below it, as they lie there: a byte is seen in the line that holds it, and
else below.

## Main definitions

* `CacheLine.byte`, `MemoryMap.byte`: a byte of a line, and of a memory map
* `CacheBank.view`: a byte that is seen through a bank
* `CacheBank.LinesUnique`, `CacheBank.CleanAsBelow`: each line is there once, and as below if it is clean

## Main results

* `CacheBank.Holds.view`, `CacheBank.Holds.cleanAsBelow`: what a bank shows is what is seen through it
-/

namespace RvSim

/-- A byte of a line. -/
def CacheLine.byte {words : Nat} (line : CacheLine words) (offset : Nat) : Option U8 :=
  line.words[offset / 4]?.map fun word => (toLeBytes word).get ⟨offset % 4, Nat.mod_lt _ (by decide)⟩

namespace MemoryMap

variable {D : Type} {n : Nat} [Addressable D] [MemoryDevice D]

/-- A byte of the device that an address is decoded to. -/
def byte (map : MemoryMap D n) (addr : Address) : Option U8 :=
  (map.findDeviceIndex addr).bind fun index => MemoryDevice.byte (map.device index) addr

theorem Backs.byte {ram : Fin n} {memory : FlatMemory} {map : MemoryMap D n} (h : Backs ram memory map)
    {addr : Address} (hmapped : memory.mapped addr = true) : map.byte addr = some (memory.contents addr) := by
  unfold MemoryMap.byte
  rw [h.find addr hmapped]
  exact h.agrees addr hmapped

end MemoryMap

namespace CacheBank

variable {config : CacheConfig}

/-- The byte that is seen through the bank: in the line that holds the address, or else below. -/
def view (bank : CacheBank config) (below : Address → Option U8) (addr : Address) : Option U8 :=
  match bank.lookupWay (config.decode addr) with
  | some way => (bank.line (config.decode addr).setIndex way).byte (addr - config.lineBase addr).toNat
  | none => below addr

/-- A set holds at most one valid line of a tag. -/
def LinesUnique (bank : CacheBank config) : Prop :=
  ∀ setIndex way way', (bank.line setIndex way).valid = true → (bank.line setIndex way').valid = true →
    (bank.line setIndex way).tag = (bank.line setIndex way').tag → way = way'

/-- The bytes of a clean valid line are those below. -/
def CleanAsBelow (bank : CacheBank config) (below : Address → Option U8) : Prop :=
  ∀ setIndex way, (bank.line setIndex way).valid = true → (bank.line setIndex way).dirty = false →
    ∀ offset < config.lineSize, (bank.line setIndex way).byte offset =
      below (config.lineBaseForTag setIndex (bank.line setIndex way).tag + BitVec.ofNat 64 offset)

variable {bank : CacheBank config} {role : Role} {memory lower : ByteMemory}

/-- A byte of a line that holds the words of a memory. -/
theorem byte_of_words {line : CacheLine config.lineWords} {base : Address}
    (hwords : line.words.toList = memory.words base config.lineWords) {offset : Nat}
    (hoffset : offset < config.lineSize) :
    line.byte offset = some (memory (base + BitVec.ofNat 64 offset)) := by
  have hindex := (config.div_four_lt_iff offset).2 hoffset
  have hword : line.words[offset / 4]? = some (memory.word (ByteMemory.wordAddr base (offset / 4))) := by
    rw [← Vector.getElem?_toList, hwords, ByteMemory.words, List.getElem?_map, List.getElem?_range hindex]
    rfl
  unfold CacheLine.byte
  rw [hword, Option.map_some, ByteMemory.get_toLeBytes_word]
  unfold ByteMemory.wordAddr
  rw [BitVec.add_assoc, ← BitVec.ofNat_add, Nat.div_add_mod]

/-- The bytes of a line are those of the memory that is shown. -/
theorem Shows.byte (h : bank.Shows role memory) (hcopies : role.copies) {setIndex : Fin config.setCount}
    {way : Fin config.associativity} (hvalid : (bank.line setIndex way).valid = true) :
    ∃ addr, config.caches addr = true ∧ (config.decode addr).setIndex = setIndex ∧
      (config.decode addr).tag = (bank.line setIndex way).tag ∧
      ∀ offset < config.lineSize, (bank.line setIndex way).byte offset =
        some (memory (config.lineBase addr + BitVec.ofNat 64 offset)) := by
  obtain ⟨addr, hcaches, hset, htag, hwords⟩ := h.lines setIndex way hvalid
  exact ⟨addr, hcaches, hset, htag, fun offset hoffset => byte_of_words (hwords hcopies) hoffset⟩

/-- **What a bank shows is what is seen through it.** -/
theorem Holds.view (h : bank.Holds role lower memory none) (hcopies : role.copies)
    (hregion : ∀ addr, role.region addr) {below : Address → Option U8} {addr : Address}
    (hbelow : below addr = some (lower addr)) : bank.view below addr = some (memory addr) := by
  unfold CacheBank.view
  cases hlookup : bank.lookupWay (config.decode addr) with
  | some way =>
    have hoffset := config.lineBase_eq_iff_sub_lt.1 (rfl : config.lineBase addr = _)
    have hbyte := byte_of_words ((h.words hlookup).1 hcopies) hoffset
    rwa [BitVec.ofNat_toNat, BitVec.setWidth_eq, BitVec.add_comm, BitVec.sub_add_cancel] at hbyte
  | none =>
    rw [h.rest hcopies addr (hregion addr) (not_dirtyAt_of_lookupWay hlookup) nofun]
    exact hbelow

/-- **A clean line is as below.** -/
theorem Holds.cleanAsBelow (h : bank.Holds role lower memory none) (hcopies : role.copies)
    (hregion : ∀ addr, role.region addr) {below : Address → Option U8}
    (hbelow : ∀ addr, config.caches addr = true → below addr = some (lower addr)) :
    bank.CleanAsBelow below := by
  intro setIndex way hvalid hclean offset hoffset
  obtain ⟨addr, hcaches, rfl, htag, hbyte⟩ := h.byte hcopies hvalid
  rw [← htag, config.lineBaseForTag_decode, hbyte offset hoffset]
  have hline : config.lineBase (config.lineBase addr + BitVec.ofNat 64 offset) = config.lineBase addr := by
    rw [CacheConfig.lineBase_eq_iff_sub_lt, BitVec.add_comm, BitVec.add_sub_cancel, BitVec.toNat_ofNat,
      Nat.mod_eq_of_lt (hoffset.trans config.lineSize_lt)]
    exact hoffset
  have hdecode := config.decode_congr hline
  have hcaches' : config.caches (config.lineBase addr + BitVec.ofNat 64 offset) = true := by
    rw [CacheConfig.caches_eq, CacheConfig.cachesLineContaining] at hcaches ⊢
    rwa [hline]
  rw [hbelow _ hcaches', h.rest hcopies _ (hregion _) ?_ fun _ hflight => by cases hflight]
  -- the only line that holds the byte is clean
  rintro ⟨way', hholds, hdirty⟩
  rw [hdecode.1, hdecode.2] at hholds
  rw [hdecode.1] at hdirty
  obtain ⟨hvalid', htag'⟩ := holds_iff.1 hholds
  obtain rfl := h.unique _ _ _ hvalid hvalid' (htag.symm.trans htag'.symm)
  rw [hclean] at hdirty
  cases hdirty

end CacheBank

end RvSim
