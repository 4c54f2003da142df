import RvSim.System.Arbiter
import RvSim.System.Cache.DirectMapped
import RvSim.System.Cache.SplitL1
import RvSim.System.MemoryMap
import RvSim.System.TestBus

/-!
# Fetches of misaligned addresses

Every bus of the machine refuses to fetch a word from an address that is not a multiple of four.

## Main definitions

* `AlignedFetch`: the buses that do, with the memory map, the caches and the arbiter
-/

namespace RvSim

/-- A bus that fails every fetch of a misaligned address. -/
class AlignedFetch (β : Type) [Bus β] : Prop where
  fetch32 (bus : β) (addr : Address) (h : addr % 4 ≠ 0) : ∃ error, (Bus.fetch32 bus addr).1 = .error error

/-- What is fetched is at an aligned address. -/
theorem aligned_of_fetch32 {β : Type} [Bus β] [AlignedFetch β] {bus b : β} {addr : Address} {raw : U32}
    (h : Bus.fetch32 bus addr = (.ok raw, b)) : addr % 4 = 0 := by
  by_contra hmisaligned
  obtain ⟨error, herror⟩ := AlignedFetch.fetch32 bus addr hmisaligned
  rw [h] at herror
  cases herror

instance : AlignedFetch TestBus where
  fetch32 bus addr h := by
    show ∃ error, (bus.fetch32 addr).1 = _
    unfold TestBus.fetch32 defaultLoad32
    rw [if_pos h]
    split <;> exact ⟨_, rfl⟩

instance {D : Type} [Addressable D] {n : Nat} : AlignedFetch (MemoryMap D n) where
  fetch32 map addr h := by
    show ∃ error, (map.read (.fetch32 addr) fromLeBytes).1 = _
    refine ⟨_, congrArg Prod.fst (if_pos ?_)⟩
    exact h

instance {β M : Type} {n : Nat} [FabricBus β] [BusMaster M] [AlignedFetch β] :
    AlignedFetch (ArbiterBus β M n) where
  fetch32 arbiter addr h := by
    show ∃ error, (arbiter.forCpu (Bus.fetch32 · addr)).1 = _
    unfold ArbiterBus.forCpu
    split
    · exact ⟨_, rfl⟩
    · exact AlignedFetch.fetch32 arbiter.inner addr h

section Caches

variable {β : Type} [BurstBus β]

/-- A bank of a cache answers a misaligned fetch itself. -/
theorem CacheBank.fetch32_misaligned {config : CacheConfig} {addr : Address} (h : addr % 4 ≠ 0)
    (bank : CacheBank config) (inner : β) :
    bank.fetch32 inner addr = (.error (.bus (.misalignedAccess addr 4)), bank, inner) := if_pos h

instance {config : CacheConfig} : AlignedFetch (DirectMappedCache config β) where
  fetch32 cache addr h := by
    show ∃ error, surface (cache.through (·.fetch32 · addr)).1 = _
    unfold DirectMappedCache.through
    split
    · exact ⟨_, rfl⟩
    · dsimp only
      rw [CacheBank.fetch32_misaligned h]
      exact ⟨_, rfl⟩

instance {instr dat : CacheConfig} : AlignedFetch (SplitL1Cache instr dat β) where
  fetch32 cache addr h := by
    show ∃ error, surface (cache.unlessMaintained (cache.onInstruction
      (cache.instruction.fetch32 cache.inner addr))).1 = _
    rw [CacheBank.fetch32_misaligned h]
    unfold SplitL1Cache.unlessMaintained
    split <;> exact ⟨_, rfl⟩

end Caches

end RvSim
