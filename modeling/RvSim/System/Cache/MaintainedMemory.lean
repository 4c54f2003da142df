import RvSim.System.Cache.Refresh
import RvSim.System.Cache.UnifiedMemory
import RvSim.System.MapMemory

/-!
# A memory that is maintained

What a client may rely on of a bus whose lines it writes back and invalidates: a write-back of a range that is
repeated until it is done leaves the bytes of the range in the memory under all lines, and shows the same memory
as before. If that memory is then rewritten in the range, by a device, an invalidation of the range shows the
new bytes.

## Main definitions

* `MaintainedAs`: a maintenance call waits, or is done
* `MaintainedMemory`: the contract

## Main results

* the instances for `MemoryMap` and `DirectMappedCache`
-/

namespace RvSim

open MemoryContract

/-- A maintenance call waits, or is done. -/
def MaintainedAs {β : Type} (waits done : β → Prop) (out : Except BusError Unit × β) : Prop :=
  match out.1 with
  | .ok () => done out.2
  | .error error => error.isBusy = true ∧ waits out.2

/-- A bus with maintenance that is a memory. In `Flushed start len memory bottom b` nothing is in progress, no
line of the range is dirty, and `bottom` is the memory under all lines; in `Flushing` the write-back of the
range is in progress. In `Outdated start len memory bottom b` the lines of the range are still those from
before the rewritings below, and `memory` is what is shown when they are dropped; in `Dropping` the invalidation
is in progress. -/
class MaintainedMemory (β : Type) [BurstBus β] [MemoryContract β] [CacheMaintenance β] where
  Flushed : Address → U64 → FlatMemory → ByteMemory → β → Prop
  Flushing : Address → U64 → FlatMemory → β → Prop
  Outdated : Address → U64 → FlatMemory → ByteMemory → β → Prop
  Dropping : Address → U64 → FlatMemory → β → Prop
  /-- the memory under all lines -/
  Under : FlatMemory → β → Prop
  /-- the memory under all lines, the first one, has become the second -/
  Rewrites : FlatMemory → ByteMemory → β → β → Prop
  flushed_tick {start : Address} {len : U64} {memory : FlatMemory} {bottom : ByteMemory} {b : β} :
    Flushed start len memory bottom b → Flushed start len memory bottom (Bus.tick b)
  flushing_tick {start : Address} {len : U64} {memory : FlatMemory} {b : β} :
    Flushing start len memory b → Flushing start len memory (Bus.tick b)
  outdated_tick {start : Address} {len : U64} {memory : FlatMemory} {bottom : ByteMemory} {b : β} :
    Outdated start len memory bottom b → Outdated start len memory bottom (Bus.tick b)
  dropping_tick {start : Address} {len : U64} {memory : FlatMemory} {b : β} :
    Dropping start len memory b → Dropping start len memory (Bus.tick b)
  writeBack {start : Address} {len : U64} {memory : FlatMemory} {b : β} :
    Quiet memory b ∨ Flushing start len memory b →
      MaintainedAs (Flushing start len memory) (fun b => ∃ bottom, Flushed start len memory bottom b)
        (CacheMaintenance.writeBackRange b start len)
  quiet_of_flushed {start : Address} {len : U64} {memory : FlatMemory} {bottom : ByteMemory} {b : β} :
    Flushed start len memory bottom b → Quiet memory b
  under_of_flushed {start : Address} {len : U64} {memory : FlatMemory} {bottom : ByteMemory} {b : β} :
    Flushed start len memory bottom b → Under ⟨memory.mapped, bottom⟩ b
  bottom_of_flushed {start : Address} {len : U64} {memory : FlatMemory} {bottom : ByteMemory} {b : β}
    {a : Address} : Flushed start len memory bottom b → InRange start len a → bottom a = memory.contents a
  outdated {start : Address} {len : U64} {memory : FlatMemory} {bottom : ByteMemory} {b : β} :
    Flushed start len memory bottom b → Outdated start len memory bottom b
  bottom_of_outdated {start : Address} {len : U64} {memory : FlatMemory} {bottom : ByteMemory} {b : β}
    {a : Address} : Outdated start len memory bottom b → InRange start len a → bottom a = memory.contents a
  rewrite {start : Address} {len : U64} {memory : FlatMemory} {bottom other : ByteMemory} {b b' : β} :
    Outdated start len memory bottom b → Rewrites ⟨memory.mapped, bottom⟩ other b b' →
      (∀ a, ¬ InRange start len a → other a = bottom a) →
        Outdated start len ⟨memory.mapped, rewritten start len other memory.contents⟩ other b'
  invalidate {start : Address} {len : U64} {memory : FlatMemory} {b : β} :
    (∃ bottom, Outdated start len memory bottom b) ∨ Dropping start len memory b →
      MaintainedAs (Dropping start len memory) (Quiet memory) (CacheMaintenance.invalidateRange b start len)

/-! ## The memory map -/

/-- A memory map has no lines. -/
instance {D : Type} [Addressable D] [MemoryDevice D] {n : Nat} : MaintainedMemory (MemoryMap D n) where
  Flushed _ _ memory bottom map := Quiet memory map ∧ bottom = memory.contents
  Flushing _ _ _ _ := False
  Outdated _ _ memory bottom map := Quiet memory map ∧ bottom = memory.contents
  Dropping _ _ _ _ := False
  Under := Quiet
  Rewrites memory other map map' := Quiet memory map → Quiet ⟨memory.mapped, other⟩ map'
  flushed_tick h := ⟨quiet_tick h.1, h.2⟩
  flushing_tick h := h
  outdated_tick h := ⟨quiet_tick h.1, h.2⟩
  dropping_tick h := h
  writeBack h := by
    rcases h with h | h
    · exact ⟨_, h, rfl⟩
    · exact h.elim
  quiet_of_flushed h := h.1
  under_of_flushed h := by
    obtain ⟨hquiet, rfl⟩ := h
    exact hquiet
  bottom_of_flushed h _ := congrFun h.2 _
  outdated h := h
  bottom_of_outdated h _ := congrFun h.2 _
  rewrite h hrewrites hother := by
    obtain ⟨hquiet, rfl⟩ := h
    rw [rewritten_of_agree hother]
    exact ⟨hrewrites hquiet, rfl⟩
  invalidate h := by
    rcases h with ⟨bottom, h, -⟩ | h
    · exact h
    · exact h.elim

/-! ## The maintenance of a bank -/

namespace CacheBank

variable {config : CacheConfig} {β : Type} [BurstBus β] [MemoryContract β] [CacheMaintenance β]
  [MaintainedMemory β] {start : Address} {len : U64} {memory : FlatMemory} {bank : CacheBank config}
  {inner : β}

/-- The lines of a range. -/
abbrev linesOf (config : CacheConfig) (start : Address) (len : U64) : List Address :=
  lineBasesForRange config start len

theorem lineBase_of_mem_linesOf {b : Address} (h : b ∈ linesOf config start len) : config.lineBase b = b := by
  rcases (config.mem_lineBasesForRange b).1 h with ⟨addr, -, rfl⟩ | hbehind
  · exact config.lineBase_lineBase addr
  · exact hbehind.lineBase_eq

/-- No line of the range is dirty, in the bank and below it. -/
structure Clean (start : Address) (len : U64) (memory : FlatMemory) (bottom : ByteMemory)
    (bank : CacheBank config) (inner : β) : Prop where
  pending : bank.pending = none
  clean : bank.DirtyIn (linesOf config start len) []
  lower : ∃ lower, bank.Holds .whole lower memory.contents none ∧
    MaintainedMemory.Flushed start len ⟨memory.mapped, lower⟩ bottom inner

/-- The write-back of the range has come to a stage. -/
def CleansAt (start : Address) (len : U64) (memory : FlatMemory) (stage : MaintenanceStage config)
    (bank : CacheBank config) (inner : β) : Prop :=
  match stage with
  | .writeBack pending => bank.Flushing (linesOf config start len) memory pending inner
  | .inner => bank.pending = none ∧ bank.DirtyIn (linesOf config start len) [] ∧
      ∃ lower, bank.Holds .whole lower memory.contents none ∧
        MaintainedMemory.Flushing start len ⟨memory.mapped, lower⟩ inner

/-- The stage below the bank. -/
theorem progressInner_cleans (hpending : bank.pending = none)
    (hclean : bank.DirtyIn (linesOf config start len) []) {lower : ByteMemory}
    (hholds : bank.Holds .whole lower memory.contents none)
    (h : Quiet ⟨memory.mapped, lower⟩ inner ∨ MaintainedMemory.Flushing start len ⟨memory.mapped, lower⟩ inner) :
    Ends False (progressInner config ⟨start, len, .writeBack⟩ inner)
      (fun _ s => s.2 = none ∧ ∃ bottom, bank.Clean start len memory bottom s.1)
      fun error s => error.isBusy = true ∧ s.2 = some ⟨⟨start, len, .writeBack⟩, .inner⟩ ∧
        bank.CleansAt start len memory .inner s.1 := by
  have hbelow := MaintainedMemory.writeBack h
  unfold progressInner MaintenanceRequest.call
  dsimp only
  generalize CacheMaintenance.writeBackRange inner start len = out at hbelow
  obtain ⟨error | _, inner'⟩ := out
  · obtain ⟨hbusy, hflushing⟩ := hbelow
    cases error with
    | busy n => exact ⟨rfl, rfl, hpending, hclean, lower, hholds, hflushing⟩
    | _ => cases hbusy
  · obtain ⟨bottom, hflushed⟩ := hbelow
    exact ⟨rfl, bottom, hpending, hclean, lower, hholds, hflushed⟩

/-- **A step of the write-back of a range.** -/
theorem progressMaintenance_cleans (hconfig : config.Within memory.mapped)
    {stage : MaintenanceStage config} (h : bank.CleansAt start len memory stage inner) :
    Ends False (progressMaintenance ⟨start, len, .writeBack⟩ stage bank inner)
      (fun _ s => s.2.2 = none ∧ ∃ bottom, s.1.Clean start len memory bottom s.2.1)
      fun error s => error.isBusy = true ∧ ∃ stage', s.2.2 = some ⟨⟨start, len, .writeBack⟩, stage'⟩ ∧
        s.1.CleansAt start len memory stage' s.2.1 := by
  cases stage with
  | inner =>
    obtain ⟨hpending, hclean, lower, hholds, hflushing⟩ := h
    have hbelow := progressInner_cleans hpending hclean hholds (.inr hflushing)
    unfold progressMaintenance
    dsimp only
    generalize progressInner config ⟨start, len, .writeBack⟩ inner = out at hbelow
    obtain ⟨(_ | _ | _) | _, inner', maintenance⟩ := out
    · exact ⟨hbelow.1, _, hbelow.2⟩
    · exact hbelow
    · exact hbelow
    · exact hbelow
  | writeBack pending =>
    have hlines := continueWriteBackRange_flushes hconfig (fun b => lineBase_of_mem_linesOf) h
    unfold progressMaintenance
    dsimp only
    generalize bank.continueWriteBackRange inner pending = out at hlines
    obtain ⟨(_ | _ | _) | _, bank', pending', inner'⟩ := out
    · exact ⟨hlines.1, _, rfl, hlines.2⟩
    · exact hlines
    · exact hlines
    · -- the bank is clean: now the level below
      obtain ⟨hclean, hpending, lower, hholds, hquiet⟩ := hlines
      have hbelow := progressInner_cleans hpending hclean hholds (.inl hquiet)
      dsimp only
      generalize progressInner config ⟨start, len, .writeBack⟩ inner' = out at hbelow
      obtain ⟨(_ | _ | _) | _, inner'', maintenance⟩ := out
      · exact ⟨hbelow.1, _, hbelow.2⟩
      · exact hbelow
      · exact hbelow
      · exact hbelow

theorem CleansAt.tick {stage : MaintenanceStage config} (h : bank.CleansAt start len memory stage inner) :
    bank.CleansAt start len memory stage (Bus.tick inner) := by
  cases stage with
  | inner =>
    obtain ⟨hpending, hclean, lower, hholds, hflushing⟩ := h
    exact ⟨hpending, hclean, lower, hholds, MaintainedMemory.flushing_tick hflushing⟩
  | writeBack pending => exact flushing_tick h

namespace Clean

variable {bottom : ByteMemory}

theorem tick (h : bank.Clean start len memory bottom inner) :
    bank.Clean start len memory bottom (Bus.tick inner) := by
  obtain ⟨hpending, hclean, lower, hholds, hflushed⟩ := h
  exact ⟨hpending, hclean, lower, hholds, MaintainedMemory.flushed_tick hflushed⟩

theorem rests (h : bank.Clean start len memory bottom inner) : bank.Rests .whole memory inner := by
  obtain ⟨hpending, -, lower, hholds, hflushed⟩ := h
  exact ⟨hpending, lower, hholds, MaintainedMemory.quiet_of_flushed hflushed⟩

theorem under (h : bank.Clean start len memory bottom inner) :
    MaintainedMemory.Under ⟨memory.mapped, bottom⟩ inner := by
  obtain ⟨-, -, lower, -, hflushed⟩ := h
  have hunder := MaintainedMemory.under_of_flushed hflushed
  exact hunder

/-- The bytes of the range lie under all lines as they are shown. -/
theorem bottom_eq (h : bank.Clean start len memory bottom inner) {a : Address} (hin : InRange start len a) :
    bottom a = memory.contents a := by
  obtain ⟨-, hclean, lower, hholds, hflushed⟩ := h
  have hline : config.lineBase a ∈ linesOf config start len :=
    (config.mem_lineBasesForRange _).2 (.inl ⟨a, hin, rfl⟩)
  have hlower : memory.contents a = lower a := by
    refine hholds.rest trivial a trivial (fun hdirty => ?_) fun _ h => by cases h
    exact absurd (hclean a hline hdirty) List.not_mem_nil
  rw [hlower]
  exact MaintainedMemory.bottom_of_flushed hflushed hin

end Clean

/-- The memory is what the bank shows when it has dropped the lines of the range: they are clean, and `other`
has the bytes that lie under them now. -/
structure Stale (start : Address) (len : U64) (memory : FlatMemory) (bottom : ByteMemory)
    (bank : CacheBank config) (inner : β) : Prop where
  pending : bank.pending = none
  clean : bank.DirtyIn (linesOf config start len) []
  lower : ∃ lower shown other, bank.Holds .whole lower shown none ∧
    memory.contents = rewritten start len other shown ∧
    MaintainedMemory.Outdated start len ⟨memory.mapped, rewritten start len other lower⟩ bottom inner

/-- The bank has dropped the lines of the range; below it they are still to be dropped. -/
structure Drops (start : Address) (len : U64) (memory : FlatMemory) (bank : CacheBank config)
    (inner : β) : Prop where
  pending : bank.pending = none
  lower : ∃ lower, bank.Holds .whole lower memory.contents none ∧
    ((∃ bottom, MaintainedMemory.Outdated start len ⟨memory.mapped, lower⟩ bottom inner) ∨
      MaintainedMemory.Dropping start len ⟨memory.mapped, lower⟩ inner)

theorem Drops.tick (h : bank.Drops start len memory inner) : bank.Drops start len memory (Bus.tick inner) := by
  obtain ⟨hpending, lower, hholds, hbelow⟩ := h
  refine ⟨hpending, lower, hholds, ?_⟩
  rcases hbelow with ⟨bottom, houtdated⟩ | hdropping
  · exact .inl ⟨bottom, MaintainedMemory.outdated_tick houtdated⟩
  · exact .inr (MaintainedMemory.dropping_tick hdropping)

/-- A range that is written back may be rewritten below. -/
theorem Clean.stale {bottom : ByteMemory} (h : bank.Clean start len memory bottom inner) :
    bank.Stale start len memory bottom inner := by
  obtain ⟨hpending, hclean, lower, hholds, hflushed⟩ := h
  have hlower : rewritten start len memory.contents lower = lower := by
    apply rewritten_of_eq
    intro a hin
    have hline : config.lineBase a ∈ linesOf config start len :=
      (config.mem_lineBasesForRange _).2 (.inl ⟨a, hin, rfl⟩)
    refine hholds.rest trivial a trivial (fun hdirty => ?_) fun _ h => by cases h
    exact absurd (hclean a hline hdirty) List.not_mem_nil
  refine ⟨hpending, hclean, lower, memory.contents, memory.contents, hholds, ?_, ?_⟩
  · rw [rewritten_of_eq fun _ _ => rfl]
  · rw [hlower]
    exact MaintainedMemory.outdated hflushed

namespace Stale

variable {bottom : ByteMemory}

theorem tick (h : bank.Stale start len memory bottom inner) :
    bank.Stale start len memory bottom (Bus.tick inner) := by
  obtain ⟨hpending, hclean, lower, shown, other, hholds, hmemory, houtdated⟩ := h
  exact ⟨hpending, hclean, lower, shown, other, hholds, hmemory, MaintainedMemory.outdated_tick houtdated⟩

theorem bottom_eq (h : bank.Stale start len memory bottom inner) {a : Address} (hin : InRange start len a) :
    bottom a = memory.contents a := by
  obtain ⟨-, -, lower, shown, other, -, hmemory, houtdated⟩ := h
  rw [MaintainedMemory.bottom_of_outdated houtdated hin, hmemory, rewritten_of_inRange hin]
  exact rewritten_of_inRange hin

/-- **A rewriting under the lines of the range.** -/
theorem rewrite {other : ByteMemory} {inner' : β} (h : bank.Stale start len memory bottom inner)
    (hrewrites : MaintainedMemory.Rewrites ⟨memory.mapped, bottom⟩ other inner inner')
    (hother : ∀ a, ¬ InRange start len a → other a = bottom a) :
    bank.Stale start len ⟨memory.mapped, rewritten start len other memory.contents⟩ other inner' := by
  obtain ⟨hpending, hclean, lower, shown, before, hholds, hmemory, houtdated⟩ := h
  have hrewritten := MaintainedMemory.rewrite houtdated hrewrites hother
  dsimp only at hrewritten
  rw [rewritten_rewritten] at hrewritten
  refine ⟨hpending, hclean, lower, shown, other, hholds, ?_, hrewritten⟩
  rw [hmemory]
  exact rewritten_rewritten other

/-- **A bank that drops the lines of the range.** -/
theorem drops (h : bank.Stale start len memory bottom inner) :
    (bank.invalidateRange start len).Drops start len memory inner := by
  obtain ⟨hpending, hclean, lower, shown, other, hholds, hmemory, houtdated⟩ := h
  have hdropped := hholds.invalidateRange hclean other
  rw [← hmemory] at hdropped
  exact ⟨pending_invalidateRange hpending start len, _, hdropped, .inl ⟨bottom, houtdated⟩⟩

end Stale

/-- **A step of the invalidation below the bank.** -/
theorem progressMaintenance_drops (h : bank.Drops start len memory inner) :
    Ends False (progressMaintenance ⟨start, len, .invalidate⟩ .inner bank inner)
      (fun _ s => s.2.2 = none ∧ s.1.Rests .whole memory s.2.1)
      fun error s => error.isBusy = true ∧ s.2.2 = some ⟨⟨start, len, .invalidate⟩, .inner⟩ ∧
        s.1.Drops start len memory s.2.1 := by
  obtain ⟨hpending, lower, hholds, hdrops⟩ := h
  have hbelow := MaintainedMemory.invalidate hdrops
  unfold progressMaintenance progressInner MaintenanceRequest.call
  dsimp only
  generalize CacheMaintenance.invalidateRange inner start len = out at hbelow
  obtain ⟨error | _, inner'⟩ := out
  · obtain ⟨hbusy, hdropping⟩ := hbelow
    cases error with
    | busy n => exact ⟨rfl, rfl, hpending, lower, hholds, .inr hdropping⟩
    | _ => cases hbusy
  · exact ⟨rfl, hpending, lower, hholds, hbelow⟩

end CacheBank

/-! ## The unified cache -/

namespace DirectMappedCache

variable {config : CacheConfig} {β : Type} [BurstBus β] [MemoryContract β] [CacheMaintenance β]
  [MaintainedMemory β] {start : Address} {len : U64} {memory : FlatMemory}
  {cache : DirectMappedCache config β}

/-- A maintenance request is in progress. -/
structure Maintaining (request : MaintenanceRequest) (stage : MaintenanceStage config) (memory : FlatMemory)
    (cache : DirectMappedCache config β) : Prop where
  config : config.Within memory.mapped
  burst : cache.activeBurst = none
  maintenance : cache.maintenance = some ⟨request, stage⟩

structure FlushedAs (start : Address) (len : U64) (memory : FlatMemory) (bottom : ByteMemory)
    (cache : DirectMappedCache config β) : Prop extends cache.Serving memory where
  burst : cache.activeBurst = none
  bank : cache.bank.Clean start len memory bottom cache.inner

structure OutdatedAs (start : Address) (len : U64) (memory : FlatMemory) (bottom : ByteMemory)
    (cache : DirectMappedCache config β) : Prop extends cache.Serving memory where
  burst : cache.activeBurst = none
  bank : cache.bank.Stale start len memory bottom cache.inner

/-- A call that goes on with a write-back. -/
theorem maintainedAs_writeBack {stage : MaintenanceStage config}
    (h : cache.Maintaining ⟨start, len, .writeBack⟩ stage memory)
    (hbank : cache.bank.CleansAt start len memory stage cache.inner) :
    MaintainedAs
      (fun cache => ∃ stage, cache.Maintaining ⟨start, len, .writeBack⟩ stage memory ∧
        cache.bank.CleansAt start len memory stage cache.inner)
      (fun cache => ∃ bottom, cache.FlushedAs start len memory bottom)
      (surfaced cache.continueMaintenance) := by
  have hsteps := CacheBank.progressMaintenance_cleans h.config hbank
  rw [continueMaintenance_eq h.maintenance]
  generalize progressMaintenance _ stage cache.bank cache.inner = out at hsteps
  obtain ⟨(_ | _ | _) | _, bank, inner, maintenance⟩ := out
  · obtain ⟨hbusy, stage', hmaintenance, hcleans⟩ := hsteps
    exact ⟨hbusy, stage', ⟨h.config, h.burst, hmaintenance⟩, hcleans⟩
  · exact hsteps.elim
  · exact hsteps.elim
  · obtain ⟨hmaintenance, bottom, hclean⟩ := hsteps
    exact ⟨bottom, ⟨h.config, hmaintenance⟩, h.burst, hclean⟩

/-- A call that goes on with an invalidation. -/
theorem maintainedAs_invalidate (h : cache.Maintaining ⟨start, len, .invalidate⟩ .inner memory)
    (hbank : cache.bank.Drops start len memory cache.inner) :
    MaintainedAs
      (fun cache => cache.Maintaining ⟨start, len, .invalidate⟩ .inner memory ∧
        cache.bank.Drops start len memory cache.inner)
      (QuietAs memory) (surfaced cache.continueMaintenance) := by
  have hsteps := CacheBank.progressMaintenance_drops hbank
  rw [continueMaintenance_eq h.maintenance]
  generalize progressMaintenance _ .inner cache.bank cache.inner = out at hsteps
  obtain ⟨(_ | _ | _) | _, bank, inner, maintenance⟩ := out
  · obtain ⟨hbusy, hmaintenance, hdrops⟩ := hsteps
    exact ⟨hbusy, ⟨h.config, h.burst, hmaintenance⟩, hdrops⟩
  · exact hsteps.elim
  · exact hsteps.elim
  · obtain ⟨hmaintenance, hrests⟩ := hsteps
    exact ⟨⟨h.config, hmaintenance⟩, h.burst, hrests⟩

omit [MemoryContract β] [CacheMaintenance β] [MaintainedMemory β] in
theorem tick_of_activeBurst (h : cache.activeBurst = none) :
    Bus.tick cache = { cache with inner := Bus.tick cache.inner } := by
  show cache.tick.2 = _
  unfold tick advanceActiveBurst
  dsimp only
  rw [h]

/-- **A unified cache in front of a maintained memory is one.** -/
instance : MaintainedMemory (DirectMappedCache config β) where
  Flushed := FlushedAs
  Flushing start len memory cache := ∃ stage, cache.Maintaining ⟨start, len, .writeBack⟩ stage memory ∧
    cache.bank.CleansAt start len memory stage cache.inner
  Outdated := OutdatedAs
  Dropping start len memory cache := cache.Maintaining ⟨start, len, .invalidate⟩ .inner memory ∧
    cache.bank.Drops start len memory cache.inner
  Under memory cache := MaintainedMemory.Under memory cache.inner
  Rewrites memory other cache cache' := ∃ inner, cache' = { cache with inner } ∧
    MaintainedMemory.Rewrites memory other cache.inner inner
  flushed_tick h := by
    rw [tick_of_activeBurst h.burst]
    exact ⟨⟨h.config, h.maintenance⟩, h.burst, h.bank.tick⟩
  flushing_tick h := by
    obtain ⟨stage, h, hbank⟩ := h
    rw [tick_of_activeBurst h.burst]
    exact ⟨stage, ⟨h.config, h.burst, h.maintenance⟩, hbank.tick⟩
  outdated_tick h := by
    rw [tick_of_activeBurst h.burst]
    exact ⟨⟨h.config, h.maintenance⟩, h.burst, h.bank.tick⟩
  dropping_tick h := by
    obtain ⟨h, hbank⟩ := h
    rw [tick_of_activeBurst h.burst]
    exact ⟨⟨h.config, h.burst, h.maintenance⟩, hbank.tick⟩
  writeBack {start len memory cache} h := by
    show MaintainedAs _ _ (surfaced (cache.maintain ⟨start, len, .writeBack⟩))
    unfold maintain ensureMaintenanceRequest
    rcases h with h | ⟨stage, h, hbank⟩
    · -- a new request starts with all lines of the range
      have hidle : (cache.activeBurst.isSome || cache.bank.hasPendingActivity) = false := by
        unfold CacheBank.hasPendingActivity
        rw [h.burst, h.bank.pending]
        rfl
      rw [h.maintenance]
      dsimp only
      rw [hidle, if_neg Bool.false_ne_true]
      have hstart : { cache with maintenance := some ⟨⟨start, len, .writeBack⟩,
          .writeBack { lineBases := CacheBank.linesOf config start len }⟩ }.Maintaining _ _ memory :=
        ⟨h.config, h.burst, rfl⟩
      exact maintainedAs_writeBack hstart ⟨fun _ hb => hb, CacheBank.dirtyIn_self _ _, h.bank⟩
    · rw [h.maintenance]
      dsimp only
      rw [if_pos rfl]
      exact maintainedAs_writeBack h hbank
  quiet_of_flushed h := ⟨h.toServing, h.burst, h.bank.rests⟩
  under_of_flushed h := h.bank.under
  bottom_of_flushed h hin := h.bank.bottom_eq hin
  outdated h := ⟨h.toServing, h.burst, h.bank.stale⟩
  bottom_of_outdated h hin := h.bank.bottom_eq hin
  rewrite h hrewrites hother := by
    obtain ⟨inner, rfl, hrewrites⟩ := hrewrites
    exact ⟨⟨h.config, h.maintenance⟩, h.burst, h.bank.rewrite hrewrites hother⟩
  invalidate {start len memory cache} h := by
    show MaintainedAs _ _ (surfaced (cache.maintain ⟨start, len, .invalidate⟩))
    unfold maintain ensureMaintenanceRequest
    rcases h with ⟨bottom, h⟩ | ⟨h, hbank⟩
    · have hidle : (cache.activeBurst.isSome || cache.bank.hasPendingActivity) = false := by
        unfold CacheBank.hasPendingActivity
        rw [h.burst, h.bank.pending]
        rfl
      rw [h.maintenance]
      dsimp only
      rw [hidle, if_neg Bool.false_ne_true]
      have hstart : { cache with
          bank := cache.bank.invalidateRange start len
          maintenance := some ⟨⟨start, len, .invalidate⟩, .inner⟩ }.Maintaining _ _ memory :=
        ⟨h.config, h.burst, rfl⟩
      exact maintainedAs_invalidate hstart h.bank.drops
    · rw [h.maintenance]
      dsimp only
      rw [if_pos rfl]
      exact maintainedAs_invalidate h hbank

end DirectMappedCache

end RvSim
