import RvSim.System.Cache.FetchMemory
import RvSim.System.Cache.MaintainedMemory
import RvSim.System.Cache.Replacement

/-!
# Coherence by maintenance

A client of a split cache that writes ranges back and invalidates them, beside a device that rewrites the
memory under the caches. A range that is written back lies in that memory; what the device then writes there
is what the client sees once it has invalidated the range, and so are its own stores, to its fetches.

## Main definitions

* `CoherentClient`, `CoherentClient.step`: the client, with the flat memory that its accesses are compared with
* `CoherentClient.Permits`: the order in which a range is written back, rewritten and invalidated
* `CoherentClient.Coherent`: what a step promises

## Main results

* `coherent_run`: every step of every run keeps its promise
-/

namespace RvSim

open MemoryContract Automata

/-! ## The split cache under maintenance -/

namespace SplitL1Cache

variable {instr dat : CacheConfig} {β : Type} [BurstBus β] [MemoryContract β] [CacheMaintenance β]
  [MaintainedMemory β] {start : Address} {len : U64} {memory : FlatMemory} {stale : Address → Bool}
  {cache : SplitL1Cache instr dat β}

/-- The bytes that are still stale when a range is dropped. -/
def staleOutside (start : Address) (len : U64) (stale : Address → Bool) (a : Address) : Bool :=
  stale a && !decide (InRange start len a)

/-- The write-back of the range is in progress. -/
structure FlushingWith (stale : Address → Bool) (start : Address) (len : U64) (memory : FlatMemory)
    (stage : MaintenanceStage dat) (cache : SplitL1Cache instr dat β) : Prop where
  config : dat.Within memory.mapped
  maintenance : cache.maintenance = some ⟨⟨start, len, .writeBack⟩, stage⟩
  instruction : FetchedAs stale memory.contents cache.instruction
  data : cache.data.CleansAt start len memory stage cache.inner

/-- The range is written back. -/
structure FlushedWith (stale : Address → Bool) (start : Address) (len : U64) (memory : FlatMemory)
    (bottom : ByteMemory) (cache : SplitL1Cache instr dat β) : Prop extends
    cache.ServingWith (FetchedAs stale) memory where
  data : cache.data.Clean start len memory bottom cache.inner

/-- The range is rewritten below. -/
structure OutdatedWith (stale : Address → Bool) (start : Address) (len : U64) (memory : FlatMemory)
    (bottom : ByteMemory) (cache : SplitL1Cache instr dat β) : Prop where
  config : dat.Within memory.mapped
  maintenance : cache.maintenance = none
  instruction : ∃ shown other, FetchedAs stale shown cache.instruction ∧
    memory.contents = rewritten start len other shown
  data : cache.data.Stale start len memory bottom cache.inner

/-- The invalidation of the range is in progress. -/
structure DroppingWith (stale : Address → Bool) (start : Address) (len : U64) (memory : FlatMemory)
    (cache : SplitL1Cache instr dat β) : Prop where
  config : dat.Within memory.mapped
  maintenance : cache.maintenance = some ⟨⟨start, len, .invalidate⟩, .inner⟩
  instruction : FetchedAs (staleOutside start len stale) memory.contents cache.instruction
  data : cache.data.Drops start len memory cache.inner

/-! ### Ticks -/

theorem FlushingWith.tick {stage : MaintenanceStage dat} (h : cache.FlushingWith stale start len memory stage) :
    (Bus.tick cache).FlushingWith stale start len memory stage :=
  ⟨h.config, h.maintenance, h.instruction, h.data.tick⟩

theorem FlushedWith.tick {bottom : ByteMemory} (h : cache.FlushedWith stale start len memory bottom) :
    (Bus.tick cache).FlushedWith stale start len memory bottom :=
  ⟨⟨h.config, h.maintenance, h.instruction⟩, h.data.tick⟩

theorem OutdatedWith.tick {bottom : ByteMemory} (h : cache.OutdatedWith stale start len memory bottom) :
    (Bus.tick cache).OutdatedWith stale start len memory bottom :=
  ⟨h.config, h.maintenance, h.instruction, h.data.tick⟩

theorem DroppingWith.tick (h : cache.DroppingWith stale start len memory) :
    (Bus.tick cache).DroppingWith stale start len memory :=
  ⟨h.config, h.maintenance, h.instruction, h.data.tick⟩

/-! ### Calls -/

theorem FlushingWith.continue {stage : MaintenanceStage dat}
    (h : cache.FlushingWith stale start len memory stage) :
    MaintainedAs (fun cache => ∃ stage, cache.FlushingWith stale start len memory stage)
      (fun cache => ∃ bottom, cache.FlushedWith stale start len memory bottom)
      (surfaced cache.continueMaintenance) := by
  have hsteps := CacheBank.progressMaintenance_cleans h.config h.data
  rw [continueMaintenance_eq h.maintenance]
  generalize progressMaintenance _ stage cache.data cache.inner = out at hsteps
  obtain ⟨(_ | _ | _) | _, data, inner, maintenance⟩ := out
  · obtain ⟨hbusy, stage', hmaintenance, hcleans⟩ := hsteps
    exact ⟨hbusy, stage', h.config, hmaintenance, h.instruction, hcleans⟩
  · exact hsteps.elim
  · exact hsteps.elim
  · obtain ⟨hmaintenance, bottom, hclean⟩ := hsteps
    exact ⟨bottom, ⟨h.config, hmaintenance, h.instruction⟩, hclean⟩

theorem DroppingWith.continue (h : cache.DroppingWith stale start len memory) :
    MaintainedAs (DroppingWith stale start len memory)
      (QuietWith (FetchedAs (staleOutside start len stale)) memory)
      (surfaced cache.continueMaintenance) := by
  have hsteps := CacheBank.progressMaintenance_drops h.data
  rw [continueMaintenance_eq h.maintenance]
  generalize progressMaintenance _ .inner cache.data cache.inner = out at hsteps
  obtain ⟨(_ | _ | _) | _, data, inner, maintenance⟩ := out
  · obtain ⟨hbusy, hmaintenance, hdrops⟩ := hsteps
    exact ⟨hbusy, h.config, hmaintenance, h.instruction, hdrops⟩
  · exact hsteps.elim
  · exact hsteps.elim
  · obtain ⟨hmaintenance, hrests⟩ := hsteps
    exact ⟨⟨h.config, hmaintenance, h.instruction⟩, hrests⟩

/-- **A write-back that begins.** -/
theorem QuietWith.writeBack (h : cache.QuietWith (FetchedAs stale) memory) (start : Address) (len : U64) :
    MaintainedAs (fun cache => ∃ stage, cache.FlushingWith stale start len memory stage)
      (fun cache => ∃ bottom, cache.FlushedWith stale start len memory bottom)
      (CacheMaintenance.writeBackRange cache start len) := by
  have hidle : (cache.instruction.hasPendingActivity || cache.data.hasPendingActivity) = false := by
    unfold CacheBank.hasPendingActivity
    rw [h.instruction.pending, h.data.pending]
    rfl
  show MaintainedAs _ _ (surfaced (cache.maintain ⟨start, len, .writeBack⟩))
  unfold maintain ensureMaintenanceRequest
  rw [h.maintenance]
  dsimp only
  rw [hidle, if_neg Bool.false_ne_true]
  have hstart : { cache with maintenance := some ⟨⟨start, len, .writeBack⟩,
      .writeBack { lineBases := CacheBank.linesOf dat start len }⟩ }.FlushingWith stale start len memory _ :=
    ⟨h.config, rfl, h.instruction, fun _ hb => hb, CacheBank.dirtyIn_self _ _, h.data⟩
  exact hstart.continue

/-- **A write-back that is repeated.** -/
theorem FlushingWith.writeBack {stage : MaintenanceStage dat}
    (h : cache.FlushingWith stale start len memory stage) :
    MaintainedAs (fun cache => ∃ stage, cache.FlushingWith stale start len memory stage)
      (fun cache => ∃ bottom, cache.FlushedWith stale start len memory bottom)
      (CacheMaintenance.writeBackRange cache start len) := by
  show MaintainedAs _ _ (surfaced (cache.maintain ⟨start, len, .writeBack⟩))
  unfold maintain ensureMaintenanceRequest
  rw [h.maintenance]
  dsimp only
  rw [if_pos rfl]
  exact h.continue

/-- **An invalidation that begins.** -/
theorem OutdatedWith.invalidate {bottom : ByteMemory} (h : cache.OutdatedWith stale start len memory bottom) :
    MaintainedAs (DroppingWith stale start len memory)
      (QuietWith (FetchedAs (staleOutside start len stale)) memory)
      (CacheMaintenance.invalidateRange cache start len) := by
  obtain ⟨shown, other, hfetched, hmemory⟩ := h.instruction
  have hinstruction := hfetched.invalidateRange start len other
  rw [← hmemory] at hinstruction
  have hidle : (cache.instruction.hasPendingActivity || cache.data.hasPendingActivity) = false := by
    unfold CacheBank.hasPendingActivity
    rw [hfetched.pending, h.data.pending]
    rfl
  show MaintainedAs _ _ (surfaced (cache.maintain ⟨start, len, .invalidate⟩))
  unfold maintain ensureMaintenanceRequest
  rw [h.maintenance]
  dsimp only
  rw [hidle, if_neg Bool.false_ne_true]
  have hstart : { cache with
      data := cache.data.invalidateRange start len
      instruction := cache.instruction.invalidateRange start len
      maintenance := some ⟨⟨start, len, .invalidate⟩, .inner⟩ }.DroppingWith stale start len memory :=
    ⟨h.config, rfl, hinstruction, h.data.drops⟩
  exact hstart.continue

/-- **An invalidation that is repeated.** -/
theorem DroppingWith.invalidate (h : cache.DroppingWith stale start len memory) :
    MaintainedAs (DroppingWith stale start len memory)
      (QuietWith (FetchedAs (staleOutside start len stale)) memory)
      (CacheMaintenance.invalidateRange cache start len) := by
  show MaintainedAs _ _ (surfaced (cache.maintain ⟨start, len, .invalidate⟩))
  unfold maintain ensureMaintenanceRequest
  rw [h.maintenance]
  dsimp only
  rw [if_pos rfl]
  exact h.continue

/-- A range that is written back may be rewritten below. -/
theorem FlushedWith.outdated {bottom : ByteMemory} (h : cache.FlushedWith stale start len memory bottom) :
    cache.OutdatedWith stale start len memory bottom := by
  refine ⟨h.config, h.maintenance, ⟨memory.contents, memory.contents, h.instruction, ?_⟩, h.data.stale⟩
  rw [rewritten_of_eq fun _ _ => rfl]

/-- **A rewriting.** -/
theorem OutdatedWith.rewrite {bottom other : ByteMemory} {inner : β}
    (h : cache.OutdatedWith stale start len memory bottom)
    (hrewrites : MaintainedMemory.Rewrites ⟨memory.mapped, bottom⟩ other cache.inner inner)
    (hother : ∀ a, ¬ InRange start len a → other a = bottom a) :
    { cache with inner }.OutdatedWith stale start len
      ⟨memory.mapped, rewritten start len other memory.contents⟩ other := by
  obtain ⟨shown, before, hfetched, hmemory⟩ := h.instruction
  refine ⟨h.config, h.maintenance, ⟨shown, other, hfetched, ?_⟩, h.data.rewrite hrewrites hother⟩
  rw [hmemory]
  exact rewritten_rewritten other

theorem FlushedWith.quiet {bottom : ByteMemory} (h : cache.FlushedWith stale start len memory bottom) :
    cache.QuietWith (FetchedAs stale) memory := ⟨h.toServingWith, h.data.rests⟩

end SplitL1Cache

/-! ## A client that maintains ranges -/

/-- What has become of the last range that was maintained. -/
inductive MaintenancePhase
  /-- nothing is known of a range -/
  | serving
  | writingBack (start : Address) (len : U64)
  | writtenBack (start : Address) (len : U64)
  /-- a device has rewritten the range below -/
  | rewritten (start : Address) (len : U64)
  | invalidating (start : Address) (len : U64)
  deriving DecidableEq

/-- An access, a maintenance call, or a rewriting of the memory below by a device: `patch` has the bytes that
it writes to the range. -/
inductive CoherentOp (β : Type)
  | access (op : CacheOp)
  | writeBack (start : Address) (len : U64)
  | rewrite (device : β → β) (patch : ByteMemory)
  | invalidate (start : Address) (len : U64)

/-- A client of a split cache with the range it maintains. -/
structure CoherentClient (instr dat : CacheConfig) (β : Type) extends FetchClient instr dat β where
  phase : MaintenancePhase := .serving

/-- The answer of a maintenance call that is to be repeated. -/
def maintenanceBusy : Except BusError Unit → Bool
  | .error error => error.isBusy
  | .ok () => false

namespace CoherentClient

variable {instr dat : CacheConfig} {β : Type} [BurstBus β] [CacheMaintenance β]

/-- The phase behind an access: a request ends what is known of the range. -/
def phaseBehind (client : CoherentClient instr dat β) : CacheOp → MaintenancePhase
  | .tick => client.phase
  | .request _ => .serving

def step (client : CoherentClient instr dat β) : CoherentOp β → CoherentClient instr dat β
  | .access op => { client.toFetchClient.step op with phase := client.phaseBehind op }
  | .writeBack start len =>
    let out := CacheMaintenance.writeBackRange client.bus start len
    { client with
      bus := out.2
      phase := if maintenanceBusy out.1 then .writingBack start len else .writtenBack start len }
  | .rewrite device patch =>
    match client.phase with
    | .writtenBack start len | .rewritten start len =>
      { client with
        bus := { client.bus with inner := device client.bus.inner }
        flat := ⟨client.flat.mapped, RvSim.rewritten start len patch client.flat.contents⟩
        phase := .rewritten start len }
    | _ => client
  | .invalidate start len =>
    let out := CacheMaintenance.invalidateRange client.bus start len
    if maintenanceBusy out.1 then { client with bus := out.2, phase := .invalidating start len }
    else { client with
      bus := out.2, stale := SplitL1Cache.staleOutside start len client.stale, phase := .serving }

variable [MemoryContract β] [MaintainedMemory β]

/-- The device rewrites the range in the memory under all lines, and nothing else: whatever lies there outside
the range, it becomes the memory with the bytes of `patch` in the range. -/
def DeviceRewrites (start : Address) (len : U64) (memory : FlatMemory) (patch : ByteMemory)
    (inner inner' : β) : Prop :=
  ∀ bottom, (∀ a, InRange start len a → bottom a = memory.contents a) →
    MaintainedMemory.Rewrites ⟨memory.mapped, bottom⟩ (RvSim.rewritten start len patch bottom) inner inner'

/-- The client makes one thing at a time and repeats it while it is busy. A device may rewrite a range that is
written back, and only a range that is written back is invalidated, before any other access. -/
def Permits (client : CoherentClient instr dat β) : CoherentOp β → Prop
  | .access .tick => True
  | .access (.request request) => client.toFetchClient.Permits (.request request) ∧
      (client.phase = .serving ∨ ∃ start len, client.phase = .writtenBack start len)
  | .writeBack start len => client.waiting = none ∧
      (client.phase = .serving ∨ (∃ start len, client.phase = .writtenBack start len) ∨
        client.phase = .writingBack start len)
  | .rewrite device patch => ∃ start len,
      (client.phase = .writtenBack start len ∨ client.phase = .rewritten start len) ∧
      DeviceRewrites start len client.flat patch client.bus.inner (device client.bus.inner)
  | .invalidate start len => client.phase = .writtenBack start len ∨ client.phase = .rewritten start len ∨
      client.phase = .invalidating start len

/-- The bytes of the range lie in the memory under all lines. -/
def LiesBelow (start : Address) (len : U64) (memory : FlatMemory) (inner : β) : Prop :=
  ∃ bottom, MaintainedMemory.Under ⟨memory.mapped, bottom⟩ inner ∧
    ∀ a, InRange start len a → bottom a = memory.contents a

/-- What a step promises: an access is answered as by the flat memory, but for a fetch of a word that was dirty
when it was taken; a maintenance call is busy or is done, and a range that is written back lies below as the
flat memory has it. -/
def Coherent (client : CoherentClient instr dat β) : CoherentOp β → Prop
  | .access op => client.toFetchClient.RightIfFresh op
  | .writeBack start len =>
    maintenanceBusy (CacheMaintenance.writeBackRange client.bus start len).1 = true ∨
      (CacheMaintenance.writeBackRange client.bus start len).1 = .ok () ∧
        LiesBelow start len client.flat (CacheMaintenance.writeBackRange client.bus start len).2.inner
  | .rewrite _ _ => True
  | .invalidate start len =>
    maintenanceBusy (CacheMaintenance.invalidateRange client.bus start len).1 = true ∨
      (CacheMaintenance.invalidateRange client.bus start len).1 = .ok ()

/-! ## Steps of the client -/

variable {client : CoherentClient instr dat β} {start : Address} {len : U64}

open SplitL1Cache

/-- Where a cache is in a phase. -/
def InPhase (client : CoherentClient instr dat β) : Prop :=
  match client.phase with
  | .serving => client.toFetchClient.InStep
  | .writingBack start len => client.waiting = none ∧ instr.Within client.flat.mapped ∧
      ∃ stage, client.bus.FlushingWith client.stale start len client.flat stage
  | .writtenBack start len => client.waiting = none ∧ instr.Within client.flat.mapped ∧
      ∃ bottom, client.bus.FlushedWith client.stale start len client.flat bottom
  | .rewritten start len => client.waiting = none ∧ instr.Within client.flat.mapped ∧
      ∃ bottom, client.bus.OutdatedWith client.stale start len client.flat bottom
  | .invalidating start len => client.waiting = none ∧ instr.Within client.flat.mapped ∧
      client.bus.DroppingWith client.stale start len client.flat

omit [CacheMaintenance β] [MaintainedMemory β] in
/-- A cache with nothing in progress is in step. -/
theorem inStep_of_quiet {client : FetchClient instr dat β} (hwaiting : client.waiting = none)
    (hconfig : instr.Within client.flat.mapped)
    (hquiet : client.bus.QuietWith (FetchedAs client.stale) client.flat) : client.InStep := by
  refine ⟨hconfig, fun _ => hquiet, fun request hrequest => ?_⟩
  rw [hwaiting] at hrequest
  cases hrequest

/-- The cache between two requests. -/
theorem InPhase.inStep (h : client.InPhase)
    (hphase : client.phase = .serving ∨ ∃ start len, client.phase = .writtenBack start len) :
    client.toFetchClient.InStep := by
  unfold InPhase at h
  rcases hphase with hphase | ⟨start, len, hphase⟩
  · rw [hphase] at h
    exact h
  · rw [hphase] at h
    obtain ⟨hwaiting, hconfig, bottom, hflushed⟩ := h
    exact inStep_of_quiet hwaiting hconfig hflushed.quiet

/-- **A tick.** -/
theorem InPhase.tick (h : client.InPhase) : (client.step (.access .tick)).InPhase := by
  obtain ⟨client, phase⟩ := client
  unfold InPhase at h ⊢
  unfold step phaseBehind
  cases phase with
  | serving => exact FetchClient.InStep.tick h
  | writingBack start len =>
    obtain ⟨hwaiting, hconfig, stage, hflushing⟩ := h
    exact ⟨hwaiting, hconfig, stage, hflushing.tick⟩
  | writtenBack start len =>
    obtain ⟨hwaiting, hconfig, bottom, hflushed⟩ := h
    exact ⟨hwaiting, hconfig, bottom, hflushed.tick⟩
  | rewritten start len =>
    obtain ⟨hwaiting, hconfig, bottom, houtdated⟩ := h
    exact ⟨hwaiting, hconfig, bottom, houtdated.tick⟩
  | invalidating start len =>
    obtain ⟨hwaiting, hconfig, hdropping⟩ := h
    exact ⟨hwaiting, hconfig, hdropping.tick⟩

/-- **A request.** -/
theorem InPhase.request (h : client.InPhase) {request : BusRequest}
    (hpermits : client.Permits (.access (.request request))) :
    client.Coherent (.access (.request request)) ∧ (client.step (.access (.request request))).InPhase := by
  obtain ⟨hrequest, hphase⟩ := hpermits
  exact (h.inStep hphase).step hrequest

/-- **A write-back.** -/
theorem InPhase.writeBack (h : client.InPhase) (hpermits : client.Permits (.writeBack start len)) :
    client.Coherent (.writeBack start len) ∧ (client.step (.writeBack start len)).InPhase := by
  obtain ⟨hwaiting, hphase⟩ := hpermits
  -- a new write-back starts from a cache with nothing in progress, or it is repeated
  have hmaintained : instr.Within client.flat.mapped ∧
      MaintainedAs (fun cache => ∃ stage, cache.FlushingWith client.stale start len client.flat stage)
        (fun cache => ∃ bottom, cache.FlushedWith client.stale start len client.flat bottom)
        (CacheMaintenance.writeBackRange client.bus start len) := by
    rcases hphase with hserving | hwritten | hwriting
    · have hinStep := h.inStep (.inl hserving)
      exact ⟨hinStep.config, (hinStep.quiet hwaiting).writeBack start len⟩
    · have hinStep := h.inStep (.inr hwritten)
      exact ⟨hinStep.config, (hinStep.quiet hwaiting).writeBack start len⟩
    · unfold InPhase at h
      rw [hwriting] at h
      obtain ⟨-, hconfig, stage, hflushing⟩ := h
      exact ⟨hconfig, hflushing.writeBack⟩
  obtain ⟨hconfig, hmaintained⟩ := hmaintained
  unfold Coherent step
  dsimp only
  generalize CacheMaintenance.writeBackRange client.bus start len = out at hmaintained
  obtain ⟨error | _, bus⟩ := out
  · obtain ⟨hbusy, hflushing⟩ := hmaintained
    have hbusy : maintenanceBusy (.error error) = true := hbusy
    refine ⟨.inl hbusy, ?_⟩
    rw [if_pos hbusy]
    exact ⟨hwaiting, hconfig, hflushing⟩
  · obtain ⟨bottom, hflushed⟩ := hmaintained
    refine ⟨.inr ⟨rfl, bottom, hflushed.data.under, fun a hin => hflushed.data.bottom_eq hin⟩, ?_⟩
    rw [if_neg (show ¬ maintenanceBusy (.ok ()) = true from Bool.false_ne_true)]
    exact ⟨hwaiting, hconfig, bottom, hflushed⟩

/-- The cache whose range may be rewritten. -/
theorem InPhase.outdated (h : client.InPhase)
    (hphase : client.phase = .writtenBack start len ∨ client.phase = .rewritten start len) :
    client.waiting = none ∧ instr.Within client.flat.mapped ∧
      ∃ bottom, client.bus.OutdatedWith client.stale start len client.flat bottom := by
  unfold InPhase at h
  rcases hphase with hphase | hphase
  · rw [hphase] at h
    obtain ⟨hwaiting, hconfig, bottom, hflushed⟩ := h
    exact ⟨hwaiting, hconfig, bottom, hflushed.outdated⟩
  · rw [hphase] at h
    exact h

/-- **A rewriting.** -/
theorem InPhase.rewrite (h : client.InPhase) {device : β → β} {patch : ByteMemory}
    (hpermits : client.Permits (.rewrite device patch)) :
    (client.step (.rewrite device patch)).InPhase := by
  obtain ⟨start, len, hphase, hdevice⟩ := hpermits
  obtain ⟨hwaiting, hconfig, bottom, houtdated⟩ := h.outdated hphase
  have hrewrites := hdevice bottom fun a hin => houtdated.data.bottom_eq hin
  have hrewritten := houtdated.rewrite hrewrites fun a hout => if_neg hout
  have hcontents : RvSim.rewritten start len (RvSim.rewritten start len patch bottom) client.flat.contents =
      RvSim.rewritten start len patch client.flat.contents := by
    funext a
    unfold RvSim.rewritten
    split <;> rfl
  rw [hcontents] at hrewritten
  unfold step
  rcases hphase with hphase | hphase <;> rw [hphase] <;> exact ⟨hwaiting, hconfig, _, hrewritten⟩

/-- **An invalidation.** -/
theorem InPhase.invalidate (h : client.InPhase) (hpermits : client.Permits (.invalidate start len)) :
    client.Coherent (.invalidate start len) ∧ (client.step (.invalidate start len)).InPhase := by
  have hmaintained : client.waiting = none ∧ instr.Within client.flat.mapped ∧
      MaintainedAs (DroppingWith client.stale start len client.flat)
        (QuietWith (FetchedAs (staleOutside start len client.stale)) client.flat)
        (CacheMaintenance.invalidateRange client.bus start len) := by
    rcases hpermits with hwritten | hrewritten | hinvalidating
    · obtain ⟨hwaiting, hconfig, bottom, houtdated⟩ := h.outdated (.inl hwritten)
      exact ⟨hwaiting, hconfig, houtdated.invalidate⟩
    · obtain ⟨hwaiting, hconfig, bottom, houtdated⟩ := h.outdated (.inr hrewritten)
      exact ⟨hwaiting, hconfig, houtdated.invalidate⟩
    · unfold InPhase at h
      rw [hinvalidating] at h
      obtain ⟨hwaiting, hconfig, hdropping⟩ := h
      exact ⟨hwaiting, hconfig, hdropping.invalidate⟩
  obtain ⟨hwaiting, hconfig, hmaintained⟩ := hmaintained
  unfold Coherent step
  dsimp only
  generalize CacheMaintenance.invalidateRange client.bus start len = out at hmaintained
  obtain ⟨error | _, bus⟩ := out
  · obtain ⟨hbusy, hdropping⟩ := hmaintained
    have hbusy : maintenanceBusy (.error error) = true := hbusy
    refine ⟨.inl hbusy, ?_⟩
    rw [if_pos hbusy]
    exact ⟨hwaiting, hconfig, hdropping⟩
  · refine ⟨.inr rfl, ?_⟩
    rw [if_neg (show ¬ maintenanceBusy (.ok ()) = true from Bool.false_ne_true)]
    exact inStep_of_quiet hwaiting hconfig hmaintained

theorem InPhase.step (h : client.InPhase) {op : CoherentOp β} (hpermits : client.Permits op) :
    client.Coherent op ∧ (client.step op).InPhase := by
  cases op with
  | access op =>
    cases op with
    | tick => exact ⟨fun _ => trivial, h.tick⟩
    | request request => exact h.request hpermits
  | writeBack start len => exact h.writeBack hpermits
  | rewrite device patch => exact ⟨trivial, h.rewrite hpermits⟩
  | invalidate start len => exact h.invalidate hpermits

end CoherentClient

/-- The client in front of a new cache. -/
def CoherentClient.start {β : Type} [BurstBus β] (instr dat : CacheConfig) (memory : FlatMemory) (inner : β) :
    CoherentClient instr dat β where
  toFetchClient := .start instr dat memory inner

/-! ### A device that stores to a range -/

section Device

variable {D : Type} [Addressable D] [MemoryDevice D] {n : Nat} {config : CacheConfig} {start : Address} {len : U64}
  {memory : FlatMemory} {op : StoreOp}

/-- **A device whose store to the range is answered** rewrites the range. -/
theorem CoherentClient.deviceRewrites_store (request : BusRequest)
    {cache : DirectMappedCache config (MemoryMap D n)} (hstore : request.storeOp = some op) (haligned : ¬ request.Misaligned)
    (hmaps : memory.Maps request.addr request.width)
    (hin : ∀ a, (a - op.addr).toNat < op.width → InRange start len a)
    (hdone : (request.call cache.inner).1.toOption.isSome = true) :
    DeviceRewrites start len memory (memory.contents.store op) cache
      { cache with inner := (request.call cache.inner).2 } := by
  intro bottom hbottom
  refine ⟨_, rfl, fun hquiet => ?_⟩
  have hmaps : (⟨memory.mapped, bottom⟩ : FlatMemory).Maps request.addr request.width := hmaps
  have hanswered := MemoryContract.call_quiet haligned hmaps hquiet
  have hcontents : RvSim.rewritten start len (memory.contents.store op) bottom = request.effect bottom := by
    funext a
    unfold BusRequest.effect RvSim.rewritten
    simp only [hstore, ByteMemory.store]
    by_cases hstored : (a - op.addr).toNat < op.width
    · simp only [hin a hstored, hstored, if_true]
    · simp only [hstored, if_false]
      split
      · next hrange => exact (hbottom a hrange).symm
      · rfl
  unfold AnsweredAs at hanswered
  rw [hcontents]
  generalize request.call cache.inner = out at hanswered hdone
  obtain ⟨_ | _, map⟩ := out
  · cases hdone
  · exact hanswered.2

end Device

open CoherentClient in
/-- **Coherence by maintenance.** In every run of a client that repeats what is busy, beside a device that
rewrites ranges that are written back: every access is answered as by the flat memory that has the client's own
stores and the device's bytes, but for a fetch of a word that was dirty when it was taken; a maintenance call is
busy or done, and never fails; and a range that is written back lies in the memory under all lines. -/
theorem coherent_run {β : Type} [BurstBus β] [CacheMaintenance β] [MemoryContract β] [MaintainedMemory β]
    (instr dat : CacheConfig) (memory : FlatMemory) (inner : β) (hinner : Quiet memory inner)
    (hinstr : instr.Within memory.mapped) (hdat : dat.Within memory.mapped) (ops : List (CoherentOp β))
    (hops : Along CoherentClient.step Permits (.start instr dat memory inner) ops) :
    Along CoherentClient.step Coherent (.start instr dat memory inner) ops := by
  have hstart : (CoherentClient.start instr dat memory inner).InPhase :=
    FetchClient.inStep_start hinstr hdat hinner
  refine Along.of_invariant (I := InPhase) hstart ?_ hops
  intro client op hphase hpermits
  exact hphase.step hpermits

/-! ### A small system -/

namespace CoherentClient

/-- A client of a cache with a line of two words, over a cache of two words and a memory. -/
def fourWordsClient (memory : FlatMemory) :
    CoherentClient twoWords twoWordLine (DirectMappedCache twoWords (MemoryMap Ram 1)) :=
  .start _ _ memory (.new CacheBank.fourWords twoWords)

/-- A store that dirties the line, which is then written back. -/
def dirtyingOps : List (CoherentOp (DirectMappedCache twoWords (MemoryMap Ram 1))) :=
  [.access (.request (.store32 0 7)), .access .tick, .writeBack 0 8]

/-- The device stores to the second word. -/
def storeBelow (cache : DirectMappedCache twoWords (MemoryMap Ram 1)) :
    DirectMappedCache twoWords (MemoryMap Ram 1) :=
  { cache with inner := ((BusRequest.store32 4 9).call cache.inner).2 }

/-- Both words are read behind the invalidation. -/
def refreshingOps : List (CoherentOp (DirectMappedCache twoWords (MemoryMap Ram 1))) :=
  [.invalidate 0 8, .access (.request (.load32 4)), .access .tick, .access (.request (.fetch32 0))]

end CoherentClient

open CoherentClient CacheBank in
theorem coherent_run_fourWords :
    Along CoherentClient.step Coherent (fourWordsClient (fourWords.memoryOf 0)) (dirtyingOps ++
      .rewrite storeBelow ((run step (fourWordsClient (fourWords.memoryOf 0)) dirtyingOps).flat.contents.store
        ⟨4, 4, 9⟩) :: refreshingOps) := by
  have hmapped {config : CacheConfig} (h : config.cachedRanges = [⟨0, 16⟩]) :
      config.Within (fourWords.memoryOf 0).mapped := by
    intro addr hcaches
    exact within_slowRam h addr hcaches
  have hmap : fourWords.QuietAs (fourWords.memoryOf 0) :=
    ⟨rfl, rfl, rfl, 0, MemoryMap.backs_memoryOf _ 0⟩
  have hunified : (DirectMappedCache.new fourWords twoWords).QuietAs (fourWords.memoryOf 0) :=
    ⟨⟨hmapped rfl, rfl⟩, rfl, CacheBank.rests_new twoWords hmap⟩
  apply coherent_run twoWords twoWordLine _ _ hunified (hmapped rfl) (hmapped rfl)
  rw [along_append]
  constructor
  · exact ⟨⟨by decide +kernel, .inl rfl⟩, trivial, ⟨by decide +kernel, .inl (by decide +kernel)⟩, trivial⟩
  · refine ⟨⟨0, 8, .inl (by decide +kernel), ?_⟩, .inr (.inl (by decide +kernel)),
      ⟨by decide +kernel, .inl (by decide +kernel)⟩, trivial, ⟨by decide +kernel, .inl (by decide +kernel)⟩,
      trivial⟩
    apply deviceRewrites_store (.store32 4 9) rfl
    · decide
    · intro offset hoffset
      have hbytes : ∀ i : Fin 4, (fourWords.memoryOf 0).mapped
          ((BusRequest.store32 4 9).addr + BitVec.ofNat 64 i) = true := by decide +kernel
      exact hbytes ⟨offset, hoffset⟩
    · intro a ha
      have haddr : (a - 4#64).toNat < 4 := ha
      unfold InRange
      bv_omega
    · decide +kernel

end RvSim
