import RvSim.Automata.Run
import RvSim.System.Cache.Views

/-!
# The split cache is a memory for data

A split first-level cache in front of a unified cache in front of a memory map, with a client that makes one
data access at a time and repeats it while it is busy. Every access is answered as by a flat memory.

## Main definitions

* `MemoryClient`, `MemoryClient.step`: a client, with the flat memory that its accesses are compared with
* `SplitL1Cache.QuietAs`, `SplitL1Cache.AwaitingAs`: the cache shows a memory
* `SplitL1Cache.LinesUnique`, `SplitL1Cache.CleanAsBelow`: what holds of the lines of all banks

## Main results

* `SplitL1Cache.dataMemory_run`: what every run of the client does
-/

namespace RvSim

open MemoryContract Automata

/-! ## A client -/

/-- The request is no fetch. -/
def BusRequest.isData : BusRequest → Bool
  | .fetch32 _ => false
  | _ => true

theorem BusRequest.ne_fetch {request : BusRequest} (h : request.isData = true) (addr : Address) :
    request ≠ .fetch32 addr := by
  rintro rfl
  cases h

/-- The answer of an access that is to be repeated. -/
def busyAnswer : Except BusError U32 → Bool
  | .error error => error.isBusy
  | .ok _ => false

/-- A client that makes one access at a time, and the flat memory that has seen the accesses that are done. -/
structure MemoryClient (γ : Type) where
  bus : γ
  flat : FlatMemory
  waiting : Option BusRequest := none

namespace MemoryClient

variable {γ : Type} [Bus γ]

/-- The client behind an access, or behind a cycle. -/
def step (client : MemoryClient γ) (op : CacheOp) : MemoryClient γ :=
  match op with
  | .tick => { client with bus := Bus.tick client.bus }
  | .request request =>
    let out := request.call client.bus
    if busyAnswer out.1 then { client with bus := out.2, waiting := some request }
    else { bus := out.2, flat := (request.call client.flat).2, waiting := none }

/-- The client makes aligned data accesses of the memory, and no other one while one is waiting. -/
def Permits (client : MemoryClient γ) : CacheOp → Prop
  | .tick => True
  | .request request => request.isData = true ∧ ¬ request.Misaligned ∧
      client.flat.Maps request.addr request.width ∧
      (client.waiting = none ∨ client.waiting = some request)

instance (client : MemoryClient γ) : DecidablePred client.Permits
  | .tick => isTrue trivial
  | .request request => inferInstanceAs (Decidable (_ ∧ _ ∧ (∀ offset < request.width, _) ∧ _))

/-- An access is to be repeated, or is answered as by the flat memory. -/
def Agrees (client : MemoryClient γ) : CacheOp → Prop
  | .tick => True
  | .request request => busyAnswer (request.call client.bus).1 = true ∨
      (request.call client.bus).1 = (request.call client.flat).1

end MemoryClient

/-! ## The split cache in front of a memory -/

namespace SplitL1Cache

variable {instr dat : CacheConfig} {β : Type} [BurstBus β] {request : BusRequest}

theorem call_eq (request : BusRequest) (cache : SplitL1Cache instr dat β) :
    request.call cache = surfaced (cache.access request) := by
  have hmap {α : Type} (out : Except CacheError α × SplitL1Cache instr dat β) (f : α → U32) :
      ((surfaced out).1.map f, (surfaced out).2) = surfaced (mapAnswer f out) := by
    obtain ⟨(_ | _ | _) | _, _⟩ := out <;> rfl
  cases request with
  | fetch32 addr => rfl
  | load8 addr => exact hmap (cache.load8 addr) _
  | load16 addr => exact hmap (cache.load16 addr) _
  | load32 addr => rfl
  | store8 addr value => exact hmap (cache.store8 addr value) _
  | store16 addr value => exact hmap (cache.store16 addr value) _
  | store32 addr value => exact hmap (cache.store32 addr value) _

variable [MemoryContract β] {memory : FlatMemory} {cache : SplitL1Cache instr dat β}

/-- The cached data ranges lie in the memory, and nothing has been fetched. -/
structure Serving (memory : FlatMemory) (cache : SplitL1Cache instr dat β) : Prop where
  config : dat.Within memory.mapped
  maintenance : cache.maintenance = none
  instruction : ∀ setIndex way, (cache.instruction.line setIndex way).valid = false

/-- Nothing is in progress. -/
structure QuietAs (memory : FlatMemory) (cache : SplitL1Cache instr dat β) : Prop extends
    cache.Serving memory where
  data : cache.data.Rests .whole memory cache.inner

/-- A data access is in progress. -/
structure AwaitingAs (request : BusRequest) (memory : FlatMemory) (cache : SplitL1Cache instr dat β) :
    Prop extends cache.Serving memory where
  data : cache.data.Awaits .whole request memory cache.inner

/-- A data access that the data bank answers, or makes wait. -/
theorem answeredAs_access (hserving : cache.Serving memory) (hdata : ∀ addr, request ≠ .fetch32 addr)
    (h : Ends False (cache.data.access cache.inner request) (CacheBank.Answers .whole request memory)
      (CacheBank.Delays .whole request memory)) :
    AnsweredAs (AwaitingAs request) QuietAs request memory (request.call cache) := by
  rw [call_eq, access_data hserving.maintenance hdata]
  generalize cache.data.access cache.inner request = out at h
  obtain ⟨(error | _ | _) | value, bank, inner⟩ := out
  · obtain ⟨hbusy, hwaits⟩ := h
    unfold onData
    rw [behindStore_error]
    exact ⟨hbusy, ⟨hserving.config, hserving.maintenance, hserving.instruction⟩, hwaits⟩
  · exact h.elim
  · exact h.elim
  · obtain ⟨hanswer, hrests⟩ := h
    unfold onData behindStore
    cases request.storeOp with
    | none =>
      exact ⟨hanswer trivial, ⟨hserving.config, hserving.maintenance, hserving.instruction⟩, hrests⟩
    | some op =>
      refine ⟨hanswer trivial, ⟨hserving.config, hserving.maintenance, fun setIndex way => ?_⟩, hrests⟩
      exact CacheBank.valid_invalidateLineBase _ _ (hserving.instruction setIndex way)

theorem QuietAs.call (h : cache.QuietAs memory) (hdata : ∀ addr, request ≠ .fetch32 addr)
    (haligned : ¬ request.Misaligned) (hmaps : memory.Maps request.addr request.width) :
    AnsweredAs (AwaitingAs request) QuietAs request memory (request.call cache) :=
  answeredAs_access h.toServing hdata (CacheBank.access_rests h.config haligned hmaps
    ⟨fun _ => trivial, fun _ _ _ => trivial⟩ h.data)

theorem AwaitingAs.call (h : cache.AwaitingAs request memory) (hdata : ∀ addr, request ≠ .fetch32 addr)
    (haligned : ¬ request.Misaligned) (hmaps : memory.Maps request.addr request.width) :
    AnsweredAs (AwaitingAs request) QuietAs request memory (request.call cache) :=
  answeredAs_access h.toServing hdata
    (CacheBank.access_waits h.config haligned hmaps (fun _ => trivial) h.data)

/-! ## Runs of the client -/

/-- The cache shows the flat memory of its client. -/
def InStep (client : MemoryClient (SplitL1Cache instr dat β)) : Prop :=
  match client.waiting with
  | none => client.bus.QuietAs client.flat
  | some request => client.bus.AwaitingAs request client.flat

theorem InStep.tick {client : MemoryClient (SplitL1Cache instr dat β)} (h : InStep client) :
    InStep (client.step .tick) := by
  unfold InStep at h ⊢
  unfold MemoryClient.step
  dsimp only
  split
  · rename_i hwaiting
    rw [hwaiting] at h
    exact ⟨⟨h.config, h.maintenance, h.instruction⟩, CacheBank.rests_tick h.data⟩
  · rename_i request hwaiting
    rw [hwaiting] at h
    exact ⟨⟨h.config, h.maintenance, h.instruction⟩, CacheBank.waits_tick h.data⟩

/-- **An access of the client.** -/
theorem InStep.access {client : MemoryClient (SplitL1Cache instr dat β)} (h : InStep client)
    (hpermits : client.Permits (.request request)) :
    client.Agrees (.request request) ∧ InStep (client.step (.request request)) := by
  obtain ⟨hisData, haligned, hmaps, hsame⟩ := hpermits
  have hdata := BusRequest.ne_fetch hisData
  have hanswered : AnsweredAs (AwaitingAs request) QuietAs request client.flat
      (request.call client.bus) := by
    unfold InStep at h
    obtain hwaiting | hwaiting := hsame
    · rw [hwaiting] at h
      exact h.call hdata haligned hmaps
    · rw [hwaiting] at h
      exact h.call hdata haligned hmaps
  have hflat := FlatMemory.call_eq haligned hmaps
  unfold MemoryClient.Agrees MemoryClient.step
  dsimp only
  rw [hflat]
  generalize request.call client.bus = out at hanswered
  obtain ⟨error | value, bus⟩ := out
  · obtain ⟨hbusy, hawaiting⟩ := hanswered
    have hbusy : busyAnswer (.error error) = true := hbusy
    rw [if_pos hbusy]
    exact ⟨.inl hbusy, hawaiting⟩
  · obtain ⟨hvalue, hquiet⟩ := hanswered
    rw [if_neg (show ¬ busyAnswer (.ok value) = true from Bool.false_ne_true)]
    exact ⟨.inr (congrArg Except.ok hvalue), hquiet⟩

theorem InStep.step {client : MemoryClient (SplitL1Cache instr dat β)} (h : InStep client) {op : CacheOp}
    (hpermits : client.Permits op) : client.Agrees op ∧ InStep (client.step op) := by
  cases op with
  | tick => exact ⟨trivial, h.tick⟩
  | request request => exact h.access hpermits

end SplitL1Cache

/-! ## The lines of the banks -/

namespace CacheBank

variable {config : CacheConfig} {β : Type} [BurstBus β] [MemoryContract β] {role : Role}
  {request : BusRequest} {memory : FlatMemory} {bank : CacheBank config} {inner : β}

theorem Rests.linesUnique (h : bank.Rests role memory inner) : bank.LinesUnique := by
  obtain ⟨-, lower, hholds, -⟩ := h
  exact hholds.unique

theorem Awaits.linesUnique (h : bank.Awaits role request memory inner) : bank.LinesUnique := by
  obtain ⟨-, pending, -, -, hprogress⟩ | ⟨-, -, -, lower, hholds, -⟩ := h
  · unfold InProgress at hprogress
    split at hprogress
    · obtain ⟨-, lower, hholds, -⟩ := hprogress
      exact hholds.unique
    · obtain ⟨lower, hholds, -⟩ := hprogress
      exact hholds.unique
  · exact hholds.unique

/-- What holds of every state of the bus below that keeps its contract. -/
theorem Awaits.lower {P : β → Prop} (hquiet : ∀ memory, Quiet memory inner → P inner)
    (hawaiting : ∀ request memory, Awaiting request memory inner → P inner)
    (hbursting : ∀ id burst memory, Bursting id burst memory inner → P inner)
    (h : bank.Awaits role request memory inner) : P inner := by
  have hslot {slot : Option U64} {burst : BurstRequest} {memory : FlatMemory}
      (h : SlotBursting slot burst memory inner) : P inner := by
    cases slot with
    | none => exact hquiet _ h
    | some id => exact hbursting _ _ _ h
  obtain ⟨-, pending, -, -, hprogress⟩ | ⟨-, -, -, lower, -, hwaiting⟩ := h
  · unfold InProgress at hprogress
    split at hprogress
    · obtain ⟨-, lower, -, hprogress⟩ := hprogress
      exact hslot hprogress
    · obtain ⟨lower, -, hprogress⟩ := hprogress
      exact hslot hprogress
  · exact hawaiting _ _ hwaiting

/-- A new bank has no line. -/
theorem valid_new (config : CacheConfig) (setIndex : Fin config.setCount) (way : Fin config.associativity) :
    ((CacheBank.new config).line setIndex way).valid = false := by
  unfold CacheBank.line CacheBank.new CacheSet.new CacheLine.new
  simp

theorem rests_new (config : CacheConfig) (h : Quiet memory inner) :
    (CacheBank.new config).Rests .whole memory inner := by
  refine ⟨rfl, memory.contents, ⟨⟨fun setIndex way hvalid => ?_, fun setIndex way way' hvalid => ?_⟩,
    fun setIndex way hvalid => ?_, fun _ _ _ _ _ => rfl, nofun, trivial⟩, h⟩
  all_goals
    rw [valid_new] at hvalid
    cases hvalid

end CacheBank

namespace DirectMappedCache

variable {config : CacheConfig} {β : Type} [BurstBus β] [MemoryContract β] {memory : FlatMemory}
  {cache : DirectMappedCache config β}

theorem BurstingAs.linesUnique {id : U64} {burst : BurstRequest} {active : ActiveCacheBurst}
    (h : cache.BurstingAs id burst memory active) : cache.bank.LinesUnique := by
  have hbeat := h.beat
  unfold AtBeat at hbeat
  split at hbeat
  · exact hbeat.2.linesUnique
  · exact hbeat.2.linesUnique
  · exact hbeat.2.linesUnique
  · exact hbeat.elim

end DirectMappedCache

namespace MemoryMap

variable {D : Type} {n : Nat} [Addressable D] [MemoryDevice D]

/-- The memory that a device holds, at the addresses that are decoded to it. -/
def memoryOf (map : MemoryMap D n) (ram : Fin n) : FlatMemory where
  mapped addr := map.findDeviceIndex addr == some ram && (MemoryDevice.byte (map.device ram) addr).isSome
  contents addr := (MemoryDevice.byte (map.device ram) addr).getD 0

theorem backs_memoryOf (map : MemoryMap D n) (ram : Fin n) : Backs ram (map.memoryOf ram) map where
  find addr h := by
    unfold memoryOf at h
    rw [Bool.and_eq_true, beq_iff_eq] at h
    exact h.1
  agrees addr h := by
    unfold memoryOf at h ⊢
    rw [Bool.and_eq_true] at h
    obtain ⟨value, hvalue⟩ := Option.isSome_iff_exists.1 h.2
    dsimp only
    rw [hvalue, Option.getD_some]

end MemoryMap

namespace SplitL1Cache

variable {D : Type} {n : Nat} [Addressable D] [MemoryDevice D] {instr dat unified : CacheConfig}

/-- No set of a bank holds two valid lines of a tag. -/
structure LinesUnique (cache : SplitL1Cache instr dat (DirectMappedCache unified (MemoryMap D n))) :
    Prop where
  instruction : cache.instruction.LinesUnique
  data : cache.data.LinesUnique
  unified : cache.inner.bank.LinesUnique

/-- The clean lines of each bank are those that are seen through the level below. -/
structure CleanAsBelow (cache : SplitL1Cache instr dat (DirectMappedCache unified (MemoryMap D n))) :
    Prop where
  instruction : cache.instruction.CleanAsBelow (cache.inner.bank.view cache.inner.inner.byte)
  data : cache.data.CleanAsBelow (cache.inner.bank.view cache.inner.inner.byte)
  unified : cache.inner.bank.CleanAsBelow cache.inner.inner.byte

/-- The client in front of new caches and a memory map with nothing in progress. -/
def dataClient (instr dat unified : CacheConfig) (devices : Vector (DeviceSlot D) n) (ram : Fin n) :
    MemoryClient (SplitL1Cache instr dat (DirectMappedCache unified (MemoryMap D n))) where
  bus := .new (.new (.fresh devices) unified) instr dat
  flat := (MemoryMap.fresh devices).memoryOf ram

theorem inStep_dataClient (instr : CacheConfig) {devices : Vector (DeviceSlot D) n} {ram : Fin n}
    (hdat : dat.Within ((MemoryMap.fresh devices).memoryOf ram).mapped)
    (hunified : unified.Within ((MemoryMap.fresh devices).memoryOf ram).mapped) :
    InStep (dataClient instr dat unified devices ram) := by
  have hmap : (MemoryMap.fresh devices).QuietAs ((MemoryMap.fresh devices).memoryOf ram) :=
    ⟨rfl, rfl, rfl, ram, MemoryMap.backs_memoryOf _ ram⟩
  have hinner : (DirectMappedCache.new (MemoryMap.fresh devices) unified).QuietAs
      ((MemoryMap.fresh devices).memoryOf ram) :=
    ⟨⟨hunified, rfl⟩, rfl, CacheBank.rests_new unified hmap⟩
  exact ⟨⟨hdat, rfl, CacheBank.valid_new instr⟩, CacheBank.rests_new dat hinner⟩

variable {client : MemoryClient (SplitL1Cache instr dat (DirectMappedCache unified (MemoryMap D n)))}

theorem InStep.linesUnique (h : InStep client) : client.bus.LinesUnique := by
  have hinstruction (hserving : client.bus.Serving client.flat) :
      client.bus.instruction.LinesUnique := by
    intro setIndex way way' hvalid
    rw [hserving.instruction] at hvalid
    cases hvalid
  unfold InStep at h
  split at h
  · obtain ⟨-, lower, -, hquiet⟩ := id h.data
    exact ⟨hinstruction h.toServing, h.data.linesUnique, hquiet.bank.linesUnique⟩
  · refine ⟨hinstruction h.toServing, h.data.linesUnique, ?_⟩
    refine h.data.lower (P := fun cache => cache.bank.LinesUnique) ?_ ?_ ?_
    · exact fun _ hquiet => hquiet.bank.linesUnique
    · exact fun _ _ hawaiting => hawaiting.bank.linesUnique
    · rintro _ _ _ ⟨active, hbursting⟩
      exact hbursting.linesUnique

theorem InStep.cleanAsBelow (h : InStep client) (hwaiting : client.waiting = none) :
    client.bus.CleanAsBelow := by
  unfold InStep at h
  rw [hwaiting] at h
  obtain ⟨-, lower, hdata, hquiet⟩ := id h.data
  obtain ⟨-, lower', hunified, hmap⟩ := hquiet.bank
  obtain ⟨ram, hbacks⟩ := hmap.backs
  refine ⟨fun setIndex way hvalid => ?_, ?_, ?_⟩
  · rw [h.instruction] at hvalid
    cases hvalid
  · exact hdata.cleanAsBelow trivial (fun _ => trivial) fun addr hcaches =>
      hunified.view trivial (fun _ => trivial) (hbacks.byte (h.config addr hcaches))
  · exact hunified.cleanAsBelow trivial (fun _ => trivial) fun addr hcaches =>
      hbacks.byte (hquiet.config addr hcaches)

end SplitL1Cache

open SplitL1Cache in
/-- **A client of the caches is answered as by a flat memory**, each bank holds a line at most once, and the
clean lines are those below whenever no access is waiting. -/
theorem dataMemory_run {D : Type} {n : Nat} [Addressable D] [MemoryDevice D]
    (instr dat unified : CacheConfig) (devices : Vector (DeviceSlot D) n) (ram : Fin n)
    (hdat : dat.Within ((MemoryMap.fresh devices).memoryOf ram).mapped)
    (hunified : unified.Within ((MemoryMap.fresh devices).memoryOf ram).mapped) (ops : List CacheOp)
    (hops : Along MemoryClient.step MemoryClient.Permits (dataClient instr dat unified devices ram) ops) :
    Along MemoryClient.step MemoryClient.Agrees (dataClient instr dat unified devices ram) ops ∧
      (run MemoryClient.step (dataClient instr dat unified devices ram) ops).bus.LinesUnique ∧
      ((run MemoryClient.step (dataClient instr dat unified devices ram) ops).waiting = none →
        (run MemoryClient.step (dataClient instr dat unified devices ram) ops).bus.CleanAsBelow) := by
  have hstart := inStep_dataClient instr hdat hunified
  have hrun := Along.run_invariant hstart (fun _ _ h hpermits => (h.step hpermits).2) hops
  refine ⟨Along.of_invariant hstart (fun _ _ h hpermits => h.step hpermits) hops, hrun.linesUnique,
    hrun.cleanAsBelow⟩

/-! ### A small system -/

theorem within_slowRam {config : CacheConfig} (h : config.cachedRanges = [⟨0, 16⟩]) :
    config.Within ((MemoryMap.fresh MemoryMap.slowRam).memoryOf 0).mapped := by
  intro addr hcaches
  have hlt : addr.toNat < 16 := by
    unfold CacheConfig.caches CacheConfig.cachesAddress at hcaches
    rw [h, Bool.and_eq_true, List.any_cons, List.any_nil, Bool.or_false] at hcaches
    unfold AddressRange.contains at hcaches
    rw [Bool.and_eq_true, decide_eq_true_iff, decide_eq_true_iff] at hcaches
    exact BitVec.lt_def.1 hcaches.1.2
  have hmapped : ∀ i : Fin 16, ((MemoryMap.fresh MemoryMap.slowRam).memoryOf 0).mapped
      (BitVec.ofNat 64 i) = true := by decide
  have hbyte := hmapped ⟨addr.toNat, hlt⟩
  rwa [BitVec.ofNat_toNat, BitVec.setWidth_eq] at hbyte

/-- A store whose line is fetched through both caches, and a load that writes it back. -/
def evictingOps : List CacheOp :=
  (List.replicate 5 [.request (.store8 1 7), .tick]).flatten ++ [.request (.load32 8), .tick]

theorem dataMemory_run_slowRam :
    Along MemoryClient.step MemoryClient.Agrees
      (SplitL1Cache.dataClient twoWords twoWordLine twoWords MemoryMap.slowRam 0) evictingOps :=
  (dataMemory_run twoWords twoWordLine twoWords MemoryMap.slowRam 0 (within_slowRam rfl)
    (within_slowRam rfl) evictingOps (by decide +kernel)).1

end RvSim
