import RvSim.System.Cache.DirectMapped

/-!
# The split first-level cache

An instruction bank and a data bank in front of one bus. A store that is done invalidates the line of
its address in the instruction bank.

## Main definitions

* `SplitL1Cache`, `SplitL1Cache.access`, `SplitL1Cache.maintain`
-/

namespace RvSim

/-- A split L1 with independent instruction and data banks. -/
structure SplitL1Cache (instr dat : CacheConfig) (β : Type) where
  inner : β
  instruction : CacheBank instr
  data : CacheBank dat
  maintenance : Option (PendingMaintenance dat) := none
  deriving DecidableEq

namespace SplitL1Cache

variable {instr dat : CacheConfig} {β : Type}

def new (inner : β) (instr dat : CacheConfig) : SplitL1Cache instr dat β where
  inner
  instruction := .new instr
  data := .new dat

/-- The cache behind a call on its data bank. -/
def onData {α : Type} (cache : SplitL1Cache instr dat β)
    (out : Except CacheError α × CacheBank dat × β) :
    Except CacheError α × SplitL1Cache instr dat β :=
  (out.1, { cache with data := out.2.1, inner := out.2.2 })

/-- The cache behind a call on its instruction bank. -/
def onInstruction {α : Type} (cache : SplitL1Cache instr dat β)
    (out : Except CacheError α × CacheBank instr × β) :
    Except CacheError α × SplitL1Cache instr dat β :=
  (out.1, { cache with instruction := out.2.1, inner := out.2.2 })

/-- A maintenance request in progress keeps a call waiting. -/
def unlessMaintained {α : Type} (cache : SplitL1Cache instr dat β)
    (out : Except CacheError α × SplitL1Cache instr dat β) :
    Except CacheError α × SplitL1Cache instr dat β :=
  if cache.maintenance.isSome then (.error (.bus (.busy 1)), cache) else out

variable [BurstBus β]

/-! ## The calls of the bus trait -/

/-- A load, on the data bank. -/
def load {α : Type} (cache : SplitL1Cache instr dat β)
    (call : CacheBank dat → β → Except CacheError α × CacheBank dat × β) :
    Except CacheError α × SplitL1Cache instr dat β :=
  cache.unlessMaintained (cache.onData (call cache.data cache.inner))

/-- A store, on the data bank; then the instruction bank drops the line. -/
def store {α : Type} (cache : SplitL1Cache instr dat β) (addr : Address)
    (call : CacheBank dat → β → Except CacheError α × CacheBank dat × β) :
    Except CacheError α × SplitL1Cache instr dat β :=
  cache.unlessMaintained <|
    onOk (cache.onData (call cache.data cache.inner)) fun value cache =>
      (.ok value, { cache with instruction := cache.instruction.invalidateLine addr })

def fetch32 (cache : SplitL1Cache instr dat β) (addr : Address) :
    Except CacheError U32 × SplitL1Cache instr dat β :=
  cache.unlessMaintained (cache.onInstruction (cache.instruction.fetch32 cache.inner addr))

def load8 (cache : SplitL1Cache instr dat β) (addr : Address) :
    Except CacheError U8 × SplitL1Cache instr dat β := cache.load (·.load8 · addr)

def load16 (cache : SplitL1Cache instr dat β) (addr : Address) :
    Except CacheError U16 × SplitL1Cache instr dat β := cache.load (·.load16 · addr)

def load32 (cache : SplitL1Cache instr dat β) (addr : Address) :
    Except CacheError U32 × SplitL1Cache instr dat β := cache.load (·.load32 · addr)

def store8 (cache : SplitL1Cache instr dat β) (addr : Address) (value : U8) :
    Except CacheError Unit × SplitL1Cache instr dat β := cache.store addr (·.store8 · addr value)

def store16 (cache : SplitL1Cache instr dat β) (addr : Address) (value : U16) :
    Except CacheError Unit × SplitL1Cache instr dat β := cache.store addr (·.store16 · addr value)

def store32 (cache : SplitL1Cache instr dat β) (addr : Address) (value : U32) :
    Except CacheError Unit × SplitL1Cache instr dat β := cache.store addr (·.store32 · addr value)

/-- A request of a client, answered as `BusRequest.call` does. -/
def access (cache : SplitL1Cache instr dat β) (request : BusRequest) :
    Except CacheError U32 × SplitL1Cache instr dat β :=
  match request with
  | .fetch32 addr => cache.fetch32 addr
  | .load8 addr => mapAnswer (·.setWidth 32) (cache.load8 addr)
  | .load16 addr => mapAnswer (·.setWidth 32) (cache.load16 addr)
  | .load32 addr => cache.load32 addr
  | .store8 addr value => mapAnswer (fun _ => 0) (cache.store8 addr value)
  | .store16 addr value => mapAnswer (fun _ => 0) (cache.store16 addr value)
  | .store32 addr value => mapAnswer (fun _ => 0) (cache.store32 addr value)

def tick (cache : SplitL1Cache instr dat β) : SplitL1Cache instr dat β :=
  { cache with inner := Bus.tick cache.inner }

def isBusy (cache : SplitL1Cache instr dat β) : Bool :=
  cache.maintenance.isSome || cache.instruction.hasPendingActivity ||
    cache.data.hasPendingActivity || Bus.isBusy cache.inner

instance : Bus (SplitL1Cache instr dat β) where
  fetch32 cache addr := surfaced (cache.fetch32 addr)
  load8 cache addr := surfaced (cache.load8 addr)
  load16 cache addr := surfaced (cache.load16 addr)
  load32 cache addr := surfaced (cache.load32 addr)
  store8 cache addr value := surfaced (cache.store8 addr value)
  store16 cache addr value := surfaced (cache.store16 addr value)
  store32 cache addr value := surfaced (cache.store32 addr value)
  tick := tick
  machineTime cache := Bus.machineTime cache.inner
  isBusy := isBusy
  pendingInterrupts cache := Bus.pendingInterrupts cache.inner

/-! ## Maintenance -/

def maintenanceBusyCycles (cache : SplitL1Cache instr dat β) : U32 := if cache.isBusy then 1 else 0

def busyError (cache : SplitL1Cache instr dat β) : CacheError :=
  .bus (.busy (atLeastOne cache.maintenanceBusyCycles))

def ensureMaintenanceRequest (cache : SplitL1Cache instr dat β) (request : MaintenanceRequest) :
    Except CacheError Unit × SplitL1Cache instr dat β :=
  match cache.maintenance with
  | some pending =>
    if pending.request = request then (.ok (), cache) else (.error cache.busyError, cache)
  | none =>
    if cache.instruction.hasPendingActivity || cache.data.hasPendingActivity then
      (.error cache.busyError, cache)
    else
      match request.kind with
      | .writeBack =>
        let lineBases := CacheBank.lineBasesForRange dat request.start request.len
        (.ok (), { cache with maintenance := some ⟨request, .writeBack { lineBases }⟩ })
      | .invalidate =>
        (.ok (), { cache with
          data := cache.data.invalidateRange request.start request.len
          instruction := cache.instruction.invalidateRange request.start request.len
          maintenance := some ⟨request, .inner⟩ })

variable [CacheMaintenance β]

/-- The last stage of a maintenance request; only a busy bus keeps it in progress. -/
def maintainInner (cache : SplitL1Cache instr dat β) (request : MaintenanceRequest) :
    Except CacheError Unit × SplitL1Cache instr dat β :=
  match request.call cache.inner with
  | (.ok (), inner) => (.ok (), { cache with inner, maintenance := none })
  | (.error (.busy remainingCycles), inner) =>
    (.error (.bus (.busy remainingCycles)),
      { cache with inner, maintenance := some ⟨request, .inner⟩ })
  | (.error error, inner) => (.error (.bus error), { cache with inner, maintenance := none })

def continueMaintenance (cache : SplitL1Cache instr dat β) :
    Except CacheError Unit × SplitL1Cache instr dat β :=
  match cache.maintenance with
  | none => (.ok (), cache)
  | some ⟨request, .inner⟩ => cache.maintainInner request
  | some ⟨request, .writeBack pending⟩ =>
    match cache.data.continueWriteBackRange cache.inner pending with
    | (.ok (), data, _, inner) => { cache with data, inner }.maintainInner request
    | (.error error, data, pending, inner) =>
      (.error error,
        { cache with data, inner, maintenance := some ⟨request, .writeBack pending⟩ })

/-- `write_back_range` and `invalidate_range`. -/
def maintain (cache : SplitL1Cache instr dat β) (request : MaintenanceRequest) :
    Except CacheError Unit × SplitL1Cache instr dat β :=
  onOk (cache.ensureMaintenanceRequest request) fun _ cache => cache.continueMaintenance

instance : CacheMaintenance (SplitL1Cache instr dat β) where
  writeBackRange cache start len := surfaced (cache.maintain ⟨start, len, .writeBack⟩)
  invalidateRange cache start len := surfaced (cache.maintain ⟨start, len, .invalidate⟩)

end SplitL1Cache

end RvSim
