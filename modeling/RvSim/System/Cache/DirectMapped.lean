import RvSim.System.Cache.Bank
import RvSim.System.MemoryMap

/-!
# The unified cache

One bank in front of a bus. It takes bursts itself, one at a time, and performs their beats as accesses
of its own.

## Main definitions

* `DirectMappedCache`, `DirectMappedCache.access`, `DirectMappedCache.maintain`
* `DirectMappedCache.advanceActiveBurst`: the next beat of the burst it has accepted
-/

namespace RvSim

structure ActiveCacheBurst where
  id : U64
  request : BurstRequest
  beatIndex : Nat
  readWords : List U32
  phase : BurstPhase
  deriving DecidableEq

namespace ActiveCacheBurst

/-- The burst behind a beat that is done. -/
def completed (active : ActiveCacheBurst) (readWord : Option U32) : ActiveCacheBurst :=
  { active with
    readWords := match readWord with
      | some word => active.readWords.set active.beatIndex word
      | none => active.readWords
    beatIndex := active.beatIndex + 1
    phase :=
      if active.beatIndex + 1 = active.request.beats then .ready active.request.beats
      else .accepted (active.beatIndex + 1) active.request.beats }

/-- The response of a burst that is ready. -/
def response (active : ActiveCacheBurst) (completedBeats : Nat) : BurstResponse :=
  match active.request with
  | .readWords _ _ _ => .readWords active.readWords
  | .writeWords _ _ => .writeComplete completedBeats

end ActiveCacheBurst

/-- A unified cache wrapper. -/
structure DirectMappedCache (config : CacheConfig) (β : Type) where
  inner : β
  bank : CacheBank config
  activeBurst : Option ActiveCacheBurst := none
  nextBurstId : U64 := 0
  maintenance : Option (PendingMaintenance config) := none
  deriving DecidableEq

namespace DirectMappedCache

variable {config : CacheConfig} {β : Type}

def new (inner : β) (config : CacheConfig) : DirectMappedCache config β where
  inner
  bank := .new config

/-- The cache behind a call on its bank. -/
def onBank {α : Type} (cache : DirectMappedCache config β)
    (out : Except CacheError α × CacheBank config × β) :
    Except CacheError α × DirectMappedCache config β :=
  (out.1, { cache with bank := out.2.1, inner := out.2.2 })

variable [BurstBus β]

def activeBurstRemainingCycles (cache : DirectMappedCache config β) : U32 :=
  match cache.activeBurst with
  | some active =>
    match active.phase with
    | .inFlight _ _ remainingCycles => remainingCycles
    | _ => 1
  | none => 0

def isBusy (cache : DirectMappedCache config β) : Bool :=
  cache.maintenance.isSome || cache.activeBurst.isSome || cache.bank.hasPendingActivity ||
    Bus.isBusy cache.inner

def busyRemainingCycles (cache : DirectMappedCache config β) : U32 :=
  let activeCycles := cache.activeBurstRemainingCycles
  if activeCycles ≠ 0 then activeCycles
  else if cache.maintenance.isSome || cache.bank.hasPendingActivity || Bus.isBusy cache.inner then 1
  else 0

/-- The error of a call that has to wait. -/
def busyError (cache : DirectMappedCache config β) : CacheError :=
  .bus (.busy (atLeastOne cache.busyRemainingCycles))

/-! ## The calls of the bus trait -/

/-- A call on the bank; a maintenance request in progress keeps it waiting. -/
def through {α : Type} (cache : DirectMappedCache config β)
    (call : CacheBank config → β → Except CacheError α × CacheBank config × β) :
    Except CacheError α × DirectMappedCache config β :=
  if cache.maintenance.isSome then (.error cache.busyError, cache)
  else cache.onBank (call cache.bank cache.inner)

def fetch32 (cache : DirectMappedCache config β) (addr : Address) :
    Except CacheError U32 × DirectMappedCache config β := cache.through (·.fetch32 · addr)

def load8 (cache : DirectMappedCache config β) (addr : Address) :
    Except CacheError U8 × DirectMappedCache config β := cache.through (·.load8 · addr)

def load16 (cache : DirectMappedCache config β) (addr : Address) :
    Except CacheError U16 × DirectMappedCache config β := cache.through (·.load16 · addr)

def load32 (cache : DirectMappedCache config β) (addr : Address) :
    Except CacheError U32 × DirectMappedCache config β := cache.through (·.load32 · addr)

def store8 (cache : DirectMappedCache config β) (addr : Address) (value : U8) :
    Except CacheError Unit × DirectMappedCache config β := cache.through (·.store8 · addr value)

def store16 (cache : DirectMappedCache config β) (addr : Address) (value : U16) :
    Except CacheError Unit × DirectMappedCache config β := cache.through (·.store16 · addr value)

def store32 (cache : DirectMappedCache config β) (addr : Address) (value : U32) :
    Except CacheError Unit × DirectMappedCache config β := cache.through (·.store32 · addr value)

/-- A request of a client, answered as `BusRequest.call` does. -/
def access (cache : DirectMappedCache config β) (request : BusRequest) :
    Except CacheError U32 × DirectMappedCache config β := cache.through (·.access · request)

/-! ## Bursts -/

def executeBurstBeat (cache : DirectMappedCache config β) (request : BurstRequest)
    (beatIndex : Nat) : Except CacheError (Option U32) × DirectMappedCache config β :=
  let addr := request.beatAddr beatIndex
  match request with
  | .readWords _ _ .fetch => mapAnswer some (cache.fetch32 addr)
  | .readWords _ _ .load => mapAnswer some (cache.load32 addr)
  | .readWords _ _ .store =>
    (.error (.panic "read burst cannot carry store access kind"), cache)
  | .writeWords _ words =>
    mapAnswer (fun _ => none) (cache.store32 addr (words[beatIndex]?.getD 0))

def advanceActiveBurst (cache : DirectMappedCache config β) :
    Except CacheError Unit × DirectMappedCache config β :=
  match cache.activeBurst with
  | none => (.ok (), cache)
  | some active =>
    match active.phase with
    | .ready _ | .failed _ => (.ok (), cache)
    | _ =>
      match cache.executeBurstBeat active.request active.beatIndex with
      | (.ok readWord, cache) => (.ok (), { cache with activeBurst := some (active.completed readWord) })
      | (.error (.bus (.busy remainingCycles)), cache) =>
        (.ok (), { cache with activeBurst := some { active with
          phase := .inFlight active.beatIndex active.request.beats remainingCycles } })
      | (.error (.bus error), cache) =>
        (.ok (), { cache with activeBurst := some { active with phase := .failed error } })
      | (.error error, cache) => (.error error, cache)

def tick (cache : DirectMappedCache config β) :
    Except CacheError Unit × DirectMappedCache config β :=
  { cache with inner := Bus.tick cache.inner }.advanceActiveBurst

def submitBurst (cache : DirectMappedCache config β) (request : BurstRequest) :
    Except CacheError U64 × DirectMappedCache config β :=
  if cache.isBusy then (.error cache.busyError, cache)
  else if request.beats = 0 then
    (.error (.panic "burst request must contain at least one beat"), cache)
  else
    (.ok cache.nextBurstId,
      { cache with
        nextBurstId := cache.nextBurstId + 1
        activeBurst := some
          { id := cache.nextBurstId, request, beatIndex := 0
            readWords := List.replicate request.beats 0, phase := .accepted 0 request.beats } })

def burstPhase (cache : DirectMappedCache config β) (id : U64) : Option BurstPhase :=
  (cache.activeBurst.filter (·.id == id)).map (·.phase)

def advanceBurst (cache : DirectMappedCache config β) (id : U64) :
    Except CacheError (Option BurstPhase) × DirectMappedCache config β :=
  if cache.activeBurst.all (·.id != id) then (.ok none, cache)
  else onOk cache.advanceActiveBurst fun _ cache => (.ok (cache.burstPhase id), cache)

def takeBurstResponse (cache : DirectMappedCache config β) (id : U64) :
    Option (Except BusError BurstResponse) × DirectMappedCache config β :=
  match cache.activeBurst.filter (·.id == id) with
  | none => (none, cache)
  | some active =>
    match active.phase with
    | .ready completedBeats =>
      (some (.ok (active.response completedBeats)), { cache with activeBurst := none })
    | .failed error => (some (.error error), { cache with activeBurst := none })
    | _ => (none, cache)

/-- The beats that are left, and the end. -/
def burstRounds (cache : DirectMappedCache config β) (id : U64) : Nat :=
  match cache.activeBurst.filter (·.id == id) with
  | some active => active.request.beats + 1 - active.beatIndex
  | none => 0

instance : Bus (DirectMappedCache config β) where
  fetch32 cache addr := surfaced (cache.fetch32 addr)
  load8 cache addr := surfaced (cache.load8 addr)
  load16 cache addr := surfaced (cache.load16 addr)
  load32 cache addr := surfaced (cache.load32 addr)
  store8 cache addr value := surfaced (cache.store8 addr value)
  store16 cache addr value := surfaced (cache.store16 addr value)
  store32 cache addr value := surfaced (cache.store32 addr value)
  tick cache := cache.tick.2
  machineTime cache := Bus.machineTime cache.inner
  isBusy := isBusy
  pendingInterrupts cache := Bus.pendingInterrupts cache.inner

-- a panic in the beat of a burst shows as a failed burst
instance : BurstBus (DirectMappedCache config β) where
  submitBurst cache request := surfaced (cache.submitBurst request)
  burstPhase := burstPhase
  advanceBurst cache id :=
    match cache.advanceBurst id with
    | (.ok phase, cache) => (phase, cache)
    | (.error _, cache) => (cache.burstPhase id, cache)
  takeBurstResponse := takeBurstResponse
  burstRounds := burstRounds

/-! ## Maintenance -/

def ensureMaintenanceRequest (cache : DirectMappedCache config β) (request : MaintenanceRequest) :
    Except CacheError Unit × DirectMappedCache config β :=
  match cache.maintenance with
  | some pending =>
    if pending.request = request then (.ok (), cache) else (.error cache.busyError, cache)
  | none =>
    if cache.activeBurst.isSome || cache.bank.hasPendingActivity then (.error cache.busyError, cache)
    else
      match request.kind with
      | .writeBack =>
        let lineBases := CacheBank.lineBasesForRange config request.start request.len
        (.ok (), { cache with maintenance := some ⟨request, .writeBack { lineBases }⟩ })
      | .invalidate =>
        (.ok (), { cache with
          bank := cache.bank.invalidateRange request.start request.len
          maintenance := some ⟨request, .inner⟩ })

variable [CacheMaintenance β]

/-- The last stage of a maintenance request; only a busy bus keeps it in progress. -/
def maintainInner (cache : DirectMappedCache config β) (request : MaintenanceRequest) :
    Except CacheError Unit × DirectMappedCache config β :=
  match request.call cache.inner with
  | (.ok (), inner) => (.ok (), { cache with inner, maintenance := none })
  | (.error (.busy remainingCycles), inner) =>
    (.error (.bus (.busy remainingCycles)),
      { cache with inner, maintenance := some ⟨request, .inner⟩ })
  | (.error error, inner) => (.error (.bus error), { cache with inner, maintenance := none })

omit [BurstBus β] in
theorem bank_maintainInner (cache : DirectMappedCache config β) (request : MaintenanceRequest) :
    (cache.maintainInner request).2.bank = cache.bank := by
  unfold maintainInner
  split <;> rfl

def continueMaintenance (cache : DirectMappedCache config β) :
    Except CacheError Unit × DirectMappedCache config β :=
  match cache.maintenance with
  | none => (.ok (), cache)
  | some ⟨request, .inner⟩ => cache.maintainInner request
  | some ⟨request, .writeBack pending⟩ =>
    match cache.bank.continueWriteBackRange cache.inner pending with
    | (.ok (), bank, _, inner) => { cache with bank, inner }.maintainInner request
    | (.error error, bank, pending, inner) =>
      (.error error,
        { cache with bank, inner, maintenance := some ⟨request, .writeBack pending⟩ })

/-- `write_back_range` and `invalidate_range`. -/
def maintain (cache : DirectMappedCache config β) (request : MaintenanceRequest) :
    Except CacheError Unit × DirectMappedCache config β :=
  onOk (cache.ensureMaintenanceRequest request) fun _ cache => cache.continueMaintenance

instance : CacheMaintenance (DirectMappedCache config β) where
  writeBackRange cache start len := surfaced (cache.maintain ⟨start, len, .writeBack⟩)
  invalidateRange cache start len := surfaced (cache.maintain ⟨start, len, .invalidate⟩)

end DirectMappedCache

end RvSim
