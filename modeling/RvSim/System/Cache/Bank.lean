import Mathlib.Data.List.MinMax
import RvSim.System.Cache.Config
import RvSim.System.Cache.Outcome

/-!
# A bank of cache lines

The sets of a cache, and the one line operation it has pending: the write-back of the victim, then the
refill. Every method works on the bank with the backing bus beside it.

The counters of the source are left out.

## Main definitions

* `CacheBank`: sets, the pending line operation
* `driveBurstUntilBlocked`: submit a burst, and advance it until it blocks or ends
* `CacheBank.continuePending`, `CacheBank.ensureLine`, `CacheBank.loadWord`, `CacheBank.store`
* `CacheBank.continueWriteBackRange`, `CacheBank.invalidateRange`: what maintenance does to a bank
-/

namespace RvSim

/-! ## Lines and sets -/

structure CacheLine (words : Nat) where
  valid : Bool
  dirty : Bool
  tag : U64
  words : Vector U32 words
  lastUsed : U64
  deriving DecidableEq

namespace CacheLine

def new (words : Nat) : CacheLine words := ⟨false, false, 0, Vector.replicate words 0, 0⟩

/-- The line holds the words of a tag. -/
def holds {words : Nat} (line : CacheLine words) (tag : U64) : Bool := line.valid && line.tag == tag

end CacheLine

structure CacheSet (config : CacheConfig) where
  lines : Vector (CacheLine config.lineWords) config.associativity
  nextVictim : Fin config.associativity
  deriving DecidableEq

namespace CacheSet

variable {config : CacheConfig}

def new (config : CacheConfig) : CacheSet config where
  lines := Vector.replicate _ (.new _)
  nextVictim := ⟨0, config.associativity_pos⟩

/-- The way behind one, around the set. -/
def nextWay (way : Fin config.associativity) : Fin config.associativity :=
  ⟨(way.val + 1) % config.associativity, Nat.mod_lt _ config.associativity_pos⟩

def setLine (set : CacheSet config) (way : Fin config.associativity)
    (line : CacheLine config.lineWords) : CacheSet config :=
  { set with lines := set.lines.set way line }

/-- The first way that was used least recently. -/
def leastRecentlyUsed (set : CacheSet config) : Fin config.associativity :=
  ((List.finRange _).argmin fun way => set.lines[way].lastUsed.toNat).getD
    ⟨0, config.associativity_pos⟩

def selectVictim (set : CacheSet config) : Fin config.associativity × CacheSet config :=
  match (List.finRange _).find? fun way => !set.lines[way].valid with
  | some index =>
    (index,
      if config.replacementPolicy = .roundRobin then { set with nextVictim := nextWay index }
      else set)
  | none =>
    match config.replacementPolicy with
    | .roundRobin => (set.nextVictim, { set with nextVictim := nextWay set.nextVictim })
    | .leastRecentlyUsed => (set.leastRecentlyUsed, set)

end CacheSet

/-! ## Operations in progress -/

inductive RefillKind
  | fetch | load
  deriving DecidableEq, Repr

def RefillKind.accessKind : RefillKind → AccessKind
  | .fetch => .fetch
  | .load => .load

/-- A store to a cached line: the low `width` bytes of the value. -/
structure StoreOp where
  addr : Address
  width : Nat
  value : U32
  deriving DecidableEq, Repr

namespace StoreOp

/-- The word after the store; the bytes before `byteOffset` and behind the width stay. -/
def applyWord (op : StoreOp) (byteOffset : Nat) (word : U32) : U32 :=
  fromLeBytes <| Vector.ofFn fun i : Fin 4 =>
    if byteOffset ≤ i.val ∧ i.val < byteOffset + op.width then
      (toLeBytes op.value)[i.val - byteOffset]?.getD 0
    else (toLeBytes word).get i

def commit {β : Type} [Bus β] (op : StoreOp) (inner : β) : Except CacheError Unit × β :=
  match op.width with
  | 1 =>
    let out := Bus.store8 inner op.addr (op.value.setWidth 8)
    (ofBus out.1, out.2)
  | 2 =>
    let out := Bus.store16 inner op.addr (op.value.setWidth 16)
    (ofBus out.1, out.2)
  | 4 =>
    let out := Bus.store32 inner op.addr op.value
    (ofBus out.1, out.2)
  | _ => (.error (.panic "unsupported store width"), inner)

end StoreOp

structure PendingWriteBack (config : CacheConfig) where
  lineBase : Address
  words : Vector U32 config.lineWords
  burstId : Option U64 := none
  deriving DecidableEq

/-- The buffer of the refill is left out: nothing reads it before the words are there. -/
structure PendingRefill (config : CacheConfig) where
  lineBase : Address
  setIndex : Fin config.setCount
  tag : U64
  wayIndex : Fin config.associativity
  kind : RefillKind
  burstId : Option U64 := none
  deriving DecidableEq

structure PendingLineOp (config : CacheConfig) where
  writeBack : Option (PendingWriteBack config)
  refill : PendingRefill config
  deriving DecidableEq

def PendingLineOp.matchesLine {config : CacheConfig} (pending : PendingLineOp config)
    (decoded : DecodedAddress config) : Bool :=
  pending.refill.lineBase == decoded.lineBase

inductive BurstDrive (α : Type)
  | busy (remainingCycles : U32)
  | ready (value : α)
  deriving DecidableEq

/-! ## Bursts -/

section Drive

variable {β : Type} [BurstBus β]

/-- The loop of `drive_burst_until_blocked`. Beside the answer it gives the slot of the burst and the
backing bus. -/
def driveBurst (id : U64) : Nat → β → Except CacheError (BurstDrive BurstResponse) × Option U64 × β
  | 0, inner => (.error .diverges, some id, inner)
  | rounds + 1, inner =>
    match BurstBus.burstPhase inner id with
    | none =>
      (.error (.panic "submitted burst should remain active until completion"), some id, inner)
    | some (.accepted _ _) =>
      match BurstBus.advanceBurst inner id with
      | (none, inner) => (.error (.panic "submitted burst should advance"), some id, inner)
      | (some (.inFlight _ _ remainingCycles), inner) => (.ok (.busy remainingCycles), some id, inner)
      | (some _, inner) => driveBurst id rounds inner
    | some (.inFlight _ _ remainingCycles) => (.ok (.busy remainingCycles), some id, inner)
    | some (.ready _) =>
      match BurstBus.takeBurstResponse inner id with
      | (some (.ok response), inner) => (.ok (.ready response), none, inner)
      | (some (.error error), inner) => (.error (.bus error), none, inner)
      | (none, inner) => (.error (.panic "ready burst should yield a response"), none, inner)
    | some (.failed _) =>
      match BurstBus.takeBurstResponse inner id with
      | (some (.ok _), inner) =>
        (.error (.panic "failed burst should not produce a success response"), none, inner)
      | (some (.error error), inner) => (.error (.bus error), none, inner)
      | (none, inner) => (.error (.panic "failed burst should yield a terminal error"), none, inner)

def driveBurstUntilBlocked (inner : β) (burstId : Option U64) (request : BurstRequest) :
    Except CacheError (BurstDrive BurstResponse) × Option U64 × β :=
  match burstId with
  | some id => driveBurst id (BurstBus.burstRounds inner id) inner
  | none =>
    match BurstBus.submitBurst inner request with
    | (.ok id, inner) => driveBurst id (BurstBus.burstRounds inner id) inner
    | (.error error, inner) => (.error (.bus error), none, inner)

variable {config : CacheConfig}

def PendingWriteBack.request (writeBack : PendingWriteBack config) : BurstRequest :=
  .writeWords writeBack.lineBase writeBack.words.toList

def PendingRefill.request (refill : PendingRefill config) : BurstRequest :=
  .readWords refill.lineBase config.lineWords refill.kind.accessKind

/-- What a write-back makes of the end of its burst. -/
def writeBackAnswer : Except CacheError (BurstDrive BurstResponse) → Except CacheError (BurstDrive Unit)
  | .ok (.busy remainingCycles) => .ok (.busy remainingCycles)
  | .ok (.ready (.writeComplete _)) => .ok (.ready ())
  | .ok (.ready (.readWords _)) => .error (.panic "write-back bursts should complete as writes")
  | .error error => .error error

def progressWriteBack (inner : β) (writeBack : PendingWriteBack config) :
    Except CacheError (BurstDrive Unit) × PendingWriteBack config × β :=
  let out := driveBurstUntilBlocked inner writeBack.burstId writeBack.request
  (writeBackAnswer out.1, { writeBack with burstId := out.2.1 }, out.2.2)

/-- What a refill makes of the end of its burst; `copy_from_slice` takes the words of a whole line. -/
def refillAnswer (config : CacheConfig) : Except CacheError (BurstDrive BurstResponse) →
    Except CacheError (BurstDrive (Vector U32 config.lineWords))
  | .ok (.busy remainingCycles) => .ok (.busy remainingCycles)
  | .ok (.ready (.readWords words)) =>
    if h : words.length = config.lineWords then .ok (.ready ⟨words.toArray, h⟩)
    else .error (.panic "source slice length does not match destination slice length")
  | .ok (.ready (.writeComplete _)) => .error (.panic "refill bursts should complete as reads")
  | .error error => .error error

def progressRefill (inner : β) (refill : PendingRefill config) :
    Except CacheError (BurstDrive (Vector U32 config.lineWords)) × PendingRefill config × β :=
  let out := driveBurstUntilBlocked inner refill.burstId refill.request
  (refillAnswer config out.1, { refill with burstId := out.2.1 }, out.2.2)

end Drive

/-! ## The bank -/

structure CacheBank (config : CacheConfig) where
  sets : Vector (CacheSet config) config.setCount
  pending : Option (PendingLineOp config) := none
  accessEpoch : U64 := 0
  deriving DecidableEq

namespace CacheBank

variable {config : CacheConfig}

def new (config : CacheConfig) : CacheBank config where
  sets := Vector.replicate _ (.new config)

def hasPendingActivity (bank : CacheBank config) : Bool := bank.pending.isSome

/-- A line of the bank. -/
def line (bank : CacheBank config) (setIndex : Fin config.setCount)
    (way : Fin config.associativity) : CacheLine config.lineWords :=
  bank.sets[setIndex].lines[way]

def setLine (bank : CacheBank config) (setIndex : Fin config.setCount)
    (way : Fin config.associativity) (line : CacheLine config.lineWords) : CacheBank config :=
  { bank with sets := bank.sets.set setIndex (bank.sets[setIndex].setLine way line) }

def lookupWay (bank : CacheBank config) (decoded : DecodedAddress config) :
    Option (Fin config.associativity) :=
  (List.finRange _).find? fun way => (bank.line decoded.setIndex way).holds decoded.tag

def readWord (bank : CacheBank config) (decoded : DecodedAddress config)
    (way : Fin config.associativity) : U32 :=
  (bank.line decoded.setIndex way).words[decoded.wordIndex]

def touchLine (bank : CacheBank config) (setIndex : Fin config.setCount)
    (way : Fin config.associativity) : CacheBank config :=
  let accessEpoch := bank.accessEpoch + 1
  { bank with accessEpoch }.setLine setIndex way
    { bank.line setIndex way with lastUsed := accessEpoch }

/-- The words of the victim go with the line operation that takes its place. -/
def victimWriteBack (setIndex : Fin config.setCount) (victim : CacheLine config.lineWords) :
    Option (PendingWriteBack config) :=
  if config.writePolicy = .writeBack ∧ victim.valid ∧ victim.dirty then
    some { lineBase := config.lineBaseForTag setIndex victim.tag, words := victim.words }
  else none

def startPending (bank : CacheBank config) (decoded : DecodedAddress config) (kind : RefillKind) :
    CacheBank config :=
  let choice := bank.sets[decoded.setIndex].selectVictim
  let victim := bank.line decoded.setIndex choice.1
  { { bank with sets := bank.sets.set decoded.setIndex choice.2 }.setLine decoded.setIndex choice.1
      { victim with valid := false, dirty := false } with
    pending := some
      { writeBack := victimWriteBack decoded.setIndex victim
        refill :=
          { lineBase := decoded.lineBase, setIndex := decoded.setIndex, tag := decoded.tag
            wayIndex := choice.1, kind } } }

/-- The refilled line is in the bank. -/
def install (bank : CacheBank config) (refill : PendingRefill config)
    (words : Vector U32 config.lineWords) : CacheBank config :=
  (bank.setLine refill.setIndex refill.wayIndex
    { bank.line refill.setIndex refill.wayIndex with
      valid := true, dirty := false, tag := refill.tag, words }).touchLine
    refill.setIndex refill.wayIndex

/-- The store goes into the line. -/
def updateCachedStore (bank : CacheBank config) (decoded : DecodedAddress config)
    (way : Fin config.associativity) (op : StoreOp) (dirty : Bool) : CacheBank config :=
  let line := bank.line decoded.setIndex way
  let byteOffset := (op.addr - decoded.lineBase).toNat % 4
  (bank.setLine decoded.setIndex way
    { line with
      words := line.words.set decoded.wordIndex
        (op.applyWord byteOffset line.words[decoded.wordIndex])
      valid := true, tag := decoded.tag, dirty }).touchLine decoded.setIndex way

/-- The victim of a line operation. -/
def victimWay (bank : CacheBank config) (setIndex : Fin config.setCount) : Fin config.associativity :=
  bank.sets[setIndex].selectVictim.1

/-- The word of a line behind a store. -/
def storedWords (decoded : DecodedAddress config) (op : StoreOp)
    (words : Vector U32 config.lineWords) : Vector U32 config.lineWords :=
  words.set decoded.wordIndex
    (op.applyWord ((op.addr - decoded.lineBase).toNat % 4) words[decoded.wordIndex])

/-! ### Accesses -/

section Accesses

variable {β : Type} [BurstBus β]

/-- The second half of `continue_pending`, with no write-back left. -/
def continueRefill (bank : CacheBank config) (inner : β) (refill : PendingRefill config) :
    Except CacheError Unit × CacheBank config × β :=
  match progressRefill inner refill with
  | (.ok (.busy remainingCycles), refill, inner) =>
    (.error (.bus (.busy remainingCycles)), { bank with pending := some ⟨none, refill⟩ }, inner)
  | (.ok (.ready words), refill, inner) => (.ok (), bank.install refill words, inner)
  | (.error error, _, inner) => (.error error, bank, inner)

-- the pending operation is taken out of the bank, and only a busy burst puts it back
def continuePending (bank : CacheBank config) (inner : β) :
    Except CacheError Unit × CacheBank config × β :=
  match bank.pending with
  | none => (.ok (), bank, inner)
  | some ⟨none, refill⟩ => { bank with pending := none }.continueRefill inner refill
  | some ⟨some writeBack, refill⟩ =>
    match progressWriteBack inner writeBack with
    | (.ok (.busy remainingCycles), writeBack, inner) =>
      (.error (.bus (.busy remainingCycles)),
        { bank with pending := some ⟨some writeBack, refill⟩ }, inner)
    | (.ok (.ready ()), _, inner) => { bank with pending := none }.continueRefill inner refill
    | (.error error, _, inner) => (.error error, { bank with pending := none }, inner)

/-- Only a request for the line of the pending operation continues it. -/
def resumePending (bank : CacheBank config) (inner : β) (decoded : DecodedAddress config) :
    Except CacheError Unit × CacheBank config × β :=
  if bank.pending.any (!·.matchesLine decoded) then (.error (.bus (.busy 1)), bank, inner)
  else bank.continuePending inner

/-- Start the refill of a line, and look the line up when it is there. -/
def fillLine (bank : CacheBank config) (inner : β) (decoded : DecodedAddress config)
    (kind : RefillKind) : Except CacheError (Fin config.associativity) × CacheBank config × β :=
  onOk ((bank.startPending decoded kind).continuePending inner) fun _ (bank, inner) =>
    (expectSome "completed refill should install a line" (bank.lookupWay decoded), bank, inner)

def ensureLine (bank : CacheBank config) (inner : β) (decoded : DecodedAddress config)
    (kind : RefillKind) : Except CacheError (Fin config.associativity) × CacheBank config × β :=
  onOk (bank.resumePending inner decoded) fun _ (bank, inner) =>
    match bank.lookupWay decoded with
    | some way => (.ok way, bank, inner)
    | none => bank.fillLine inner decoded kind

def loadWord (bank : CacheBank config) (inner : β) (addr : Address) (kind : RefillKind) :
    Except CacheError U32 × CacheBank config × β :=
  let decoded := config.decode addr
  onOk (bank.ensureLine inner decoded kind) fun way (bank, inner) =>
    (.ok (bank.readWord decoded way), bank.touchLine decoded.setIndex way, inner)

/-- The store to a line that is in the bank. -/
def storeLine (bank : CacheBank config) (inner : β) (decoded : DecodedAddress config)
    (way : Fin config.associativity) (op : StoreOp) : Except CacheError Unit × CacheBank config × β :=
  match config.writePolicy with
  | .writeThrough =>
    match op.commit inner with
    | (.ok (), inner) => (.ok (), bank.updateCachedStore decoded way op false, inner)
    | (.error error, inner) => (.error error, bank, inner)
  | .writeBack => (.ok (), bank.updateCachedStore decoded way op true, inner)

def store (bank : CacheBank config) (inner : β) (op : StoreOp) :
    Except CacheError Unit × CacheBank config × β :=
  if !config.caches op.addr then
    let out := op.commit inner
    (out.1, bank, out.2)
  else
    let decoded := config.decode op.addr
    onOk (bank.resumePending inner decoded) fun _ (bank, inner) =>
      match bank.lookupWay decoded with
      | some way => bank.storeLine inner decoded way op
      | none =>
        match config.storeAllocationPolicy with
        | .noWriteAllocate =>
          let out := op.commit inner
          (out.1, bank, out.2)
        | .writeAllocate =>
          onOk (bank.fillLine inner decoded .load) fun way (bank, inner) =>
            bank.storeLine inner decoded way op

end Accesses

/-! ### The calls of the bus trait

What a cache does on a bank once it is known that no maintenance is in progress. -/

def extractByte (word : U32) (addr : Address) : U8 := (toLeBytes word)[(addr &&& 3).toNat]?.getD 0

def extractHalf (word : U32) (addr : Address) : U16 :=
  let offset := (addr &&& 3).toNat
  (toLeBytes word)[offset + 1]?.getD 0 ++ (toLeBytes word)[offset]?.getD 0

section Calls

variable {β : Type} [BurstBus β]

/-- A read: from a word of a line, or past the bank. -/
def read {α : Type} (bank : CacheBank config) (inner : β) (cached : Bool)
    (bypass : Except BusError α × β) (wordAddr : Address) (kind : RefillKind) (value : U32 → α) :
    Except CacheError α × CacheBank config × β :=
  if cached then mapAnswer value (bank.loadWord inner wordAddr kind)
  else (ofBus bypass.1, bank, bypass.2)

/-- The address is a multiple of the width, or the call is refused. -/
def aligned {α : Type} (bank : CacheBank config) (inner : β) (addr : Address) (width : Nat)
    (out : Except CacheError α × CacheBank config × β) : Except CacheError α × CacheBank config × β :=
  if addr % BitVec.ofNat 64 width ≠ 0 then
    (.error (.bus (.misalignedAccess addr width)), bank, inner)
  else out

def fetch32 (bank : CacheBank config) (inner : β) (addr : Address) :
    Except CacheError U32 × CacheBank config × β :=
  bank.aligned inner addr 4 <|
    bank.read inner (config.caches addr) (Bus.fetch32 inner addr) addr .fetch id

def load8 (bank : CacheBank config) (inner : β) (addr : Address) :
    Except CacheError U8 × CacheBank config × β :=
  bank.read inner (config.caches addr) (Bus.load8 inner addr) (addr &&& ~~~3) .load
    (extractByte · addr)

def load16 (bank : CacheBank config) (inner : β) (addr : Address) :
    Except CacheError U16 × CacheBank config × β :=
  bank.aligned inner addr 2 <|
    bank.read inner (config.caches addr && config.cachesAddress (addr + 1)) (Bus.load16 inner addr)
      (addr &&& ~~~3) .load (extractHalf · addr)

def load32 (bank : CacheBank config) (inner : β) (addr : Address) :
    Except CacheError U32 × CacheBank config × β :=
  bank.aligned inner addr 4 <|
    bank.read inner (config.caches addr) (Bus.load32 inner addr) addr .load id

def store8 (bank : CacheBank config) (inner : β) (addr : Address) (value : U8) :
    Except CacheError Unit × CacheBank config × β :=
  bank.store inner ⟨addr, 1, value.setWidth 32⟩

def store16 (bank : CacheBank config) (inner : β) (addr : Address) (value : U16) :
    Except CacheError Unit × CacheBank config × β :=
  bank.aligned inner addr 2 <| bank.store inner ⟨addr, 2, value.setWidth 32⟩

def store32 (bank : CacheBank config) (inner : β) (addr : Address) (value : U32) :
    Except CacheError Unit × CacheBank config × β :=
  bank.aligned inner addr 4 <| bank.store inner ⟨addr, 4, value⟩

/-- A request of a client, answered as `BusRequest.call` does. -/
def access (bank : CacheBank config) (inner : β) (request : BusRequest) :
    Except CacheError U32 × CacheBank config × β :=
  match request with
  | .fetch32 addr => bank.fetch32 inner addr
  | .load8 addr => mapAnswer (·.setWidth 32) (bank.load8 inner addr)
  | .load16 addr => mapAnswer (·.setWidth 32) (bank.load16 inner addr)
  | .load32 addr => bank.load32 inner addr
  | .store8 addr value => mapAnswer (fun _ => 0) (bank.store8 inner addr value)
  | .store16 addr value => mapAnswer (fun _ => 0) (bank.store16 inner addr value)
  | .store32 addr value => mapAnswer (fun _ => 0) (bank.store32 inner addr value)

end Calls

/-! ### Maintenance -/

/-- The lines of a range, in the order they are pushed; a line that starts before the last byte is
followed by the next one. -/
def lineBasesFrom (lineSize : Nat) (last : Address) : Nat → Address → List Address
  | 0, lineBase => [lineBase]
  | count + 1, lineBase =>
    lineBase ::
      if last ≤ lineBase ∨ 2 ^ 64 ≤ lineBase.toNat + lineSize then []
      else lineBasesFrom lineSize last count (lineBase + BitVec.ofNat 64 lineSize)

def lineBasesForRange (config : CacheConfig) (start : Address) (len : U64) : List Address :=
  if len = 0 then []
  else
    let last := if start.toNat + (len.toNat - 1) < 2 ^ 64 then start + (len - 1) else -1
    lineBasesFrom config.lineSize last (last.toNat / config.lineSize + 1) (config.lineBase start)

def pendingWriteBackForLine (bank : CacheBank config) (lineBase : Address) :
    Option (PendingWriteBack config) :=
  if config.cachesLine lineBase then
    let decoded := config.decode lineBase
    match bank.lookupWay decoded with
    | some way =>
      let line := bank.line decoded.setIndex way
      if line.valid ∧ line.dirty then some { lineBase, words := line.words } else none
    | none => none
  else none

def completeWriteBackForLine (bank : CacheBank config) (lineBase : Address) : CacheBank config :=
  if config.cachesLine lineBase then
    let decoded := config.decode lineBase
    match bank.lookupWay decoded with
    | some way =>
      bank.setLine decoded.setIndex way { bank.line decoded.setIndex way with dirty := false }
    | none => bank
  else bank

/-- A line that is in the bank leaves it. -/
def dropLine (bank : CacheBank config) (decoded : DecodedAddress config) : CacheBank config :=
  match bank.lookupWay decoded with
  | some way =>
    bank.setLine decoded.setIndex way
      { bank.line decoded.setIndex way with valid := false, dirty := false }
  | none => bank

def invalidateLineBase (bank : CacheBank config) (lineBase : Address) : CacheBank config :=
  if config.cachesLine lineBase then
    let decoded := config.decode lineBase
    let bank :=
      if bank.pending.any (·.matchesLine decoded) then { bank with pending := none } else bank
    bank.dropLine decoded
  else bank

def invalidateRange (bank : CacheBank config) (start : Address) (len : U64) : CacheBank config :=
  (lineBasesForRange config start len).foldl invalidateLineBase bank

def invalidateLine (bank : CacheBank config) (addr : Address) : CacheBank config :=
  bank.invalidateLineBase (config.lineBase addr)

end CacheBank

/-- The write-back of a range: the lines that are left, and the one on its way. -/
structure PendingBankWriteBack (config : CacheConfig) where
  lineBases : List Address
  active : Option (PendingWriteBack config) := none
  deriving DecidableEq

namespace CacheBank

variable {config : CacheConfig} {β : Type} [BurstBus β]

/-- The lines that are left when none is on its way. -/
def writeBackLines (bank : CacheBank config) (inner : β) : List Address →
    Except CacheError Unit × CacheBank config × PendingBankWriteBack config × β
  | [] => (.ok (), bank, { lineBases := [] }, inner)
  | lineBase :: lineBases =>
    match bank.pendingWriteBackForLine lineBase with
    | none => bank.writeBackLines inner lineBases
    | some writeBack =>
      match progressWriteBack inner writeBack with
      | (.ok (.busy remainingCycles), writeBack, inner) =>
        (.error (.bus (.busy remainingCycles)), bank, { lineBases, active := some writeBack }, inner)
      | (.ok (.ready ()), _, inner) =>
        (bank.completeWriteBackForLine lineBase).writeBackLines inner lineBases
      | (.error error, writeBack, inner) =>
        (.error error, bank, { lineBases, active := some writeBack }, inner)

def continueWriteBackRange (bank : CacheBank config) (inner : β)
    (pending : PendingBankWriteBack config) :
    Except CacheError Unit × CacheBank config × PendingBankWriteBack config × β :=
  match pending.active with
  | none => bank.writeBackLines inner pending.lineBases
  | some writeBack =>
    match progressWriteBack inner writeBack with
    | (.ok (.busy remainingCycles), writeBack, inner) =>
      (.error (.bus (.busy remainingCycles)), bank, { pending with active := some writeBack }, inner)
    | (.ok (.ready ()), _, inner) =>
      (bank.completeWriteBackForLine writeBack.lineBase).writeBackLines inner pending.lineBases
    | (.error error, writeBack, inner) =>
      (.error error, bank, { pending with active := some writeBack }, inner)

end CacheBank

inductive MaintenanceKind
  | writeBack | invalidate
  deriving DecidableEq, Repr

structure MaintenanceRequest where
  start : Address
  len : U64
  kind : MaintenanceKind
  deriving DecidableEq, Repr

/-- Pass a maintenance request on. -/
def MaintenanceRequest.call {β : Type} [CacheMaintenance β] (request : MaintenanceRequest)
    (inner : β) : Except BusError Unit × β :=
  match request.kind with
  | .writeBack => CacheMaintenance.writeBackRange inner request.start request.len
  | .invalidate => CacheMaintenance.invalidateRange inner request.start request.len

/-- How far a maintenance request has come: `LocalWriteBack` or `DataWriteBack`, then `Inner`. -/
inductive MaintenanceStage (config : CacheConfig)
  | writeBack (pending : PendingBankWriteBack config)
  | inner
  deriving DecidableEq

structure PendingMaintenance (config : CacheConfig) where
  request : MaintenanceRequest
  stage : MaintenanceStage config
  deriving DecidableEq

end RvSim
