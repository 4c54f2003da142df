import RvSim.System.Cache.Bank

/-!
# A request on a bank

Every request of the bus trait does one of three things on a bank: it is refused because its address is
misaligned, it goes past the bank, or it is about a line. The last case is the same for reads and stores
up to what is done with the line (`CacheBank.finish`) and what is done without it (`CacheBank.miss`).

## Main definitions

* `BusRequest.Misaligned`, `CacheConfig.covers`: the cases
* `CacheBank.lineAccess`: a request about a line

## Main results

* `CacheBank.access_misaligned`, `CacheBank.access_bypass`, `CacheBank.access_line`
-/

namespace RvSim

namespace BusRequest

def addr : BusRequest → Address
  | .fetch32 addr | .load8 addr | .load16 addr | .load32 addr => addr
  | .store8 addr _ | .store16 addr _ | .store32 addr _ => addr

def width : BusRequest → Nat
  | .load8 _ | .store8 _ _ => 1
  | .load16 _ | .store16 _ _ => 2
  | .fetch32 _ | .load32 _ | .store32 _ _ => 4

/-- What a refill for the request is for. -/
def refillKind : BusRequest → RefillKind
  | .fetch32 _ => .fetch
  | _ => .load

/-- The store of the request. -/
def storeOp : BusRequest → Option StoreOp
  | .store8 addr value => some ⟨addr, 1, value.setWidth 32⟩
  | .store16 addr value => some ⟨addr, 2, value.setWidth 32⟩
  | .store32 addr value => some ⟨addr, 4, value⟩
  | _ => none

/-- The address whose word is looked up. -/
def wordAddr : BusRequest → Address
  | .load8 addr | .load16 addr => addr &&& ~~~3
  | request => request.addr

/-- What a read makes of the word. -/
def ofWord (request : BusRequest) (word : U32) : U32 :=
  match request with
  | .load8 addr => (CacheBank.extractByte word addr).setWidth 32
  | .load16 addr => (CacheBank.extractHalf word addr).setWidth 32
  | _ => word

/-- The address is no multiple of the width. -/
def Misaligned (request : BusRequest) : Prop :=
  request.addr % BitVec.ofNat 64 request.width ≠ 0

instance : DecidablePred Misaligned := fun _ => inferInstanceAs (Decidable (_ ≠ _))

end BusRequest

namespace CacheConfig

variable (config : CacheConfig)

/-- The cache answers the request from a line. -/
def covers (request : BusRequest) : Bool :=
  match request with
  | .load16 addr => config.caches addr && config.cachesAddress (addr + 1)
  | request => config.caches request.addr

/-- A word lies in one line. -/
theorem lineBase_mask (addr : Address) :
    config.lineBase (addr &&& ~~~3) = config.lineBase addr := by
  have hmask : ~~~(3 : Address) = ~~~(BitVec.ofNat 64 (2 ^ 2) - 1) := by decide
  have hword : (addr &&& ~~~3).toNat = addr.toNat / 4 * 4 := by
    rw [hmask]
    exact toNat_clearLow (by decide) addr
  rw [lineBase_eq_iff, hword, ← config.lineWords_mul, Nat.mul_comm config.lineWords 4,
    ← Nat.div_div_eq_div_mul, ← Nat.div_div_eq_div_mul, Nat.mul_div_cancel _ (by decide)]

theorem lineBase_wordAddr (request : BusRequest) :
    config.lineBase request.wordAddr = config.lineBase request.addr := by
  cases request with
  | load8 addr => exact config.lineBase_mask addr
  | load16 addr => exact config.lineBase_mask addr
  | _ => rfl

end CacheConfig

namespace CacheBank

variable {config : CacheConfig} {β : Type} [BurstBus β]

/-- What a request does with its line. -/
def finish (bank : CacheBank config) (inner : β) (request : BusRequest)
    (way : Fin config.associativity) : Except CacheError U32 × CacheBank config × β :=
  let decoded := config.decode request.wordAddr
  match request.storeOp with
  | none =>
    (.ok (request.ofWord (bank.readWord decoded way)), bank.touchLine decoded.setIndex way, inner)
  | some op => mapAnswer (fun _ => 0) (bank.storeLine inner decoded way op)

/-- The request fetches a line that is not there. -/
def allocates (config : CacheConfig) (request : BusRequest) : Bool :=
  request.storeOp.isNone || config.storeAllocationPolicy == .writeAllocate

/-- What a request does without its line. -/
def miss (bank : CacheBank config) (inner : β) (request : BusRequest) :
    Except CacheError U32 × CacheBank config × β :=
  if allocates config request then
    onOk (bank.fillLine inner (config.decode request.wordAddr) request.refillKind)
      fun way (bank, inner) => bank.finish inner request way
  else (ofBus (request.call inner).1, bank, (request.call inner).2)

/-- A request about a line. -/
def lineAccess (bank : CacheBank config) (inner : β) (request : BusRequest) :
    Except CacheError U32 × CacheBank config × β :=
  onOk (bank.resumePending inner (config.decode request.wordAddr)) fun _ (bank, inner) =>
    match bank.lookupWay (config.decode request.wordAddr) with
    | some way => bank.finish inner request way
    | none => bank.miss inner request

theorem commit_eq {request : BusRequest} {op : StoreOp} (h : request.storeOp = some op) (inner : β) :
    mapAnswer (fun _ => (0 : U32)) (op.commit inner) =
      (ofBus (request.call inner).1, (request.call inner).2) := by
  cases request with
  | store8 addr value =>
    cases h
    have hvalue : (value.setWidth 32).setWidth 8 = value := by simp
    simp only [StoreOp.commit, hvalue]
    exact mapAnswer_ofBus _ _ _
  | store16 addr value =>
    cases h
    have hvalue : (value.setWidth 32).setWidth 16 = value := by simp
    simp only [StoreOp.commit, hvalue]
    exact mapAnswer_ofBus _ _ _
  | store32 addr value =>
    cases h
    exact mapAnswer_ofBus _ _ _
  | _ => cases h

theorem lineAccess_read {request : BusRequest} (h : request.storeOp = none) (bank : CacheBank config)
    (inner : β) :
    bank.lineAccess inner request =
      mapAnswer request.ofWord (bank.loadWord inner request.wordAddr request.refillKind) := by
  unfold lineAccess loadWord ensureLine
  rw [onOk_onOk, mapAnswer_onOk]
  congr 1
  funext _ s
  dsimp only
  rcases s.1.lookupWay (config.decode request.wordAddr) with _ | way
  · simp only [miss, allocates, h, Option.isNone_none, Bool.true_or, if_true, finish]
    rw [mapAnswer_onOk]
    rfl
  · simp only [finish, h]
    rfl

theorem lineAccess_store (op : StoreOp) {request : BusRequest} (h : request.storeOp = some op)
    (hcaches : config.caches op.addr = true) (hword : request.wordAddr = op.addr)
    (hkind : request.refillKind = .load) (bank : CacheBank config) (inner : β) :
    bank.lineAccess inner request = mapAnswer (fun _ => 0) (bank.store inner op) := by
  unfold lineAccess store
  rw [hcaches, Bool.not_true, if_neg Bool.false_ne_true, mapAnswer_onOk, hword]
  congr 1
  funext _ s
  dsimp only
  rcases s.1.lookupWay (config.decode op.addr) with _ | way
  · simp only [miss, allocates, h, Option.isNone_some, Bool.false_or, finish, hword, hkind]
    cases config.storeAllocationPolicy with
    | noWriteAllocate =>
      have hcommit := commit_eq h s.2
      exact (congrArg (fun out => (out.1, s.1, out.2)) hcommit).symm
    | writeAllocate => exact (mapAnswer_onOk _ _ _).symm
  · simp only [finish, h, hword]

/-! ## The three cases -/

omit [BurstBus β] in
theorem aligned_of {α : Type} {addr : Address} {width : Nat}
    (h : ¬ addr % BitVec.ofNat 64 width ≠ 0) (bank : CacheBank config) (inner : β)
    (out : Except CacheError α × CacheBank config × β) :
    bank.aligned inner addr width out = out := if_neg h

theorem access_misaligned {request : BusRequest} (h : request.Misaligned) (bank : CacheBank config)
    (inner : β) :
    bank.access inner request =
      (.error (.bus (.misalignedAccess request.addr request.width)), bank, inner) := by
  cases request with
  | load8 addr => exact absurd BitVec.umod_one h
  | store8 addr value => exact absurd BitVec.umod_one h
  | _ =>
    unfold BusRequest.Misaligned at h
    first
      | exact if_pos h
      | exact congrArg (mapAnswer _) (if_pos h)

theorem access_bypass {request : BusRequest} (haligned : ¬ request.Misaligned)
    (hcovers : config.covers request = false) (bank : CacheBank config) (inner : β) :
    bank.access inner request = (ofBus (request.call inner).1, bank, (request.call inner).2) := by
  have hread {α : Type} (bypass : Except BusError α × β) (wordAddr : Address) (kind : RefillKind)
      (value : U32 → α) : bank.read inner false bypass wordAddr kind value =
        (ofBus bypass.1, bank, bypass.2) := rfl
  have hstore {op : StoreOp} (hop : request.storeOp = some op)
      (hcaches : config.caches op.addr = false) : mapAnswer (fun _ => (0 : U32)) (bank.store inner op) =
        (ofBus (request.call inner).1, bank, (request.call inner).2) := by
    have hcommit := commit_eq hop inner
    rw [store, hcaches]
    exact congrArg (fun out => (out.1, bank, out.2)) hcommit
  -- each call checks its alignment and makes the access on the lower bus
  cases request with
  | fetch32 addr =>
    show bank.aligned inner addr 4 _ = _
    rw [aligned_of (show ¬ addr % BitVec.ofNat 64 4 ≠ 0 from haligned),
      show config.caches addr = false from hcovers, hread]
    rfl
  | load8 addr =>
    show mapAnswer _ (bank.read inner (config.caches addr) _ _ _ _) = _
    rw [show config.caches addr = false from hcovers, hread, mapAnswer_ofBus]
    rfl
  | load16 addr =>
    show mapAnswer _ (bank.aligned inner addr 2 _) = _
    rw [aligned_of (show ¬ addr % BitVec.ofNat 64 2 ≠ 0 from haligned),
      show (config.caches addr && config.cachesAddress (addr + 1)) = false from hcovers, hread,
      mapAnswer_ofBus]
    rfl
  | load32 addr =>
    show bank.aligned inner addr 4 _ = _
    rw [aligned_of (show ¬ addr % BitVec.ofNat 64 4 ≠ 0 from haligned),
      show config.caches addr = false from hcovers, hread]
    rfl
  | store8 addr value => exact hstore rfl hcovers
  | store16 addr value =>
    show mapAnswer _ (bank.aligned inner addr 2 _) = _
    rw [aligned_of (show ¬ addr % BitVec.ofNat 64 2 ≠ 0 from haligned)]
    exact hstore rfl hcovers
  | store32 addr value =>
    show mapAnswer _ (bank.aligned inner addr 4 _) = _
    rw [aligned_of (show ¬ addr % BitVec.ofNat 64 4 ≠ 0 from haligned)]
    exact hstore rfl hcovers

theorem access_line {request : BusRequest} (haligned : ¬ request.Misaligned)
    (hcovers : config.covers request = true) (bank : CacheBank config) (inner : β) :
    bank.access inner request = bank.lineAccess inner request := by
  have hread {α : Type} (bypass : Except BusError α × β) (wordAddr : Address) (kind : RefillKind)
      (value : U32 → α) : bank.read inner true bypass wordAddr kind value =
        mapAnswer value (bank.loadWord inner wordAddr kind) := rfl
  -- each call checks its alignment and reads or writes the line of its word
  cases request with
  | fetch32 addr =>
    rw [lineAccess_read rfl]
    show bank.aligned inner addr 4 _ = _
    rw [aligned_of (show ¬ addr % BitVec.ofNat 64 4 ≠ 0 from haligned),
      show config.caches addr = true from hcovers, hread]
    rfl
  | load8 addr =>
    rw [lineAccess_read rfl]
    show mapAnswer _ (bank.read inner (config.caches addr) _ _ _ _) = _
    rw [show config.caches addr = true from hcovers, hread, mapAnswer_mapAnswer]
    rfl
  | load16 addr =>
    rw [lineAccess_read rfl]
    show mapAnswer _ (bank.aligned inner addr 2 _) = _
    rw [aligned_of (show ¬ addr % BitVec.ofNat 64 2 ≠ 0 from haligned),
      show (config.caches addr && config.cachesAddress (addr + 1)) = true from hcovers, hread,
      mapAnswer_mapAnswer]
    rfl
  | load32 addr =>
    rw [lineAccess_read rfl]
    show bank.aligned inner addr 4 _ = _
    rw [aligned_of (show ¬ addr % BitVec.ofNat 64 4 ≠ 0 from haligned),
      show config.caches addr = true from hcovers, hread]
    rfl
  | store8 addr value => exact (lineAccess_store ⟨addr, 1, _⟩ rfl hcovers rfl rfl bank inner).symm
  | store16 addr value =>
    rw [lineAccess_store ⟨addr, 2, _⟩ rfl hcovers rfl rfl]
    show mapAnswer _ (bank.aligned inner addr 2 _) = _
    rw [aligned_of (show ¬ addr % BitVec.ofNat 64 2 ≠ 0 from haligned)]
  | store32 addr value =>
    rw [lineAccess_store ⟨addr, 4, _⟩ rfl hcovers rfl rfl]
    show mapAnswer _ (bank.aligned inner addr 4 _) = _
    rw [aligned_of (show ¬ addr % BitVec.ofNat 64 4 ≠ 0 from haligned)]

end CacheBank

end RvSim
