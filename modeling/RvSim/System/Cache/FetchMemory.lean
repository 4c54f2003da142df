import RvSim.System.Cache.Ranges
import RvSim.System.Cache.SplitMemory

/-!
# Fetches behind stores

A client of a split cache that also fetches. The instruction bank takes a line from below as it lies there,
which is an older one where the line is dirty in the data bank. A fetch is answered with the latest stores
if no byte of its word was dirty when it was taken.

## Main definitions

* `FetchClient`: a client, and the bytes that were dirty when the instruction bank took them
* `FetchClient.Agrees`: an access is answered as by the flat memory, where its word was not dirty

## Main results

* `fetchMemory_run`: every access of every run agrees
-/

namespace RvSim

open MemoryContract Automata

/-! ## The lines of a bank -/

namespace CacheBank

variable {config : CacheConfig} {bank : CacheBank config} {role : Role} {memory : ByteMemory}

/-- A line of the bank holds the address. -/
def inLine (bank : CacheBank config) (addr : Address) : Bool := (bank.lookupWay (config.decode addr)).isSome

/-- The line of the bank that holds the address is dirty. -/
def inDirtyLine (bank : CacheBank config) (addr : Address) : Bool :=
  match bank.lookupWay (config.decode addr) with
  | some way => (bank.line (config.decode addr).setIndex way).dirty
  | none => false

theorem lookupWay_congr (bank : CacheBank config) {a addr : Address}
    (h : config.lineBase a = config.lineBase addr) :
    bank.lookupWay (config.decode a) = bank.lookupWay (config.decode addr) := by
  obtain ⟨hset, htag⟩ := config.decode_congr h
  unfold lookupWay
  rw [hset, htag]

theorem inLine_of_valid {setIndex : Fin config.setCount} {way : Fin config.associativity} {a addr : Address}
    (hset : (config.decode addr).setIndex = setIndex)
    (htag : (config.decode addr).tag = (bank.line setIndex way).tag)
    (hvalid : (bank.line setIndex way).valid = true) (h : config.lineBase a = config.lineBase addr) :
    bank.inLine a = true := by
  subst hset
  obtain ⟨way', hlookup⟩ := bank.exists_lookupWay (holds_iff.2 ⟨hvalid, htag.symm⟩)
  unfold inLine
  rw [bank.lookupWay_congr h, hlookup]
  rfl

theorem Shows.not_dirtyAt (h : bank.Shows role memory) {addr : Address}
    (hclean : bank.inDirtyLine addr = false) : ¬ bank.DirtyAt addr := by
  rintro ⟨way, hholds, hdirty⟩
  obtain ⟨way', hlookup⟩ := bank.exists_lookupWay hholds
  obtain ⟨hvalid, htag⟩ := holds_iff.1 hholds
  obtain ⟨hvalid', htag'⟩ := valid_of_lookupWay hlookup
  obtain rfl := h.unique _ _ _ hvalid hvalid' (htag.trans htag'.symm)
  unfold inDirtyLine at hclean
  rw [hlookup] at hclean
  dsimp only at hclean
  rw [hclean] at hdirty
  cases hdirty

/-- Where no line is, the memory does not matter. -/
theorem Shows.of_agree (h : bank.Shows role memory) {other : ByteMemory}
    (hagree : ∀ a, bank.inLine a = true → other a = memory a) : bank.Shows role other := by
  refine ⟨fun setIndex way hvalid => ?_, h.unique⟩
  obtain ⟨addr, hcaches, hset, htag, hwords⟩ := h.lines setIndex way hvalid
  refine ⟨addr, hcaches, hset, htag, fun hcopies => (hwords hcopies).trans ?_⟩
  refine ByteMemory.words_congr fun offset hoffset => (hagree _ ?_).symm
  refine inLine_of_valid hset htag hvalid ?_
  have hwords := config.lineWords_mul
  have hsize := config.lineSize_lt
  rw [CacheConfig.lineBase_eq_iff_sub_lt, BitVec.add_comm, BitVec.add_sub_cancel, BitVec.toNat_ofNat,
    Nat.mod_eq_of_lt (by omega)]
  omega

theorem Shows.of_role (h : bank.Shows role memory) (hcopies : role.copies) (role' : Role) :
    bank.Shows role' memory := by
  refine ⟨fun setIndex way hvalid => ?_, h.unique⟩
  obtain ⟨addr, hcaches, hset, htag, hwords⟩ := h.lines setIndex way hvalid
  exact ⟨addr, hcaches, hset, htag, fun _ => hwords hcopies⟩

/-- A valid line of a bank that has dropped one was there before. -/
theorem line_of_valid_invalidateLine {addr : Address} {setIndex : Fin config.setCount}
    {way : Fin config.associativity} (h : ((bank.invalidateLine addr).line setIndex way).valid = true) :
    (bank.invalidateLine addr).line setIndex way = bank.line setIndex way := by
  unfold invalidateLine at h ⊢
  rw [line_invalidateLineBase] at h ⊢
  split at h
  · cases h
  · rename_i hother
    rw [if_neg hother]

theorem Shows.invalidateLine (h : bank.Shows role memory) (addr : Address) :
    (bank.invalidateLine addr).Shows role memory := by
  constructor
  · intro setIndex way hvalid
    have hline := line_of_valid_invalidateLine hvalid
    rw [hline] at hvalid ⊢
    exact h.lines setIndex way hvalid
  · intro setIndex way way' hvalid hvalid' htag
    have hline := line_of_valid_invalidateLine hvalid
    have hline' := line_of_valid_invalidateLine hvalid'
    rw [hline] at hvalid htag
    rw [hline'] at hvalid' htag
    exact h.unique setIndex way way' hvalid hvalid' htag

/-- The lines that are left behind an invalidation. -/
theorem Shows.inLine_invalidateLine (h : bank.Shows role memory) {addr a : Address}
    (hin : (bank.invalidateLine addr).inLine a = true) :
    bank.inLine a = true ∧ config.lineBase a ≠ config.lineBase addr := by
  obtain ⟨way, hlookup⟩ := Option.isSome_iff_exists.1 hin
  obtain ⟨hvalid, htag⟩ := valid_of_lookupWay hlookup
  have hline := line_of_valid_invalidateLine hvalid
  have hinvalidated := hvalid
  rw [hline] at hvalid htag
  refine ⟨inLine_of_valid rfl htag.symm hvalid rfl, fun hsame => ?_⟩
  -- the line that is dropped is the only one of its tag
  obtain ⟨hset, htag'⟩ := config.decode_congr hsame
  obtain ⟨way', hlookup'⟩ := bank.exists_lookupWay (holds_iff.2 ⟨hvalid, htag⟩)
  obtain ⟨hvalid', htag''⟩ := valid_of_lookupWay hlookup'
  obtain rfl := h.unique _ _ _ hvalid hvalid' (htag.trans htag''.symm)
  have hcaches := (h.words hlookup').2
  have hbase := config.lineBase_lineBase addr
  unfold CacheBank.invalidateLine at hinvalidated
  rw [line_invalidateLineBase, if_pos] at hinvalidated
  · cases hinvalidated
  · refine ⟨?_, ?_, ?_⟩
    · rw [CacheConfig.caches_eq, CacheConfig.cachesLineContaining, hsame] at hcaches
      exact hcaches
    · rw [(config.decode_congr hbase).1, hset]
    · rw [bank.lookupWay_congr hbase, ← bank.lookupWay_congr hsame, hlookup']

end CacheBank

/-! ## A client that fetches -/

/-- A client of a split cache. `stale` marks the bytes that lay in a dirty line of the data bank when the
instruction bank took them from below. -/
structure FetchClient (instr dat : CacheConfig) (β : Type) extends
    MemoryClient (SplitL1Cache instr dat β) where
  stale : Address → Bool := fun _ => false

namespace FetchClient

variable {instr dat : CacheConfig} {β : Type} [BurstBus β]

/-- A fetch that begins takes from below what the instruction bank does not hold. -/
def staleAt (client : FetchClient instr dat β) (op : CacheOp) (addr : Address) : Bool :=
  match op, client.waiting with
  | .request (.fetch32 _), none =>
    if client.bus.instruction.inLine addr then client.stale addr else client.bus.data.inDirtyLine addr
  | _, _ => client.stale addr

def step (client : FetchClient instr dat β) (op : CacheOp) : FetchClient instr dat β :=
  { client.toMemoryClient.step op with stale := client.staleAt op }

/-- The client makes aligned accesses of the memory, and no other one while one is waiting. -/
def Permits (client : FetchClient instr dat β) : CacheOp → Prop
  | .tick => True
  | .request request => ¬ request.Misaligned ∧ client.flat.Maps request.addr request.width ∧
      (client.waiting = none ∨ client.waiting = some request)

instance (client : FetchClient instr dat β) : DecidablePred client.Permits
  | .tick => isTrue trivial
  | .request request => inferInstanceAs (Decidable (_ ∧ (∀ offset < request.width, _) ∧ _))

/-- An access is answered as by the flat memory, or is to be repeated. -/
def Right (client : FetchClient instr dat β) (op : CacheOp) : Prop := client.toMemoryClient.Agrees op

/-- The same, of a fetch whose word was not dirty when it was taken. -/
def RightIfFresh (client : FetchClient instr dat β) (op : CacheOp) : Prop :=
  (∀ addr, op = .request (.fetch32 addr) → ∀ i < 4, client.staleAt op (addr + BitVec.ofNat 64 i) = false) →
    client.Right op

end FetchClient

/-! ## What the instruction bank holds -/

namespace SplitL1Cache

variable {instr dat : CacheConfig}

/-! ## Data accesses beside fetched lines -/

/-- What a store keeps of an instruction bank, which drops the line of its address. -/
def KeptByStores (I : ByteMemory → CacheBank instr → Prop) : Prop :=
  ∀ {memory : ByteMemory} {bank : CacheBank instr} (op : StoreOp), op.addr.toNat % 4 + op.width ≤ 4 →
    I memory bank → I (memory.store op) (bank.invalidateLine op.addr)

section With

variable {β : Type} [BurstBus β] [MemoryContract β] {request : BusRequest} {memory : FlatMemory}
  {cache : SplitL1Cache instr dat β} {I : ByteMemory → CacheBank instr → Prop}

/-- The cached data ranges lie in the memory; `I` is what holds of the instruction bank. -/
structure ServingWith (I : ByteMemory → CacheBank instr → Prop) (memory : FlatMemory)
    (cache : SplitL1Cache instr dat β) : Prop where
  config : dat.Within memory.mapped
  maintenance : cache.maintenance = none
  instruction : I memory.contents cache.instruction

/-- Nothing is in progress. -/
structure QuietWith (I : ByteMemory → CacheBank instr → Prop) (memory : FlatMemory)
    (cache : SplitL1Cache instr dat β) : Prop extends cache.ServingWith I memory where
  data : cache.data.Rests .whole memory cache.inner

/-- A data access is in progress. -/
structure AwaitingWith (I : ByteMemory → CacheBank instr → Prop) (request : BusRequest)
    (memory : FlatMemory) (cache : SplitL1Cache instr dat β) : Prop extends cache.ServingWith I memory where
  data : cache.data.Awaits .whole request memory cache.inner

/-- A data access that the data bank answers, or makes wait. -/
theorem answered_with (hkept : KeptByStores I) (hserving : cache.ServingWith I memory)
    (hdata : ∀ addr, request ≠ .fetch32 addr) (haligned : ¬ request.Misaligned)
    (h : Ends False (cache.data.access cache.inner request) (CacheBank.Answers .whole request memory)
      (CacheBank.Delays .whole request memory)) :
    AnsweredAs (AwaitingWith I request) (QuietWith I) request memory (request.call cache) := by
  obtain ⟨hconfig, hmaintenance, hinstruction⟩ := hserving
  rw [call_eq, access_data hmaintenance hdata]
  generalize cache.data.access cache.inner request = out at h
  obtain ⟨(error | _ | _) | value, bank, inner⟩ := out
  · obtain ⟨hbusy, hwaits⟩ := h
    unfold onData
    rw [behindStore_error]
    exact ⟨hbusy, ⟨hconfig, hmaintenance, hinstruction⟩, hwaits⟩
  · exact h.elim
  · exact h.elim
  · obtain ⟨hanswer, hrests⟩ := h
    unfold onData behindStore
    cases hstore : request.storeOp with
    | none =>
      rw [BusRequest.effect_read hstore] at hrests
      refine ⟨hanswer trivial, ?_⟩
      rw [BusRequest.effect_read hstore]
      exact ⟨⟨hconfig, hmaintenance, hinstruction⟩, hrests⟩
    | some op =>
      have hword := BusRequest.mod_add_width haligned
      rw [← (BusRequest.storeOp_addr hstore).1, ← (BusRequest.storeOp_addr hstore).2] at hword
      rw [BusRequest.effect_store hstore] at hrests
      refine ⟨hanswer trivial, ?_⟩
      rw [BusRequest.effect_store hstore]
      exact ⟨⟨hconfig, hmaintenance, hkept op hword hinstruction⟩, hrests⟩

theorem QuietWith.call (hkept : KeptByStores I) (h : cache.QuietWith I memory)
    (hdata : ∀ addr, request ≠ .fetch32 addr) (haligned : ¬ request.Misaligned)
    (hmaps : memory.Maps request.addr request.width) :
    AnsweredAs (AwaitingWith I request) (QuietWith I) request memory (request.call cache) :=
  answered_with hkept h.toServingWith hdata haligned (CacheBank.access_rests h.config haligned hmaps
    ⟨fun _ => trivial, fun _ _ _ => trivial⟩ h.data)

theorem AwaitingWith.call (hkept : KeptByStores I) (h : cache.AwaitingWith I request memory)
    (hdata : ∀ addr, request ≠ .fetch32 addr) (haligned : ¬ request.Misaligned)
    (hmaps : memory.Maps request.addr request.width) :
    AnsweredAs (AwaitingWith I request) (QuietWith I) request memory (request.call cache) :=
  answered_with hkept h.toServingWith hdata haligned
    (CacheBank.access_waits h.config haligned hmaps (fun _ => trivial) h.data)

theorem QuietWith.tick (h : cache.QuietWith I memory) : (Bus.tick cache).QuietWith I memory :=
  ⟨⟨h.config, h.maintenance, h.instruction⟩, CacheBank.rests_tick h.data⟩

theorem AwaitingWith.tick (h : cache.AwaitingWith I request memory) :
    (Bus.tick cache).AwaitingWith I request memory :=
  ⟨⟨h.config, h.maintenance, h.instruction⟩, CacheBank.waits_tick h.data⟩

end With

/-- The lines of the instruction bank are clean, and those of the memory where they are not stale. -/
structure FetchedAs (stale : Address → Bool) (memory : ByteMemory) (bank : CacheBank instr) : Prop where
  pending : bank.pending = none
  clean : ∀ setIndex way, (bank.line setIndex way).valid = true → (bank.line setIndex way).dirty = false
  shows : ∃ fetched, bank.Shows .whole fetched ∧
    ∀ a, bank.inLine a = true → stale a = false → fetched a = memory a

/-- A store drops the line that it is about. -/
theorem keptByStores_fetchedAs (stale : Address → Bool) :
    KeptByStores (@FetchedAs instr stale) := by
  intro memory bank op hword h
  obtain ⟨hpending, hclean, fetched, hshows, hfetched⟩ := h
  refine ⟨?_, fun setIndex way hvalid => ?_, fetched, hshows.invalidateLine _, fun a hin hfresh => ?_⟩
  · rw [CacheBank.pending_invalidateLine, hpending, ite_self]
  · have hline := CacheBank.line_of_valid_invalidateLine hvalid
    rw [hline] at hvalid ⊢
    exact hclean setIndex way hvalid
  · obtain ⟨hin, hother⟩ := hshows.inLine_invalidateLine hin
    have hkept : memory.store op a = memory a :=
      if_neg fun hlt => hother (instr.lineBase_of_stored hword hlt)
    rw [hfetched a hin hfresh, hkept]

/-- The instruction bank while a fetch is in progress: it takes from below what is not in its lines. -/
def fetching (region : Address → Prop) (below : ByteMemory → Prop) : CacheBank.Role where
  region
  copies := True
  stores := False
  below
  free := False.elim

variable {β : Type} [BurstBus β] [MemoryContract β] {cache : SplitL1Cache instr dat β}
  {memory : FlatMemory} {stale : Address → Bool} {addr : Address}

/-- A fetch is in progress. -/
structure Fetching (stale : Address → Bool) (memory : FlatMemory) (addr : Address)
    (cache : SplitL1Cache instr dat β) : Prop where
  config : dat.Within memory.mapped
  maintenance : cache.maintenance = none
  pending : cache.data.pending = none
  instruction : ∃ region fetched, cache.instruction.Awaits
      (fetching region fun lower => cache.data.Holds .whole lower memory.contents none) (.fetch32 addr)
      ⟨memory.mapped, fetched⟩ cache.inner ∧
    ∀ a, stale a = false → fetched a = memory.contents a

/-- A fetch waits, or is answered: rightly, if no byte of its word is stale. -/
def FetchAnswered (stale : Address → Bool) (memory : FlatMemory) (addr : Address)
    (out : Except BusError U32 × SplitL1Cache instr dat β) : Prop :=
  match out.1 with
  | .ok value => ((∀ i < 4, stale (addr + BitVec.ofNat 64 i) = false) →
      value = (BusRequest.fetch32 addr).answer memory.contents) ∧
        out.2.QuietWith (FetchedAs stale) memory
  | .error error => error.isBusy = true ∧ out.2.Fetching stale memory addr

/-- A fetch that the instruction bank answers, or makes wait. -/
theorem fetchAnswered_access (hconfig : dat.Within memory.mapped) (hmaintenance : cache.maintenance = none)
    (hpending : cache.data.pending = none) {region : Address → Prop} {fetched : ByteMemory}
    (hfresh : ∀ a, stale a = false → fetched a = memory.contents a)
    (h : Ends False (cache.instruction.access cache.inner (.fetch32 addr))
      (CacheBank.Answers (fetching region fun lower => cache.data.Holds .whole lower memory.contents none)
        (.fetch32 addr) ⟨memory.mapped, fetched⟩)
      (CacheBank.Delays (fetching region fun lower => cache.data.Holds .whole lower memory.contents none)
        (.fetch32 addr) ⟨memory.mapped, fetched⟩)) :
    FetchAnswered stale memory addr ((BusRequest.fetch32 addr).call cache) := by
  rw [call_eq, access_fetch hmaintenance]
  generalize cache.instruction.access cache.inner (.fetch32 addr) = out at h
  obtain ⟨(error | _ | _) | value, bank, inner⟩ := out
  · exact ⟨h.1, hconfig, hmaintenance, hpending, region, fetched, h.2, hfresh⟩
  · exact h.elim
  · exact h.elim
  · obtain ⟨hanswer, hrests, lower, hholds, hquiet⟩ := h
    refine ⟨fun hword => ?_, ⟨hconfig, hmaintenance, hrests, fun setIndex way hvalid => ?_, fetched,
      hholds.of_role trivial _, fun a _ => hfresh a⟩, hpending, lower, hholds.below, hquiet⟩
    · refine (hanswer trivial).trans ?_
      show fetched.word addr = memory.contents.word addr
      rw [ByteMemory.word_eq_ofFn, ByteMemory.word_eq_ofFn]
      exact congrArg (fun f => fromLeBytes (Vector.ofFn f)) (funext fun i => hfresh _ (hword i i.isLt))
    · -- a dirty line would be one of a bank that stores go to
      rw [Bool.eq_false_iff]
      exact fun hdirty => (hholds.policy setIndex way hvalid hdirty).2

/-- What a fetch asks of the bus below lies in no line. -/
theorem charges_fetch {bank : CacheBank instr} {role : CacheBank.Role} {fetched : ByteMemory}
    (hshows : bank.Shows role fetched) (haligned : ¬ (BusRequest.fetch32 addr).Misaligned)
    (below : ByteMemory → Prop) :
    CacheBank.Charges (fetching (fun a => bank.inLine a = false) below) bank (.fetch32 addr) := by
  refine ⟨(fun h => by cases h), fun _ a hasked => ?_⟩
  have hnone (h : bank.lookupWay (instr.decode a) = none) : bank.inLine a = false := by
    unfold CacheBank.inLine
    rw [h]
    rfl
  unfold CacheBank.Asked at hasked
  refine hnone ?_
  split at hasked
  · rw [bank.lookupWay_congr hasked.2]
    exact hasked.1
  · rename_i hcovers
    rw [Bool.not_eq_true, instr.covers_eq haligned] at hcovers
    have hline : instr.lineBase a = instr.lineBase addr := by
      rw [instr.lineBase_eq_iff, ← instr.lineWords_mul, Nat.mul_comm instr.lineWords 4,
        ← Nat.div_div_eq_div_mul, ← Nat.div_div_eq_div_mul, hasked]
      rfl
    refine hshows.lookupWay_of_not_caches ?_
    rw [CacheConfig.caches_eq, CacheConfig.cachesLineContaining] at hcovers ⊢
    rwa [hline]

/-- **A fetch that begins.** -/
theorem QuietWith.fetch (hinstr : instr.Within memory.mapped) (h : cache.QuietWith (FetchedAs stale) memory)
    (haligned : ¬ (BusRequest.fetch32 addr).Misaligned) (hmaps : memory.Maps addr 4) :
    FetchAnswered (fun a => if cache.instruction.inLine a then stale a else cache.data.inDirtyLine a) memory
      addr ((BusRequest.fetch32 addr).call cache) := by
  obtain ⟨hpending, lower, hholds, hquiet⟩ := h.data
  obtain ⟨hrests, hclean, fetched, hshows, hfetched⟩ := h.instruction
  -- where the instruction bank has no line, it shows what lies below the data bank
  let taken : ByteMemory := fun a => if cache.instruction.inLine a then fetched a else lower a
  have htaken : cache.instruction.Shows .whole taken := hshows.of_agree fun a hin => if_pos hin
  have hfresh (a : Address) (ha : (if cache.instruction.inLine a then stale a
      else cache.data.inDirtyLine a) = false) : taken a = memory.contents a := by
    show (if cache.instruction.inLine a then fetched a else lower a) = memory.contents a
    split at ha
    · rename_i hin
      rw [if_pos hin]
      exact hfetched a hin ha
    · rename_i hout
      rw [if_neg hout]
      exact (hholds.rest trivial a trivial (hholds.toShows.not_dirtyAt ha)
        fun _ hflight => by cases hflight).symm
  have hinstruction : cache.instruction.Rests (fetching (fun a => cache.instruction.inLine a = false)
      fun lower => cache.data.Holds .whole lower memory.contents none) ⟨memory.mapped, taken⟩
      cache.inner := by
    refine ⟨hrests, lower, ⟨htaken.of_role trivial _, fun setIndex way hvalid hdirty => ?_,
      fun _ a hout _ _ => ?_, (fun _ hflight => by cases hflight), hholds⟩, hquiet⟩
    · rw [hclean setIndex way hvalid] at hdirty
      cases hdirty
    · have hout : cache.instruction.inLine a = false := hout
      show (if cache.instruction.inLine a then fetched a else lower a) = lower a
      rw [hout, if_neg Bool.false_ne_true]
  exact fetchAnswered_access h.config h.maintenance hpending hfresh
    (CacheBank.access_rests hinstr haligned hmaps (charges_fetch hshows haligned _) hinstruction)

/-- **A fetch that is repeated.** -/
theorem Fetching.fetch (hinstr : instr.Within memory.mapped) (h : cache.Fetching stale memory addr)
    (haligned : ¬ (BusRequest.fetch32 addr).Misaligned) (hmaps : memory.Maps addr 4) :
    FetchAnswered stale memory addr ((BusRequest.fetch32 addr).call cache) := by
  obtain ⟨hconfig, hmaintenance, hpending, region, fetched, hawaits, hfresh⟩ := h
  exact fetchAnswered_access hconfig hmaintenance hpending hfresh
    (CacheBank.access_waits hinstr haligned hmaps (fun hstore => by cases hstore) hawaits)

theorem Fetching.tick (h : cache.Fetching stale memory addr) :
    (Bus.tick cache).Fetching stale memory addr := by
  obtain ⟨hconfig, hmaintenance, hpending, region, fetched, hawaits, hfresh⟩ := h
  exact ⟨hconfig, hmaintenance, hpending, region, fetched, CacheBank.waits_tick hawaits, hfresh⟩

/-- A request is in progress. -/
def InProgress (stale : Address → Bool) (memory : FlatMemory) (cache : SplitL1Cache instr dat β) :
    BusRequest → Prop
  | .fetch32 addr => cache.Fetching stale memory addr
  | request => cache.AwaitingWith (FetchedAs stale) request memory

theorem inProgress_data {request : BusRequest} (hdata : ∀ addr, request ≠ .fetch32 addr) :
    InProgress stale memory cache request = cache.AwaitingWith (FetchedAs stale) request memory := by
  cases request with
  | fetch32 addr => exact absurd rfl (hdata addr)
  | _ => rfl

theorem InProgress.tick {request : BusRequest} (h : InProgress stale memory cache request) :
    InProgress stale memory (Bus.tick cache) request := by
  cases request with
  | fetch32 addr => exact Fetching.tick h
  | _ => exact AwaitingWith.tick h

/-- No line is dirty that is written through. -/
theorem QuietWith.inDirtyLine {I : ByteMemory → CacheBank instr → Prop} (h : cache.QuietWith I memory)
    (hpolicy : dat.writePolicy = .writeThrough) (a : Address) : cache.data.inDirtyLine a = false := by
  obtain ⟨-, lower, hholds, -⟩ := h.data
  unfold CacheBank.inDirtyLine
  split
  · rename_i way hlookup
    rw [Bool.eq_false_iff]
    intro hdirty
    have hback := (hholds.policy _ way (CacheBank.valid_of_lookupWay hlookup).1 hdirty).1
    rw [hpolicy] at hback
    cases hback
  · rfl

end SplitL1Cache

/-! ## Runs of the client -/

namespace FetchClient

open SplitL1Cache

variable {instr dat : CacheConfig} {β : Type} [BurstBus β] [MemoryContract β]
  {client : FetchClient instr dat β} {request : BusRequest} {op : CacheOp}

/-- The cache shows the flat memory of its client. -/
structure InStep (client : FetchClient instr dat β) : Prop where
  config : instr.Within client.flat.mapped
  quiet : client.waiting = none → client.bus.QuietWith (FetchedAs client.stale) client.flat
  inProgress : ∀ request, client.waiting = some request →
    InProgress client.stale client.flat client.bus request

theorem InStep.tick (h : client.InStep) : (client.step .tick).InStep :=
  ⟨h.config, fun hwaiting => (h.quiet hwaiting).tick,
    fun request hwaiting => (h.inProgress request hwaiting).tick⟩

/-- The client behind a call. -/
theorem inStep_answered (hconfig : instr.Within client.flat.mapped) {stale : Address → Bool}
    (haligned : ¬ request.Misaligned) (hmaps : client.flat.Maps request.addr request.width)
    (hstale : client.staleAt (.request request) = stale)
    (hbusy : ∀ error, (request.call client.bus).1 = .error error → error.isBusy = true ∧
      InProgress stale client.flat (request.call client.bus).2 request)
    (hdone : ∀ value, (request.call client.bus).1 = .ok value →
      (request.call client.bus).2.QuietWith (FetchedAs stale)
        { client.flat with contents := request.effect client.flat.contents }) :
    (client.step (.request request)).InStep := by
  subst hstale
  have hflat := FlatMemory.call_eq haligned hmaps
  unfold step MemoryClient.step
  dsimp only
  rw [hflat]
  generalize request.call client.bus = out at hbusy hdone
  obtain ⟨error | value, bus⟩ := out
  · obtain ⟨hbusy, hprogress⟩ := hbusy error rfl
    have hbusy : busyAnswer (.error error) = true := hbusy
    rw [if_pos hbusy]
    refine ⟨hconfig, (fun hwaiting => by cases hwaiting), ?_⟩
    rintro _ ⟨⟩
    exact hprogress
  · rw [if_neg (show ¬ busyAnswer (.ok value) = true from Bool.false_ne_true)]
    exact ⟨hconfig, fun _ => hdone value rfl, fun _ hwaiting => by cases hwaiting⟩

/-- **A data access of the client.** -/
theorem InStep.data (h : client.InStep) (hpermits : client.Permits (.request request))
    (hdata : ∀ addr, request ≠ .fetch32 addr) :
    client.Right (.request request) ∧ (client.step (.request request)).InStep := by
  obtain ⟨haligned, hmaps, hsame⟩ := hpermits
  have hstale : client.staleAt (.request request) = client.stale := by
    funext a
    unfold staleAt
    split
    · rename_i addr heq _
      cases heq
      exact absurd rfl (hdata addr)
    · rfl
  have hanswered : AnsweredAs (AwaitingWith (FetchedAs client.stale) request)
      (QuietWith (FetchedAs client.stale)) request client.flat (request.call client.bus) := by
    obtain hwaiting | hwaiting := hsame
    · exact (h.quiet hwaiting).call (keptByStores_fetchedAs _) hdata haligned hmaps
    · have hprogress := h.inProgress request hwaiting
      rw [inProgress_data hdata] at hprogress
      exact hprogress.call (keptByStores_fetchedAs _) hdata haligned hmaps
  refine ⟨?_, inStep_answered h.config haligned hmaps hstale (fun error hout => ?_) fun value hout => ?_⟩
  · unfold Right MemoryClient.Agrees
    dsimp only
    rw [FlatMemory.call_eq haligned hmaps]
    generalize request.call client.bus = out at hanswered
    obtain ⟨error | value, bus⟩ := out
    · exact .inl hanswered.1
    · exact .inr (congrArg Except.ok hanswered.1)
  · rw [inProgress_data hdata]
    unfold AnsweredAs at hanswered
    rw [hout] at hanswered
    exact hanswered
  · unfold AnsweredAs at hanswered
    rw [hout] at hanswered
    exact hanswered.2

/-- **A fetch of the client.** -/
theorem InStep.fetch {addr : Address} (h : client.InStep)
    (hpermits : client.Permits (.request (.fetch32 addr))) :
    client.RightIfFresh (.request (.fetch32 addr)) ∧
      (client.step (.request (.fetch32 addr))).InStep := by
  obtain ⟨haligned, hmaps, hsame⟩ := hpermits
  have hanswered : FetchAnswered (client.staleAt (.request (.fetch32 addr))) client.flat addr
      ((BusRequest.fetch32 addr).call client.bus) := by
    unfold staleAt
    obtain hwaiting | hwaiting := hsame
    · rw [hwaiting]
      exact (h.quiet hwaiting).fetch h.config haligned hmaps
    · rw [hwaiting]
      exact Fetching.fetch h.config (h.inProgress _ hwaiting) haligned hmaps
  refine ⟨fun hfresh => ?_, inStep_answered h.config haligned hmaps rfl (fun error hout => ?_)
    fun value hout => ?_⟩
  · unfold Right MemoryClient.Agrees
    dsimp only
    rw [FlatMemory.call_eq haligned hmaps]
    have hfresh := hfresh addr rfl
    generalize (BusRequest.fetch32 addr).call client.bus = out at hanswered
    obtain ⟨error | value, bus⟩ := out
    · exact .inl hanswered.1
    · exact .inr (congrArg Except.ok (hanswered.1 hfresh))
  · unfold FetchAnswered at hanswered
    rw [hout] at hanswered
    exact hanswered
  · unfold FetchAnswered at hanswered
    rw [hout] at hanswered
    exact hanswered.2

theorem InStep.step (h : client.InStep) (hpermits : client.Permits op) :
    client.RightIfFresh op ∧ (client.step op).InStep := by
  cases op with
  | tick => exact ⟨fun _ => trivial, h.tick⟩
  | request request =>
    by_cases hfetch : ∃ addr, request = .fetch32 addr
    · obtain ⟨addr, rfl⟩ := hfetch
      exact h.fetch hpermits
    · obtain ⟨hright, hnext⟩ := h.data hpermits fun addr heq => hfetch ⟨addr, heq⟩
      exact ⟨fun _ => hright, hnext⟩

/-- Nothing is stale behind a data bank that is written through. -/
theorem InStep.staleAt_eq (h : client.InStep) (hpolicy : dat.writePolicy = .writeThrough)
    (hfresh : ∀ a, client.stale a = false) (op : CacheOp) (a : Address) : client.staleAt op a = false := by
  unfold staleAt
  split
  · rename_i hwaiting
    split
    · exact hfresh a
    · exact (h.quiet hwaiting).inDirtyLine hpolicy a
  · exact hfresh a

/-- The client in front of a new cache. -/
def start (instr dat : CacheConfig) (memory : FlatMemory) (inner : β) : FetchClient instr dat β where
  bus := .new inner instr dat
  flat := memory

theorem inStep_start {memory : FlatMemory} {inner : β} (hinstr : instr.Within memory.mapped)
    (hdat : dat.Within memory.mapped) (hinner : Quiet memory inner) :
    (start instr dat memory inner).InStep := by
  have hvalid (setIndex : Fin instr.setCount) (way : Fin instr.associativity)
      (h : ((CacheBank.new instr).line setIndex way).valid = true) : False := by
    rw [CacheBank.valid_new] at h
    cases h
  refine ⟨hinstr, fun _ => ⟨⟨hdat, rfl, rfl, fun setIndex way h => (hvalid setIndex way h).elim,
    memory.contents, ⟨fun setIndex way h => (hvalid setIndex way h).elim,
      fun setIndex way _ h => (hvalid setIndex way h).elim⟩, fun _ _ _ => rfl⟩,
    CacheBank.rests_new dat hinner⟩, fun _ hwaiting => by cases hwaiting⟩

end FetchClient

open FetchClient in
/-- **Every access is answered as by a flat memory**, but for fetches of a word that was dirty in the data
bank when the instruction bank took it; there is no such word where the data bank is written through. -/
theorem fetchMemory_run {β : Type} [BurstBus β] [MemoryContract β] (instr dat : CacheConfig)
    (memory : FlatMemory) (inner : β) (hinner : Quiet memory inner) (hinstr : instr.Within memory.mapped)
    (hdat : dat.Within memory.mapped) (ops : List CacheOp)
    (hops : Along FetchClient.step FetchClient.Permits (start instr dat memory inner) ops) :
    Along FetchClient.step FetchClient.RightIfFresh (start instr dat memory inner) ops ∧
      (dat.writePolicy = .writeThrough →
        Along FetchClient.step FetchClient.Right (start instr dat memory inner) ops) := by
  have hstart := inStep_start hinstr hdat hinner
  refine ⟨Along.of_invariant hstart (fun _ _ h hpermits => h.step hpermits) hops, fun hpolicy => ?_⟩
  refine Along.of_invariant (I := fun client => client.InStep ∧ ∀ a, client.stale a = false)
    ⟨hstart, fun _ => rfl⟩ (fun client op h hpermits => ?_) hops
  have hfresh := h.1.staleAt_eq hpolicy h.2 op
  obtain ⟨hright, hnext⟩ := h.1.step hpermits
  exact ⟨hright fun _ _ _ _ => hfresh _, hnext, hfresh⟩

/-- A fetch whose line a store drops and dirties, the same fetch again, and a load that writes the line back. -/
def fetchingOps : List CacheOp :=
  (List.replicate 4 [.request (.fetch32 0), .tick]).flatten ++
    (List.replicate 5 [.request (.store8 1 7), .tick]).flatten ++
    (List.replicate 4 [.request (.fetch32 0), .tick]).flatten ++ [.request (.load32 8), .tick]

theorem fetchMemory_run_slowRam :
    Along FetchClient.step FetchClient.RightIfFresh
        (FetchClient.start twoWords twoWordLine ((MemoryMap.fresh MemoryMap.slowRam).memoryOf 0)
          (MemoryMap.fresh MemoryMap.slowRam)) fetchingOps ∧
      (twoWordLine.writePolicy = .writeThrough →
        Along FetchClient.step FetchClient.Right
          (FetchClient.start twoWords twoWordLine ((MemoryMap.fresh MemoryMap.slowRam).memoryOf 0)
            (MemoryMap.fresh MemoryMap.slowRam)) fetchingOps) :=
  fetchMemory_run twoWords twoWordLine _ (MemoryMap.fresh MemoryMap.slowRam)
    (show MemoryMap.QuietAs _ _ from ⟨rfl, rfl, rfl, 0, MemoryMap.backs_memoryOf _ 0⟩)
    (within_slowRam rfl) (within_slowRam rfl) fetchingOps (by decide +kernel)

end RvSim
