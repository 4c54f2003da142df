import RvSim.System.BurstMemory
import RvSim.System.Cache.Progress
import RvSim.System.Cache.SplitL1

/-!
# Which requests a cache answers

Over a backing bus that makes progress, a cache answers a request in the end if and only if the bank it
goes to has no operation pending for another line. Nothing but a request for that line drives a pending
operation on, so a request that meets one is never answered.

## Main definitions

* `CacheOp`: what a client does, and leaves undone
* `AnswersInTheEnd`: a request that is repeated with ticks between is answered

## Main results

* `answers_iff_not_stuck`: for both caches, in every reachable state
-/

namespace RvSim

open BurstContract Automata

/-! ## Repeated calls -/

section Repeat

variable {σ : Type} (access : σ → Except CacheError U32 × σ) (tick : σ → σ)

/-- The state behind `n` rounds of a call with a tick behind it. -/
def rounds : σ → Nat → σ
  | s, 0 => s
  | s, n + 1 => rounds (tick (access s).2) n

/-- The call is answered after some rounds, and returns in each of them. -/
def AnswersInTheEnd (s : σ) : Prop :=
  ∃ n, Replied (access (rounds access tick s n)).1 ∧
    ∀ k < n, Returned (access (rounds access tick s k)).1

variable {access tick} {s : σ}

theorem answersInTheEnd_now (h : Replied (access s).1) : AnswersInTheEnd access tick s :=
  ⟨0, h, fun _ hk => absurd hk (Nat.not_lt_zero _)⟩

theorem answersInTheEnd_later (h : Returned (access s).1)
    (hnext : AnswersInTheEnd access tick (tick (access s).2)) : AnswersInTheEnd access tick s := by
  obtain ⟨n, hn, hreturned⟩ := hnext
  refine ⟨n + 1, hn, ?_⟩
  rintro (_ | k) hk
  · exact h
  · exact hreturned k (by omega)

/-- A call that is not answered, and leads back to a state of the same kind, is never answered. -/
theorem not_answersInTheEnd {P : σ → Prop}
    (hstep : ∀ s, P s → ¬ Replied (access s).1 ∧ P (tick (access s).2)) (h : P s) :
    ¬ AnswersInTheEnd access tick s := by
  rintro ⟨n, hn, -⟩
  induction n generalizing s with
  | zero => exact (hstep s h).1 hn
  | succ n ih => exact ih (hstep s h).2 hn

end Repeat

/-- What a client does: it makes a request, once, or lets a cycle pass. -/
inductive CacheOp
  | request (request : BusRequest)
  | tick
  deriving DecidableEq

variable {β : Type} [BurstBus β]

/-! ## The unified cache -/

namespace DirectMappedCache

variable {config : CacheConfig}

/-- The cache behind an operation of the client. -/
def apply (cache : DirectMappedCache config β) : CacheOp → DirectMappedCache config β
  | .request request => (cache.access request).2
  | .tick => cache.tick.2

/-- The cache answers the request in the end. -/
def Answers (cache : DirectMappedCache config β) (request : BusRequest) : Prop :=
  AnswersInTheEnd (·.access request) (·.tick.2) cache

/-- Nothing but the bank is at work. -/
structure Idle (cache : DirectMappedCache config β) : Prop where
  maintenance : cache.maintenance = none
  activeBurst : cache.activeBurst = none

theorem Idle.access {cache : DirectMappedCache config β} (h : cache.Idle) (request : BusRequest) :
    cache.access request = cache.onBank (cache.bank.access cache.inner request) := by
  unfold DirectMappedCache.access through
  rw [h.maintenance]
  rfl

theorem Idle.tick {cache : DirectMappedCache config β} (h : cache.Idle) :
    cache.tick.2 = { cache with inner := Bus.tick cache.inner } := by
  unfold DirectMappedCache.tick advanceActiveBurst
  dsimp only
  rw [h.activeBurst]

/-- The cache answers as its bank does. -/
theorem answers_of_settles {request : BusRequest} {bank : CacheBank config} {inner : β}
    (h : Settles request bank inner) {cache : DirectMappedCache config β} (hidle : cache.Idle)
    (hbank : cache.bank = bank) (hinner : cache.inner = inner) : cache.Answers request := by
  induction h generalizing cache with
  | now h =>
    subst hbank hinner
    refine answersInTheEnd_now ?_
    rw [hidle.access]
    exact h
  | later h _ ih =>
    subst hbank hinner
    refine answersInTheEnd_later ?_ ?_
    · rw [hidle.access]
      exact h
    · have hafter : (cache.onBank (cache.bank.access cache.inner request)).2.Idle :=
        ⟨hidle.maintenance, hidle.activeBurst⟩
      rw [hidle.access, hafter.tick]
      exact ih ⟨hidle.maintenance, hidle.activeBurst⟩ rfl rfl

theorem not_answers_of_stuck {request : BusRequest} {cache : DirectMappedCache config β}
    (hidle : cache.Idle) (hstuck : cache.bank.Stuck request) : ¬ cache.Answers request := by
  refine not_answersInTheEnd (P := fun cache : DirectMappedCache config β =>
    cache.Idle ∧ cache.bank.Stuck request) (fun cache h => ?_) ⟨hidle, hstuck⟩
  obtain ⟨hidle, hstuck⟩ := h
  rw [hidle.access, access_of_stuck hstuck]
  refine ⟨fun h => (by cases h), ?_⟩
  have hafter : (cache.onBank (α := U32) (.error (.bus (.busy 1)), cache.bank, cache.inner)).2.Idle :=
    ⟨hidle.maintenance, hidle.activeBurst⟩
  rw [hafter.tick]
  exact ⟨⟨hidle.maintenance, hidle.activeBurst⟩, hstuck⟩

variable [BurstContract β]

/-- The invariant of the cache under the operations of a client. -/
structure Served (cache : DirectMappedCache config β) : Prop where
  idle : cache.Idle
  bank : BankServes [] cache.bank cache.inner

theorem served_new (inner : β) : (DirectMappedCache.new inner config).Served :=
  ⟨⟨rfl, rfl⟩, bankServes_of_pending_none rfl fun _ hp => absurd hp List.not_mem_nil⟩

theorem Served.apply {cache : DirectMappedCache config β} (h : cache.Served) (op : CacheOp) :
    (cache.apply op).Served := by
  cases op with
  | request request =>
    have hends := bankServes_access h.bank request
    have hbank : BankServes [] (cache.bank.access cache.inner request).2.1
        (cache.bank.access cache.inner request).2.2 := hends.always
    show (cache.access request).2.Served
    rw [h.idle.access]
    exact ⟨⟨h.idle.maintenance, h.idle.activeBurst⟩, hbank⟩
  | tick =>
    show cache.tick.2.Served
    rw [h.idle.tick]
    exact ⟨⟨h.idle.maintenance, h.idle.activeBurst⟩, h.bank.congr (active_tick _)⟩

theorem served_run (inner : β) (ops : List CacheOp) :
    (run apply (DirectMappedCache.new inner config) ops).Served := by
  refine Along.run_invariant (served_new inner) (fun cache op h _ => h.apply op)
    (Along.trivial_of _ ops)

theorem Served.answers_iff [MakesProgress β] {cache : DirectMappedCache config β} (h : cache.Served)
    (request : BusRequest) : cache.Answers request ↔ ¬ cache.bank.Stuck request := by
  constructor
  · exact fun hanswers hstuck => not_answers_of_stuck h.idle hstuck hanswers
  · exact fun hstuck => answers_of_settles (settles_of_not_stuck h.bank hstuck) h.idle rfl rfl

end DirectMappedCache

/-! ## The split cache -/

namespace CacheBank

variable {config : CacheConfig}

/-- The bursts of the pending operation, with their requests. -/
def bursts (bank : CacheBank config) : List (U64 × BurstRequest) :=
  match bank.pending with
  | none => []
  | some ⟨some writeBack, _⟩ => (writeBack.burstId.map (·, writeBack.request)).toList
  | some ⟨none, refill⟩ => (refill.burstId.map (·, refill.request)).toList

theorem bursts_eq_nil {bank : CacheBank config} (h : bank.pending = none) : bank.bursts = [] := by
  rw [bursts, h]

theorem bursts_congr {bank bank' : CacheBank config} (h : bank'.pending = bank.pending) :
    bank'.bursts = bank.bursts := by rw [bursts, bursts, h]

end CacheBank

section Share

variable [BurstContract β] {config other : CacheConfig} {rest : List (U64 × BurstRequest)}

theorem BankServes.serves {bank : CacheBank config} {inner : β} (h : BankServes rest bank inner)
    {p : U64 × BurstRequest} (hp : p ∈ bank.bursts) : Serves rest p.1 p.2 inner := by
  unfold CacheBank.bursts at hp
  split at hp
  · cases hp
  · rename_i writeBack refill hpending
    obtain ⟨-, -, id, hid, hserves⟩ := h.pending _ hpending
    rw [hid] at hp
    obtain rfl := List.mem_singleton.1 hp
    exact hserves
  · rename_i refill hpending
    obtain ⟨-, id, hid, hserves⟩ := h.pending _ hpending
    dsimp only at hid
    rw [hid] at hp
    obtain rfl := List.mem_singleton.1 hp
    exact hserves

/-- Two banks on one bus: after a call of the first, the second has its burst as before. -/
theorem BankServes.swap {bank : CacheBank config} {bank' : CacheBank other} {inner inner' : β}
    (h : BankServes bank'.bursts bank inner') (h' : BankServes rest bank' inner) :
    BankServes bank.bursts bank' inner' := by
  have hserves {p : U64 × BurstRequest} (hp : p ∈ bank'.bursts) :
      Serves bank.bursts p.1 p.2 inner' := by
    refine ⟨fun q hq => (h.serves hq).own, h.others p hp, ?_⟩
    rintro q hq hne
    exact (h.serves hq).ne p hp hne.symm
  refine ⟨fun q hq => (h.serves hq).own, fun pending hpending => ?_⟩
  obtain ⟨hplaced, hburst⟩ := h'.pending pending hpending
  refine ⟨hplaced, ?_⟩
  obtain ⟨_ | writeBack, refill⟩ := pending
  · obtain ⟨id, hid, -⟩ := hburst
    have hmem : (id, refill.request) ∈ bank'.bursts := by
      rw [CacheBank.bursts, hpending]
      dsimp only at hid ⊢
      rw [hid]
      exact List.mem_singleton_self _
    exact ⟨id, hid, hserves hmem⟩
  · obtain ⟨hrefill, id, hid, -⟩ := hburst
    have hmem : (id, writeBack.request) ∈ bank'.bursts := by
      rw [CacheBank.bursts, hpending]
      dsimp only
      rw [hid]
      exact List.mem_singleton_self _
    exact ⟨hrefill, id, hid, hserves hmem⟩

theorem BankServes.mono {rest' : List (U64 × BurstRequest)} {bank : CacheBank config} {inner : β}
    (h : BankServes rest bank inner) (hsub : rest' ⊆ rest) : BankServes rest' bank inner := by
  have hserves {id : U64} {request : BurstRequest} (hs : Serves rest id request inner) :
      Serves rest' id request inner :=
    ⟨fun p hp => hs.others p (hsub hp), hs.own, fun p hp => hs.ne p (hsub hp)⟩
  refine ⟨fun p hp => h.others p (hsub hp), fun pending hpending => ?_⟩
  obtain ⟨hplaced, hburst⟩ := h.pending pending hpending
  refine ⟨hplaced, ?_⟩
  split at hburst
  · obtain ⟨hrefill, id, hid, hs⟩ := hburst
    exact ⟨hrefill, id, hid, hserves hs⟩
  · obtain ⟨id, hid, hs⟩ := hburst
    exact ⟨id, hid, hserves hs⟩

/-- A bank in which a line is invalidated. -/
theorem BankServes.invalidateLine {bank : CacheBank config} {inner : β} (h : BankServes rest bank inner)
    (addr : Address) : BankServes rest (bank.invalidateLine addr) inner := by
  refine ⟨h.others, fun pending hpending => ?_⟩
  rw [CacheBank.pending_invalidateLine] at hpending
  split at hpending
  · cases hpending
  · obtain ⟨⟨hplaced, hvacant⟩, hburst⟩ := h.pending pending hpending
    exact ⟨⟨hplaced, bank.valid_invalidateLineBase _ hvacant⟩, hburst⟩

omit [BurstBus β] [BurstContract β] in
theorem bursts_invalidateLine_subset (bank : CacheBank config) (addr : Address) :
    (bank.invalidateLine addr).bursts ⊆ bank.bursts := by
  by_cases hmatch : config.cachesLineContaining addr = true ∧
      bank.pending.any (·.matchesLine (config.decode addr)) = true
  · have hpending : (bank.invalidateLine addr).pending = none := by
      rw [CacheBank.pending_invalidateLine, if_pos hmatch]
    rw [CacheBank.bursts_eq_nil hpending]
    exact List.nil_subset _
  · have hpending : (bank.invalidateLine addr).pending = bank.pending := by
      rw [CacheBank.pending_invalidateLine, if_neg hmatch]
    rw [CacheBank.bursts_congr hpending]
    exact List.Subset.refl _

end Share

namespace SplitL1Cache

variable {instr dat : CacheConfig}

/-- The cache behind an operation of the client. -/
def apply (cache : SplitL1Cache instr dat β) : CacheOp → SplitL1Cache instr dat β
  | .request request => (cache.access request).2
  | .tick => cache.tick

/-- The cache answers the request in the end. -/
def Answers (cache : SplitL1Cache instr dat β) (request : BusRequest) : Prop :=
  AnswersInTheEnd (·.access request) (·.tick) cache

/-- The bank the request goes to has an operation pending for another line. -/
def Stuck (cache : SplitL1Cache instr dat β) (request : BusRequest) : Prop :=
  match request with
  | .fetch32 _ => cache.instruction.Stuck request
  | _ => cache.data.Stuck request

/-- A store that is done invalidates the line in the instruction bank. -/
def behindStore (request : BusRequest)
    (out : Except CacheError U32 × SplitL1Cache instr dat β) :
    Except CacheError U32 × SplitL1Cache instr dat β :=
  match request.storeOp with
  | none => out
  | some op => onOk out fun value cache =>
    (.ok value, { cache with instruction := cache.instruction.invalidateLine op.addr })

theorem access_fetch {cache : SplitL1Cache instr dat β} (h : cache.maintenance = none) (addr : Address) :
    cache.access (.fetch32 addr) =
      cache.onInstruction (cache.instruction.access cache.inner (.fetch32 addr)) := by
  show cache.unlessMaintained _ = _
  unfold unlessMaintained
  rw [h]
  rfl

/-- Every other request goes to the data bank. -/
theorem access_data {cache : SplitL1Cache instr dat β} (h : cache.maintenance = none)
    {request : BusRequest} (hdata : ∀ addr, request ≠ .fetch32 addr) :
    cache.access request =
      behindStore request (cache.onData (cache.data.access cache.inner request)) := by
  have hload {α : Type} (call : CacheBank dat → β → Except CacheError α × CacheBank dat × β) :
      cache.load call = cache.onData (call cache.data cache.inner) := by
    unfold load unlessMaintained
    rw [h]
    rfl
  have hstore {addr : Address} (call : CacheBank dat → β → Except CacheError Unit × CacheBank dat × β) :
      mapAnswer (fun _ => (0 : U32)) (cache.store addr call) =
        onOk (cache.onData (mapAnswer (fun _ => (0 : U32)) (call cache.data cache.inner)))
          fun value cache =>
            (.ok value, { cache with instruction := cache.instruction.invalidateLine addr }) := by
    unfold store unlessMaintained
    rw [h]
    show mapAnswer _ (onOk (cache.onData (call cache.data cache.inner)) _) = _
    rcases call cache.data cache.inner with ⟨_ | _, _⟩ <;> rfl
  cases request with
  | fetch32 addr => exact absurd rfl (hdata addr)
  | load8 addr => exact congrArg (mapAnswer _) (hload _)
  | load16 addr => exact congrArg (mapAnswer _) (hload _)
  | load32 addr => exact hload (·.load32 · addr)
  | store8 addr value => exact hstore _
  | store16 addr value => exact hstore _
  | store32 addr value => exact hstore _

omit [BurstBus β] in
/-- A request that is not answered with a value leaves the instruction bank alone. -/
theorem behindStore_error {request : BusRequest} {error : CacheError}
    (cache : SplitL1Cache instr dat β) :
    behindStore request (.error error, cache) = (.error error, cache) := by
  unfold behindStore
  split <;> rfl

omit [BurstBus β] in
theorem behindStore_answer (request : BusRequest)
    (out : Except CacheError U32 × SplitL1Cache instr dat β) : (behindStore request out).1 = out.1 := by
  unfold behindStore
  split
  · rfl
  · rcases out with ⟨_ | _, _⟩ <;> rfl

/-- A fetch is answered as the instruction bank answers it. -/
theorem answers_fetch_of_settles {addr : Address} {bank : CacheBank instr} {inner : β}
    (h : Settles (.fetch32 addr) bank inner) {cache : SplitL1Cache instr dat β}
    (hidle : cache.maintenance = none) (hbank : cache.instruction = bank) (hinner : cache.inner = inner) :
    cache.Answers (.fetch32 addr) := by
  induction h generalizing cache with
  | now h =>
    subst hbank hinner
    refine answersInTheEnd_now ?_
    rw [access_fetch hidle]
    exact h
  | later h _ ih =>
    subst hbank hinner
    refine answersInTheEnd_later ?_ ?_
    · rw [access_fetch hidle]
      exact h
    · rw [access_fetch hidle]
      exact ih hidle rfl rfl

/-- Every other request is answered as the data bank answers it. -/
theorem answers_data_of_settles {request : BusRequest} (hdata : ∀ addr, request ≠ .fetch32 addr)
    {bank : CacheBank dat} {inner : β} (h : Settles request bank inner)
    {cache : SplitL1Cache instr dat β} (hidle : cache.maintenance = none) (hbank : cache.data = bank)
    (hinner : cache.inner = inner) : cache.Answers request := by
  induction h generalizing cache with
  | now h =>
    subst hbank hinner
    refine answersInTheEnd_now ?_
    rw [access_data hidle hdata, behindStore_answer]
    exact h
  | later h hnext ih =>
    subst hbank hinner
    rcases hout : cache.data.access cache.inner request with ⟨error | value, data, inner⟩
    · refine answersInTheEnd_later ?_ ?_
      · rw [access_data hidle hdata, behindStore_answer]
        exact h
      · rw [access_data hidle hdata, hout]
        show AnswersInTheEnd _ _ (behindStore request (.error error, _)).2.tick
        rw [behindStore_error]
        have hdataAfter : data = (cache.data.access cache.inner request).2.1 := by rw [hout]
        have hinnerAfter : Bus.tick inner = Bus.tick (cache.data.access cache.inner request).2.2 := by
          rw [hout]
        exact ih hidle hdataAfter hinnerAfter
    · refine answersInTheEnd_now ?_
      rw [access_data hidle hdata, behindStore_answer]
      show Replied (cache.data.access cache.inner request).1
      rw [hout]
      trivial

theorem not_answers_of_stuck {request : BusRequest} {cache : SplitL1Cache instr dat β}
    (hidle : cache.maintenance = none) (hstuck : cache.Stuck request) : ¬ cache.Answers request := by
  refine not_answersInTheEnd (P := fun cache : SplitL1Cache instr dat β =>
    cache.maintenance = none ∧ cache.Stuck request) (fun cache h => ?_) ⟨hidle, hstuck⟩
  obtain ⟨hidle, hstuck⟩ := h
  by_cases hfetch : ∃ addr, request = .fetch32 addr
  · obtain ⟨addr, rfl⟩ := hfetch
    rw [access_fetch hidle, access_of_stuck hstuck]
    exact ⟨fun h => (by cases h), hidle, hstuck⟩
  · have hdata : ∀ addr, request ≠ .fetch32 addr := fun addr h => hfetch ⟨addr, h⟩
    have hbank : cache.data.Stuck request := by
      cases request with
      | fetch32 addr => exact absurd rfl (hdata addr)
      | _ => exact hstuck
    have haccess : cache.access request = (.error (.bus (.busy 1)), cache) := by
      rw [access_data hidle hdata, access_of_stuck hbank]
      exact behindStore_error cache
    rw [haccess]
    refine ⟨fun h => (by cases h), hidle, ?_⟩
    cases request with
    | fetch32 addr => exact absurd rfl (hdata addr)
    | _ => exact hstuck

variable [BurstContract β]

/-- The invariant of the cache under the operations of a client. -/
structure Served (cache : SplitL1Cache instr dat β) : Prop where
  idle : cache.maintenance = none
  instruction : BankServes cache.data.bursts cache.instruction cache.inner
  data : BankServes cache.instruction.bursts cache.data cache.inner

theorem served_new (inner : β) : (SplitL1Cache.new inner instr dat).Served := by
  refine ⟨rfl, ?_, ?_⟩
  · exact bankServes_of_pending_none rfl fun _ hp => absurd hp List.not_mem_nil
  · exact bankServes_of_pending_none rfl fun _ hp => absurd hp List.not_mem_nil

theorem Served.behindStore {cache : SplitL1Cache instr dat β} (h : cache.Served)
    (request : BusRequest) (answer : Except CacheError U32) :
    (behindStore request (answer, cache)).2.Served := by
  unfold SplitL1Cache.behindStore
  split
  · exact h
  · cases answer with
    | error error => exact h
    | ok value =>
      exact ⟨h.idle, h.instruction.invalidateLine _,
        h.data.mono (bursts_invalidateLine_subset _ _)⟩

theorem Served.apply {cache : SplitL1Cache instr dat β} (h : cache.Served) (op : CacheOp) :
    (cache.apply op).Served := by
  cases op with
  | request request =>
    show (cache.access request).2.Served
    by_cases hfetch : ∃ addr, request = .fetch32 addr
    · obtain ⟨addr, rfl⟩ := hfetch
      have hbank := (bankServes_access h.instruction (.fetch32 addr)).always
      rw [access_fetch h.idle]
      exact ⟨h.idle, hbank, hbank.swap h.data⟩
    · have hbank := (bankServes_access h.data request).always
      have hserved : ({ cache with
          data := (cache.data.access cache.inner request).2.1,
          inner := (cache.data.access cache.inner request).2.2 } : SplitL1Cache instr dat β).Served :=
        ⟨h.idle, hbank.swap h.instruction, hbank⟩
      rw [access_data h.idle fun addr h => hfetch ⟨addr, h⟩]
      exact hserved.behindStore request _
  | tick => exact ⟨h.idle, h.instruction.congr (active_tick _), h.data.congr (active_tick _)⟩

theorem served_run (inner : β) (ops : List CacheOp) :
    (run apply (SplitL1Cache.new inner instr dat) ops).Served :=
  Along.run_invariant (served_new inner) (fun _ op h _ => h.apply op) (Along.trivial_of _ ops)

theorem Served.answers_iff [MakesProgress β] {cache : SplitL1Cache instr dat β} (h : cache.Served)
    (request : BusRequest) : cache.Answers request ↔ ¬ cache.Stuck request := by
  refine ⟨fun hanswers hstuck => not_answers_of_stuck h.idle hstuck hanswers, fun hstuck => ?_⟩
  cases request with
  | fetch32 addr =>
    exact answers_fetch_of_settles (settles_of_not_stuck h.instruction hstuck) h.idle rfl rfl
  | _ =>
    exact answers_data_of_settles (fun _ h => by cases h) (settles_of_not_stuck h.data hstuck) h.idle rfl rfl

end SplitL1Cache

/-- **Over a bus that makes progress, a cache answers exactly the requests that are not stuck**, in every
state that requests and ticks lead to. -/
theorem answers_iff_not_stuck [BurstContract β] [MakesProgress β] (inner : β) (ops : List CacheOp)
    (request : BusRequest) :
    (∀ config, (run DirectMappedCache.apply (.new inner config) ops).Answers request ↔
      ¬ (run DirectMappedCache.apply (.new inner config) ops).bank.Stuck request) ∧
    ∀ instr dat, (run SplitL1Cache.apply (.new inner instr dat) ops).Answers request ↔
      ¬ (run SplitL1Cache.apply (.new inner instr dat) ops).Stuck request :=
  ⟨fun _ => (DirectMappedCache.served_run inner ops).answers_iff request,
    fun _ _ => (SplitL1Cache.served_run inner ops).answers_iff request⟩

/-- A memory that is all zero. -/
def zeroMemory : BurstMemory := { memory := fun _ => 0 }

/-- A fetch that is left, and made again behind another request. -/
theorem answers_iff_not_stuck_repeated :
    (run SplitL1Cache.apply (.new zeroMemory twoWords twoWords)
      [.request (.fetch32 0), .request (.load8 4), .tick]).Answers (.fetch32 0) := by
  have h := (answers_iff_not_stuck zeroMemory [.request (.fetch32 0), .request (.load8 4), .tick]
    (.fetch32 0)).2 twoWords twoWords
  refine h.2 ?_
  rintro ⟨-, -, pending, hpending, hne⟩
  have hline : (run SplitL1Cache.apply (.new zeroMemory twoWords twoWords)
      [.request (.fetch32 0), .request (.load8 4), .tick]).instruction.pending.all
        (·.refill.lineBase == twoWords.lineBase 0) = true := by decide +kernel
  exact hne (eq_of_beq ((Option.all_eq_true _ _).1 hline pending hpending))

/-- **A fetch that is left blocks every other line**: nothing but a fetch of its line ends the refill. -/
theorem refill_blocks_fetch :
    ¬ (run SplitL1Cache.apply (.new zeroMemory twoWords twoWords) [.request (.fetch32 0)]).Answers
      (.fetch32 4) := by
  refine SplitL1Cache.not_answers_of_stuck rfl ⟨?_, ?_, _, rfl, ?_⟩
  · decide
  · decide
  · decide

end RvSim
