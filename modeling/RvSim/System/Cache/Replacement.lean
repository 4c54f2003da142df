import RvSim.Automata.Recency
import RvSim.Automata.Run
import RvSim.Devices.Ram
import RvSim.System.Cache.LineOutcome
import RvSim.System.Cache.Outstanding

/-!
# Which line a bank evicts

A bank stamps a line with the epoch of its last use. Beside a bank we keep the history of all accesses
it has completed. The stamps give back the order of the history, so that a bank with the policy
`leastRecentlyUsed` evicts the line of a full set whose last access is the oldest.

## Main definitions

* `CacheBank.completed`: the accesses a request completes, its own and that of its refill
* `BankCall`, `UsedBank`: the calls of a bank, and a bank with its history
* `CacheBank.Stamped`: the stamps of a bank are those of a history
* `CacheBank.StampsDistinct`, `CacheBank.EvictsOldest`

## Main results

* `CacheBank.Stamped.uses`, `CacheBank.Stamped.access`: a use is the latest access of the history
* `CacheBank.stamped_run`: the stamps of a bank in a run
* `CacheBank.evictsOldest_run`: the oldest line of a full set is evicted
-/

namespace RvSim

open Automata

/-- A line of a cache: its set and its tag. -/
abbrev CacheConfig.Line (config : CacheConfig) : Type := Fin config.setCount × U64

/-- The line of an address. -/
def CacheConfig.lineOf (config : CacheConfig) (addr : Address) : config.Line :=
  ((config.decode addr).setIndex, (config.decode addr).tag)

/-! ## The history of a bank -/

namespace CacheBank

variable {config : CacheConfig}

/-- The line in a way. -/
def lineIn (bank : CacheBank config) (setIndex : Fin config.setCount)
    (way : Fin config.associativity) : config.Line :=
  (setIndex, (bank.line setIndex way).tag)

/-- The bank has the line of an address. -/
def hasLine (bank : CacheBank config) (addr : Address) : Bool :=
  (bank.lookupWay (config.decode addr)).isSome

/-- The accesses that a request completes, the latest one first: the request itself, if it is done on a
line of the bank, and the refill of its line. -/
def completed {β : Type} [BurstBus β] (bank : CacheBank config) (inner : β) (request : BusRequest) :
    List config.Line :=
  let out := bank.access inner request
  let line := config.lineOf request.wordAddr
  let has := out.2.1.hasLine request.wordAddr
  (if config.covers request && out.1.isOk && has then [line] else []) ++
    (if !bank.hasLine request.wordAddr && has then [line] else [])

end CacheBank

/-- A call of a bank: a request, or what maintenance does. The backing bus of each call is as the bank
finds it. -/
inductive BankCall (config : CacheConfig) (β : Type)
  | access (inner : β) (request : BusRequest)
  | continueWriteBackRange (inner : β) (pending : PendingBankWriteBack config)
  | invalidateLineBase (lineBase : Address)

/-- A bank with the accesses it has completed, the latest one first. -/
structure UsedBank (config : CacheConfig) where
  bank : CacheBank config := .new config
  history : List config.Line := []

/-- The bank behind a call. -/
def UsedBank.next {config : CacheConfig} {β : Type} [BurstBus β] (used : UsedBank config) :
    BankCall config β → UsedBank config
  | .access inner request =>
    ⟨(used.bank.access inner request).2.1, used.bank.completed inner request ++ used.history⟩
  | .continueWriteBackRange inner pending =>
    { used with bank := (used.bank.continueWriteBackRange inner pending).2.1 }
  | .invalidateLineBase lineBase => { used with bank := used.bank.invalidateLineBase lineBase }

namespace CacheBank

variable {config : CacheConfig}

/-! ## Stamps -/

theorem hasLine_iff {bank : CacheBank config} {addr : Address} :
    bank.hasLine addr = true ↔
      ∃ way, (bank.line (config.decode addr).setIndex way).holds (config.decode addr).tag = true := by
  unfold hasLine
  rw [Option.isSome_iff_exists]
  exact ⟨fun ⟨way, hway⟩ => ⟨way, bank.holds_of_lookupWay hway⟩,
    fun ⟨_, hholds⟩ => bank.exists_lookupWay hholds⟩

/-- The stamps of a bank are those of a history. -/
structure Stamped (bank : CacheBank config) (history : List config.Line) : Prop where
  epoch : bank.accessEpoch = BitVec.ofNat 64 history.length
  used : ∀ setIndex way, (bank.line setIndex way).valid = true → bank.lineIn setIndex way ∈ history
  stamp : ∀ setIndex way, (bank.line setIndex way).valid = true →
    (bank.line setIndex way).lastUsed = BitVec.ofNat 64 (lastUse history (bank.lineIn setIndex way))
  unique : ∀ setIndex way way', (bank.line setIndex way).valid = true →
    (bank.line setIndex way').holds (bank.line setIndex way).tag = true → way' = way
  placed : ∀ pending, bank.pending = some pending → Placed bank pending.refill
  missing : ∀ pending, bank.pending = some pending → ∀ way,
    (bank.line pending.refill.setIndex way).holds pending.refill.tag = false

/-- The lines of `bank'` are lines of `bank`, with their stamps. -/
structure Below (bank bank' : CacheBank config) : Prop where
  epoch : bank'.accessEpoch = bank.accessEpoch
  valid : ∀ setIndex way, (bank'.line setIndex way).valid = true → (bank.line setIndex way).valid = true
  tag : ∀ setIndex way, (bank'.line setIndex way).tag = (bank.line setIndex way).tag
  lastUsed : ∀ setIndex way, (bank'.line setIndex way).lastUsed = (bank.line setIndex way).lastUsed

theorem Below.trans {bank bank' bank'' : CacheBank config} (h : Below bank bank')
    (h' : Below bank' bank'') : Below bank bank'' where
  epoch := h'.epoch.trans h.epoch
  valid _ _ hvalid := h.valid _ _ (h'.valid _ _ hvalid)
  tag _ _ := (h'.tag _ _).trans (h.tag _ _)
  lastUsed _ _ := (h'.lastUsed _ _).trans (h.lastUsed _ _)

theorem below_pending (bank : CacheBank config) (pending : Option (PendingLineOp config)) :
    Below bank { bank with pending } :=
  ⟨rfl, fun _ _ hvalid => hvalid, fun _ _ => rfl, fun _ _ => rfl⟩

/-- A line is written that keeps its tag and its stamp. -/
theorem below_setLine (bank : CacheBank config) {setIndex : Fin config.setCount}
    {way : Fin config.associativity} {line : CacheLine config.lineWords}
    (hvalid : line.valid = true → (bank.line setIndex way).valid = true)
    (htag : line.tag = (bank.line setIndex way).tag)
    (hlastUsed : line.lastUsed = (bank.line setIndex way).lastUsed) :
    Below bank (bank.setLine setIndex way line) := by
  have hline (setIndex' : Fin config.setCount) (way' : Fin config.associativity) :=
    bank.line_setLine setIndex setIndex' way way' line
  refine ⟨rfl, ?_, ?_, ?_⟩
  all_goals
    intro setIndex' way'
    rw [hline]
    split
    · rename_i h
      rw [h.1, h.2]
      assumption
    · first | exact id | rfl

variable {bank bank' : CacheBank config} {history : List config.Line}

theorem Below.holds (h : Below bank bank') {setIndex : Fin config.setCount}
    {way : Fin config.associativity} {tag : U64} (hholds : (bank'.line setIndex way).holds tag = true) :
    (bank.line setIndex way).holds tag = true := by
  rw [holds_iff] at hholds ⊢
  exact ⟨h.valid _ _ hholds.1, (h.tag _ _).symm.trans hholds.2⟩

theorem Below.hasLine (h : Below bank bank') {addr : Address} (hhas : bank'.hasLine addr = true) :
    bank.hasLine addr = true := by
  rw [hasLine_iff] at hhas ⊢
  obtain ⟨way, hway⟩ := hhas
  exact ⟨way, h.holds hway⟩

/-- Lines may leave the bank. -/
theorem Stamped.below (h : Stamped bank history) (hbelow : Below bank bank')
    (hplaced : ∀ pending, bank'.pending = some pending → Placed bank' pending.refill)
    (hmissing : ∀ pending, bank'.pending = some pending → ∀ way,
      (bank'.line pending.refill.setIndex way).holds pending.refill.tag = false) :
    Stamped bank' history := by
  have hlineIn (setIndex : Fin config.setCount) (way : Fin config.associativity) :
      bank'.lineIn setIndex way = bank.lineIn setIndex way := by
    unfold lineIn
    rw [hbelow.tag]
  constructor
  · rw [hbelow.epoch]
    exact h.epoch
  · intro setIndex way hvalid
    rw [hlineIn]
    exact h.used _ _ (hbelow.valid _ _ hvalid)
  · intro setIndex way hvalid
    rw [hbelow.lastUsed, hlineIn]
    exact h.stamp _ _ (hbelow.valid _ _ hvalid)
  · intro setIndex way way' hvalid hholds
    rw [hbelow.tag] at hholds
    exact h.unique _ _ _ (hbelow.valid _ _ hvalid) (hbelow.holds hholds)
  · exact hplaced
  · exact hmissing

/-- Lines may leave the bank while its pending operation goes on. -/
theorem Stamped.waits (h : Stamped bank history) (hbelow : Below bank bank')
    (hpending : ∀ after, bank'.pending = some after → ∃ pending burstId,
      bank.pending = some pending ∧ after.refill = { pending.refill with burstId }) :
    Stamped bank' history := by
  refine h.below hbelow ?_ ?_
  · intro after hafter
    obtain ⟨pending, burstId, hsome, hrefill⟩ := hpending after hafter
    obtain ⟨hline, hvacant⟩ := h.placed pending hsome
    rw [hrefill]
    refine ⟨hline, Bool.eq_false_iff.2 fun hvalid => ?_⟩
    rw [hbelow.valid _ _ hvalid] at hvacant
    cases hvacant
  · intro after hafter way
    obtain ⟨pending, burstId, hsome, hrefill⟩ := hpending after hafter
    rw [hrefill, Bool.eq_false_iff]
    intro hholds
    have hmissing := h.missing pending hsome way
    rw [hbelow.holds hholds] at hmissing
    cases hmissing

/-- **A use of a way** is the latest access of the history. -/
theorem Stamped.uses (h : Stamped bank history) (hpending : bank.pending = none)
    {setIndex : Fin config.setCount} {way : Fin config.associativity} {tag : U64}
    (huses : Uses bank bank' setIndex way tag)
    (hother : ∀ way', way' ≠ way → (bank.line setIndex way').holds tag = false) :
    Stamped bank' ((setIndex, tag) :: history) := by
  obtain ⟨hvalid, htag⟩ := holds_iff.1 huses.holds
  have hnone : bank'.pending = none := huses.pending.trans hpending
  have hepoch : bank.accessEpoch + 1 = BitVec.ofNat 64 (history.length + 1) := by
    rw [h.epoch, BitVec.ofNat_add]
    rfl
  -- every other way has a line of its own
  have hline {setIndex' : Fin config.setCount} {way' : Fin config.associativity}
      (hne : ¬ (setIndex' = setIndex ∧ way' = way)) (hvalid' : (bank.line setIndex' way').valid = true) :
      bank.lineIn setIndex' way' ≠ (setIndex, tag) := by
    rintro heq
    obtain ⟨hset, htag'⟩ := Prod.mk.inj heq
    subst hset
    have hholds := hother way' fun hway => hne ⟨rfl, hway⟩
    rw [holds_iff.2 ⟨hvalid', htag'⟩] at hholds
    cases hholds
  constructor
  · rw [huses.epoch, hepoch]
    rfl
  · intro setIndex' way' hvalid'
    by_cases heq : setIndex' = setIndex ∧ way' = way
    · rw [heq.1, heq.2, lineIn, htag]
      exact List.mem_cons_self
    · unfold lineIn
      rw [huses.others _ _ heq] at hvalid' ⊢
      exact List.mem_cons_of_mem _ (h.used _ _ hvalid')
  · intro setIndex' way' hvalid'
    by_cases heq : setIndex' = setIndex ∧ way' = way
    · rw [heq.1, heq.2, lineIn, htag, huses.stamp, lastUse_cons_self, hepoch]
    · unfold lineIn
      rw [huses.others _ _ heq] at hvalid' ⊢
      rw [h.stamp _ _ hvalid']
      exact congrArg (BitVec.ofNat 64) (lastUse_cons_of_ne (hline heq hvalid') history).symm
  · intro setIndex' way₁ way₂ hvalid₁ hholds
    by_cases heq₁ : setIndex' = setIndex ∧ way₁ = way
    · obtain ⟨rfl, rfl⟩ := heq₁
      by_contra hne
      rw [htag, huses.others _ _ fun heq => hne heq.2, hother _ hne] at hholds
      cases hholds
    · by_cases heq₂ : setIndex' = setIndex ∧ way₂ = way
      · obtain ⟨rfl, rfl⟩ := heq₂
        rw [huses.others _ _ heq₁] at hvalid₁ hholds
        rw [holds_iff] at hholds
        exact (hline heq₁ hvalid₁ (congrArg (Prod.mk _) (hholds.2.symm.trans htag))).elim
      · rw [huses.others _ _ heq₁] at hvalid₁ hholds
        rw [huses.others _ _ heq₂] at hholds
        exact h.unique _ _ _ hvalid₁ hholds
  · intro pending hsome
    rw [hnone] at hsome
    cases hsome
  · intro pending hsome
    rw [hnone] at hsome
    cases hsome

/-! ## Requests -/

theorem below_startPending (bank : CacheBank config) (decoded : DecodedAddress config)
    (kind : RefillKind) : Below bank (bank.startPending decoded kind) := by
  refine ⟨rfl, ?_, ?_, ?_⟩
  all_goals
    intro setIndex way
    rw [line_startPending]
    split
    · first | exact fun hvalid => (Bool.false_ne_true hvalid).elim | rfl
    · first | exact id | rfl

/-- A miss starts the refill of a line that the bank does not have. -/
theorem Stamped.startPending (h : Stamped bank history) {addr : Address} (kind : RefillKind)
    (hlookup : bank.lookupWay (config.decode addr) = none) :
    Stamped (bank.startPending (config.decode addr) kind) history := by
  refine h.below (below_startPending bank _ kind) ?_ ?_
  · intro pending hpending
    exact placed_startPending bank addr kind hpending
  · rintro _ ⟨⟩ way
    rw [Bool.eq_false_iff]
    intro hholds
    have hmissing := (bank.lookupWay_eq_none.1 hlookup) way
    rw [(below_startPending bank _ kind).holds hholds] at hmissing
    cases hmissing

theorem Fills.below {addr : Address} (hfills : Fills bank (config.decode addr) bank') :
    Below bank bank' := by
  cases hfills with
  | resumed => exact below_pending bank bank.pending
  | started kind => exact below_startPending bank _ kind

theorem Stamped.fills (h : Stamped bank history) {addr : Address}
    (hfills : Fills bank (config.decode addr) bank') : Stamped bank' history := by
  cases hfills with
  | resumed => exact h
  | started kind _ hlookup => exact h.startPending kind hlookup

theorem Waits.below (h : Waits bank bank') : Below bank bank' := by
  obtain ⟨pending, rfl, -⟩ := h
  exact below_pending bank pending

/-- The bank behind a refill. -/
theorem Stamped.filled (h : Stamped bank history) {pending : PendingLineOp config}
    (hpending : bank.pending = some pending) (words : Vector U32 config.lineWords) :
    Stamped (bank.filled pending.refill words)
      ((pending.refill.setIndex, pending.refill.tag) :: history) := by
  have hnone : Stamped { bank with pending := none } history :=
    h.waits (below_pending bank none) fun _ hafter => by cases hafter
  exact hnone.uses rfl (uses_install _ pending.refill words)
    fun way' _ => h.missing pending hpending way'

/-- The bank behind a request that has its line. -/
theorem Stamped.finishes (h : Stamped bank history) (hpending : bank.pending = none)
    {decoded : DecodedAddress config} {way : Fin config.associativity} {done : Bool}
    (hlookup : bank.lookupWay decoded = some way) (hfinishes : Finishes bank decoded way done bank') :
    Stamped bank' ((if done then [(decoded.setIndex, decoded.tag)] else []) ++ history) := by
  obtain ⟨rfl, rfl⟩ | ⟨rfl, huses⟩ := hfinishes
  · exact h
  · obtain ⟨hvalid, htag⟩ := holds_iff.1 (bank.holds_of_lookupWay hlookup)
    refine h.uses hpending huses fun way' hne => Bool.eq_false_iff.2 fun hholds => hne ?_
    exact h.unique _ _ _ hvalid (by rw [htag]; exact hholds)

/-- A request that has its line leaves it in the bank. -/
theorem Finishes.hasLine {addr : Address} {way : Fin config.associativity} {done : Bool}
    (h : Finishes bank (config.decode addr) way done bank')
    (hlookup : bank.lookupWay (config.decode addr) = some way) : bank'.hasLine addr = true := by
  obtain ⟨-, rfl⟩ | ⟨-, huses⟩ := h
  · exact hasLine_iff.2 ⟨way, bank'.holds_of_lookupWay hlookup⟩
  · exact hasLine_iff.2 ⟨way, huses.holds⟩

theorem hasLine_eq_false {addr : Address} (hlookup : bank.lookupWay (config.decode addr) = none) :
    bank.hasLine addr = false := by
  unfold hasLine
  rw [hlookup]
  rfl

/-- A line that is refilled was not in the bank. -/
theorem Stamped.hasLine_of_fills (h : Stamped bank history) {addr : Address}
    (hfills : Fills bank (config.decode addr) bank') {pending : PendingLineOp config}
    (hpending : bank'.pending = some pending)
    (hmatch : pending.matchesLine (config.decode addr) = true) : bank.hasLine addr = false := by
  cases hfills with
  | resumed =>
    obtain ⟨hset, htag⟩ := (h.placed pending hpending).sameLine (beq_iff_eq.1 hmatch)
    have hmissing := h.missing pending hpending
    rw [hset, htag] at hmissing
    exact hasLine_eq_false (bank.lookupWay_eq_none.2 hmissing)
  | started _ _ hlookup => exact hasLine_eq_false hlookup

/-- What a request about a line adds to the history. -/
theorem Stamped.lineOutcome (h : Stamped bank history) {addr : Address} {done : Bool}
    (houtcome : LineOutcome bank (config.decode addr) done bank') :
    Stamped bank' ((if done && bank'.hasLine addr then [config.lineOf addr] else []) ++
      (if !bank.hasLine addr && bank'.hasLine addr then [config.lineOf addr] else []) ++ history) := by
  cases houtcome with
  | waits hfills hwaits =>
    have hbelow := hfills.below.trans hwaits.below
    have hnew : (!bank.hasLine addr && bank'.hasLine addr) = false := by
      cases hhas : bank'.hasLine addr with
      | false => exact Bool.and_false _
      | true => rw [hbelow.hasLine hhas]; rfl
    rw [hnew]
    obtain ⟨pending, rfl, hpending⟩ := hwaits
    exact (h.fills hfills).waits (below_pending _ pending) hpending
  | bypassed _ hlookup =>
    rw [hasLine_eq_false hlookup, Bool.and_false, Bool.and_false]
    exact h
  | hit hpending hlookup hfinishes =>
    have hhas : bank.hasLine addr = true := by
      unfold hasLine
      rw [hlookup]
      rfl
    rw [hhas, hfinishes.hasLine hlookup, Bool.and_true, Bool.not_true, Bool.false_and,
      if_neg Bool.false_ne_true, List.append_nil]
    exact h.finishes hpending hlookup hfinishes
  | filled hfills hpending hmatch hlookup hfinishes =>
    rename_i before pending words way
    have hbefore := h.fills hfills
    obtain ⟨hset, htag⟩ := (hbefore.placed pending hpending).sameLine (beq_iff_eq.1 hmatch)
    have hfilled := hbefore.filled hpending words
    rw [hset, htag] at hfilled
    rw [h.hasLine_of_fills hfills hpending hmatch, hfinishes.hasLine hlookup, Bool.and_true,
      List.append_assoc]
    exact hfilled.finishes rfl hlookup hfinishes

section Calls

variable {β : Type} [BurstBus β]

/-- **A request** adds to the history what it completes. -/
theorem Stamped.access (h : Stamped bank history) (inner : β) (request : BusRequest) :
    Stamped (bank.access inner request).2.1 (bank.completed inner request ++ history) := by
  unfold completed
  by_cases hmisaligned : request.Misaligned
  · rw [access_misaligned hmisaligned]
    simp only [Except.isOk, Except.toBool, Bool.and_false, Bool.false_and, Bool.not_and_self]
    exact h
  · cases hcovers : config.covers request with
    | false =>
      rw [access_bypass hmisaligned hcovers]
      simp only [Bool.false_and, Bool.not_and_self]
      exact h
    | true =>
      rw [access_line hmisaligned hcovers]
      simp only [Bool.true_and]
      exact h.lineOutcome (lineOutcome_lineAccess h.placed inner request)

/-! ## Maintenance -/

omit [BurstBus β] in
theorem below_completeWriteBackForLine (bank : CacheBank config) (lineBase : Address) :
    Below bank (bank.completeWriteBackForLine lineBase) := by
  unfold completeWriteBackForLine
  split
  · dsimp only
    split
    · exact below_setLine bank id rfl rfl
    · exact below_pending bank bank.pending
  · exact below_pending bank bank.pending

/-- The write-back of a range cleans lines. -/
theorem below_writeBackLines (bank : CacheBank config) (inner : β) (lineBases : List Address) :
    Below bank (bank.writeBackLines inner lineBases).2.1 ∧
      (bank.writeBackLines inner lineBases).2.1.pending = bank.pending := by
  induction lineBases generalizing bank inner with
  | nil => exact ⟨below_pending bank bank.pending, rfl⟩
  | cons lineBase lineBases ih =>
    unfold writeBackLines
    split
    · exact ih bank inner
    · rename_i writeBack _
      rcases progressWriteBack inner writeBack with ⟨error | _ | _, writeBack', inner'⟩
      · exact ⟨below_pending bank bank.pending, rfl⟩
      · exact ⟨below_pending bank bank.pending, rfl⟩
      · obtain ⟨hbelow, hpending⟩ := ih (bank.completeWriteBackForLine lineBase) inner'
        exact ⟨(below_completeWriteBackForLine bank lineBase).trans hbelow,
          hpending.trans (pending_completeWriteBackForLine bank lineBase)⟩

theorem below_continueWriteBackRange (bank : CacheBank config) (inner : β)
    (pending : PendingBankWriteBack config) :
    Below bank (bank.continueWriteBackRange inner pending).2.1 ∧
      (bank.continueWriteBackRange inner pending).2.1.pending = bank.pending := by
  unfold continueWriteBackRange
  split
  · exact below_writeBackLines bank inner pending.lineBases
  · rename_i writeBack _
    rcases progressWriteBack inner writeBack with ⟨error | _ | _, writeBack', inner'⟩
    · exact ⟨below_pending bank bank.pending, rfl⟩
    · exact ⟨below_pending bank bank.pending, rfl⟩
    · obtain ⟨hbelow, hpending⟩ :=
        below_writeBackLines (bank.completeWriteBackForLine writeBack.lineBase) inner' pending.lineBases
      exact ⟨(below_completeWriteBackForLine bank writeBack.lineBase).trans hbelow,
        hpending.trans (pending_completeWriteBackForLine bank writeBack.lineBase)⟩

omit [BurstBus β] in
theorem below_dropLine (bank : CacheBank config) (decoded : DecodedAddress config) :
    Below bank (bank.dropLine decoded) := by
  unfold dropLine
  split
  · exact below_setLine bank (fun hvalid => (Bool.false_ne_true hvalid).elim) rfl rfl
  · exact below_pending bank bank.pending

omit [BurstBus β] in
theorem below_invalidateLineBase (bank : CacheBank config) (lineBase : Address) :
    Below bank (bank.invalidateLineBase lineBase) := by
  unfold invalidateLineBase
  split
  · dsimp only
    split
    · exact (below_pending bank none).trans (below_dropLine _ _)
    · exact below_dropLine bank _
  · exact below_pending bank bank.pending

omit [BurstBus β] in
theorem Stamped.invalidateLineBase (h : Stamped bank history) (lineBase : Address) :
    Stamped (bank.invalidateLineBase lineBase) history := by
  refine h.waits (below_invalidateLineBase bank lineBase) fun after hafter => ?_
  rw [pending_invalidateLineBase] at hafter
  split at hafter
  · cases hafter
  · exact ⟨after, after.refill.burstId, hafter, rfl⟩

theorem Stamped.continueWriteBackRange (h : Stamped bank history) (inner : β)
    (pending : PendingBankWriteBack config) :
    Stamped (bank.continueWriteBackRange inner pending).2.1 history := by
  obtain ⟨hbelow, hpending⟩ := below_continueWriteBackRange bank inner pending
  refine h.waits hbelow fun after hafter => ?_
  rw [hpending] at hafter
  exact ⟨after, after.refill.burstId, hafter, rfl⟩

omit [BurstBus β] in
theorem stamped_new (config : CacheConfig) : Stamped (.new config) [] := by
  have hvalid (setIndex : Fin config.setCount) (way : Fin config.associativity) :
      ((CacheBank.new config).line setIndex way).valid ≠ true := by
    simp [CacheBank.new, line, CacheSet.new, CacheLine.new]
  constructor
  · rfl
  · intro setIndex way h
    exact (hvalid _ _ h).elim
  · intro setIndex way h
    exact (hvalid _ _ h).elim
  · intro setIndex way _ h
    exact (hvalid _ _ h).elim
  · rintro _ ⟨⟩
  · rintro _ ⟨⟩

/-- **The stamps of a bank** are those of its history, in every run. -/
theorem stamped_run (calls : List (BankCall config β)) :
    Stamped (run UsedBank.next {} calls).bank (run UsedBank.next {} calls).history := by
  refine Along.run_invariant (I := fun used : UsedBank config => Stamped used.bank used.history)
    (stamped_new config) (fun used call h _ => ?_) (Along.trivial_of _ _)
  cases call with
  | access inner request => exact h.access inner request
  | continueWriteBackRange inner pending => exact h.continueWriteBackRange inner pending
  | invalidateLineBase lineBase => exact h.invalidateLineBase lineBase

end Calls

/-! ## What is evicted -/

/-- A line of the bank is gone. -/
def Evicts (bank bank' : CacheBank config) (setIndex : Fin config.setCount)
    (way : Fin config.associativity) : Prop :=
  (bank.line setIndex way).valid = true ∧
    (bank'.line setIndex way).holds (bank.line setIndex way).tag = false

/-- The stamps of the lines of a set are all different. -/
def StampsDistinct (bank : CacheBank config) : Prop :=
  ∀ setIndex way way', (bank.line setIndex way).valid = true →
    (bank.line setIndex way').valid = true →
    (bank.line setIndex way).lastUsed = (bank.line setIndex way').lastUsed → way = way'

/-- A request evicts from full sets only, and the line whose last access is the oldest. -/
def EvictsOldest (β : Type) [BurstBus β] (used : UsedBank config) : Prop :=
  ∀ (inner : β) request setIndex way,
    Evicts used.bank (used.bank.access inner request).2.1 setIndex way →
      (∀ way', (used.bank.line setIndex way').valid = true) ∧
      ∀ way', way' ≠ way → lastUse used.history (used.bank.lineIn setIndex way) <
        lastUse used.history (used.bank.lineIn setIndex way')

/-- The lines of the bank stay. -/
def Retains (bank bank' : CacheBank config) : Prop :=
  ∀ setIndex way, (bank.line setIndex way).valid = true →
    (bank'.line setIndex way).holds (bank.line setIndex way).tag = true

theorem retains_refl (bank : CacheBank config) : Retains bank bank :=
  fun _ _ hvalid => holds_iff.2 ⟨hvalid, rfl⟩

theorem Retains.trans {bank'' : CacheBank config} (h : Retains bank bank') (h' : Retains bank' bank'') :
    Retains bank bank'' := by
  intro setIndex way hvalid
  obtain ⟨hvalid', htag⟩ := holds_iff.1 (h setIndex way hvalid)
  rw [← htag]
  exact h' setIndex way hvalid'

theorem Waits.retains (h : Waits bank bank') : Retains bank bank' := by
  obtain ⟨pending, rfl, -⟩ := h
  exact retains_refl bank

/-- A use of a way that is free, or has the line already. -/
theorem Uses.retains {setIndex : Fin config.setCount} {way : Fin config.associativity} {tag : U64}
    (h : Uses bank bank' setIndex way tag)
    (hway : (bank.line setIndex way).valid = true → (bank.line setIndex way).tag = tag) :
    Retains bank bank' := by
  intro setIndex' way' hvalid
  by_cases heq : setIndex' = setIndex ∧ way' = way
  · obtain ⟨rfl, rfl⟩ := heq
    rw [hway hvalid]
    exact h.holds
  · rw [h.others _ _ heq]
    exact holds_iff.2 ⟨hvalid, rfl⟩

theorem Finishes.retains {decoded : DecodedAddress config} {way : Fin config.associativity}
    {done : Bool} (h : Finishes bank decoded way done bank')
    (hlookup : bank.lookupWay decoded = some way) : Retains bank bank' := by
  obtain ⟨-, rfl⟩ | ⟨-, huses⟩ := h
  · exact retains_refl bank'
  · exact huses.retains fun _ => (holds_iff.1 (bank.holds_of_lookupWay hlookup)).2

theorem Placed.retains_filled {refill : PendingRefill config} (h : Placed bank refill)
    (words : Vector U32 config.lineWords) : Retains bank (bank.filled refill words) := by
  have hinstall : Retains { bank with pending := none } (bank.filled refill words) :=
    (uses_install _ refill words).retains fun hvalid =>
      absurd (hvalid.symm.trans h.vacant) (by decide)
  exact hinstall

/-- Once its refill is pending, a request evicts nothing. -/
theorem Stamped.retains (h : Stamped bank history) {addr : Address} {done : Bool}
    (houtcome : LineOutcome bank (config.decode addr) done bank') :
    ∃ before, Fills bank (config.decode addr) before ∧ Retains before bank' := by
  cases houtcome with
  | waits hfills hwaits => exact ⟨_, hfills, hwaits.retains⟩
  | bypassed => exact ⟨bank, .resumed, retains_refl bank⟩
  | hit _ hlookup hfinishes => exact ⟨bank, .resumed, hfinishes.retains hlookup⟩
  | filled hfills hpending _ hlookup hfinishes =>
    have hplaced := (h.fills hfills).placed _ hpending
    exact ⟨_, hfills, (Placed.retains_filled hplaced _).trans (hfinishes.retains hlookup)⟩

/-- Only the start of a refill evicts a line, the victim. -/
theorem Fills.eq_victimWay {decoded : DecodedAddress config} {setIndex : Fin config.setCount}
    {way : Fin config.associativity} (h : Fills bank decoded bank')
    (hevicts : Evicts bank bank' setIndex way) : way = bank.victimWay setIndex := by
  obtain ⟨hvalid, hgone⟩ := hevicts
  cases h with
  | resumed =>
    rw [holds_iff.2 ⟨hvalid, rfl⟩] at hgone
    cases hgone
  | started kind =>
    rw [line_startPending] at hgone
    split at hgone
    · rename_i hvictim
      rw [hvictim.1]
      exact hvictim.2
    · rw [holds_iff.2 ⟨hvalid, rfl⟩] at hgone
      cases hgone

/-- **A request evicts the victim** of a set, or nothing. -/
theorem Stamped.eq_victimWay {β : Type} [BurstBus β] (h : Stamped bank history) (inner : β)
    (request : BusRequest) {setIndex : Fin config.setCount} {way : Fin config.associativity}
    (hevicts : Evicts bank (bank.access inner request).2.1 setIndex way) :
    way = bank.victimWay setIndex := by
  have hsame (hbank : (bank.access inner request).2.1 = bank) : way = bank.victimWay setIndex := by
    rw [hbank] at hevicts
    have hfills : Fills bank (config.decode request.wordAddr) bank := .resumed
    exact hfills.eq_victimWay hevicts
  by_cases hmisaligned : request.Misaligned
  · exact hsame (by rw [access_misaligned hmisaligned])
  · cases hcovers : config.covers request with
    | false => exact hsame (by rw [access_bypass hmisaligned hcovers])
    | true =>
      rw [access_line hmisaligned hcovers] at hevicts
      obtain ⟨before, hfills, hretains⟩ :=
        h.retains (lineOutcome_lineAccess h.placed inner request)
      -- what the refill has not evicted when it starts, stays
      refine hfills.eq_victimWay ⟨hevicts.1, Bool.eq_false_iff.2 fun hholds => ?_⟩
      obtain ⟨hvalid, htag⟩ := holds_iff.1 hholds
      have hstays := hretains setIndex way hvalid
      rw [htag, hevicts.2] at hstays
      cases hstays

/-- The victim of a full set was used least recently. -/
theorem lastUsed_victimWay_le (hpolicy : config.replacementPolicy = .leastRecentlyUsed)
    {setIndex : Fin config.setCount} (hfull : ∀ way, (bank.line setIndex way).valid = true)
    (way : Fin config.associativity) :
    (bank.line setIndex (bank.victimWay setIndex)).lastUsed.toNat ≤
      (bank.line setIndex way).lastUsed.toNat := by
  unfold victimWay CacheSet.selectVictim
  split
  · rename_i index hindex
    have hvalid := List.find?_some hindex
    rw [Bool.not_eq_true'] at hvalid
    exact absurd ((hfull index).symm.trans hvalid) (by decide)
  · rw [hpolicy]
    dsimp only
    unfold CacheSet.leastRecentlyUsed
    have hmem := List.mem_finRange way
    cases hmin : (List.finRange config.associativity).argmin
        fun way => bank.sets[setIndex].lines[way].lastUsed.toNat with
    | none =>
      rw [List.argmin_eq_none] at hmin
      rw [hmin] at hmem
      cases hmem
    | some oldest =>
      have hle := List.le_of_mem_argmin hmem hmin
      exact hle

/-- The stamps of a bank order its lines as the history does. -/
theorem Stamped.toNat_lastUsed (h : Stamped bank history) (hlength : history.length < 2 ^ 64)
    {setIndex : Fin config.setCount} {way : Fin config.associativity}
    (hvalid : (bank.line setIndex way).valid = true) :
    (bank.line setIndex way).lastUsed.toNat = lastUse history (bank.lineIn setIndex way) := by
  rw [h.stamp _ _ hvalid, BitVec.toNat_ofNat]
  exact Nat.mod_eq_of_lt ((lastUse_le _ _).trans_lt hlength)

theorem Stamped.stampsDistinct (h : Stamped bank history) (hlength : history.length < 2 ^ 64) :
    bank.StampsDistinct := by
  intro setIndex way way' hvalid hvalid' hstamp
  have huse : lastUse history (bank.lineIn setIndex way) = lastUse history (bank.lineIn setIndex way') := by
    rw [← h.toNat_lastUsed hlength hvalid, ← h.toNat_lastUsed hlength hvalid', hstamp]
  have hline := lastUse_inj (h.used _ _ hvalid) (h.used _ _ hvalid') huse
  exact (h.unique _ _ _ hvalid (holds_iff.2 ⟨hvalid', (Prod.mk.inj hline).2.symm⟩)).symm

/-- **The oldest line of a full set is evicted**, in every run of a bank with the policy
`leastRecentlyUsed`, and no two lines of a set have the same stamp. -/
theorem evictsOldest_run {β : Type} [BurstBus β]
    (hpolicy : config.replacementPolicy = .leastRecentlyUsed) (calls : List (BankCall config β))
    (hlength : (run UsedBank.next {} calls).history.length < 2 ^ 64) :
    (run UsedBank.next {} calls).bank.StampsDistinct ∧
      EvictsOldest β (run UsedBank.next {} calls) := by
  have hstamped := stamped_run calls
  have hdistinct := hstamped.stampsDistinct hlength
  refine ⟨hdistinct, ?_⟩
  intro inner request setIndex way hevicts
  have hvictim := hstamped.eq_victimWay inner request hevicts
  have hfull (way' : Fin config.associativity) :
      ((run UsedBank.next {} calls).bank.line setIndex way').valid = true := by
    by_contra hfree
    have hinvalid := valid_victimWay _ (Bool.not_eq_true _ ▸ hfree)
    rw [← hvictim, hevicts.1] at hinvalid
    cases hinvalid
  refine ⟨hfull, fun way' hne => ?_⟩
  have hle := lastUsed_victimWay_le hpolicy hfull way'
  rw [← hvictim] at hle
  have hlt := lt_of_le_of_ne hle fun heq =>
    hne (hdistinct _ _ _ (hfull way) (hfull way') (BitVec.eq_of_toNat_eq heq)).symm
  rwa [hstamped.toNat_lastUsed hlength (hfull way), hstamped.toNat_lastUsed hlength (hfull way')] at hlt

/-- A memory of four words. -/
def fourWords : MemoryMap Ram 1 where
  devices := #v[⟨⟨0, 16⟩, .new 0 16⟩]

/-- The first word is loaded before the second one and behind it. -/
def loadsAgain : List (BankCall twoWays (MemoryMap Ram 1)) :=
  [.access fourWords (.load32 0), .access fourWords (.load32 4), .access fourWords (.load32 0)]

theorem evictsOldest_run_loads :
    (run UsedBank.next {} loadsAgain).bank.StampsDistinct ∧
      EvictsOldest (MemoryMap Ram 1) (run UsedBank.next {} loadsAgain) :=
  evictsOldest_run rfl loadsAgain (by decide +kernel)

example : ((run UsedBank.next {} loadsAgain).bank.access fourWords (.load32 8)).2.1.hasLine 0 = true ∧
    ((run UsedBank.next {} loadsAgain).bank.access fourWords (.load32 8)).2.1.hasLine 4 = false := by
  decide +kernel

end CacheBank

end RvSim
