import RvSim.System.Cache.Served

/-!
# What a request does to the lines of a bank

A request about a line either finds its line, or goes past the bank, or goes on with a refill, which it
may have to start first. A line is used when its refill ends, and when a request is done on it.

## Main definitions

* `CacheBank.Uses`: a use of a way
* `CacheBank.Waits`, `CacheBank.Fills`, `CacheBank.Finishes`: the parts of a request
* `CacheBank.LineOutcome`: everything a request about a line can do to a bank

## Main results

* `CacheBank.continuePending_cases`: how a line operation goes on
* `CacheBank.lineOutcome_lineAccess`: the cases of a request
-/

namespace RvSim

namespace CacheBank

variable {config : CacheConfig}

/-! ## Uses -/

/-- A bank behind a use of a way: the way holds the tag and the latest stamp. -/
structure Uses (bank bank' : CacheBank config) (setIndex : Fin config.setCount)
    (way : Fin config.associativity) (tag : U64) : Prop where
  epoch : bank'.accessEpoch = bank.accessEpoch + 1
  pending : bank'.pending = bank.pending
  holds : (bank'.line setIndex way).holds tag = true
  stamp : (bank'.line setIndex way).lastUsed = bank.accessEpoch + 1
  others : ∀ setIndex' way', ¬ (setIndex' = setIndex ∧ way' = way) →
    bank'.line setIndex' way' = bank.line setIndex' way'

theorem line_touchLine (bank : CacheBank config) (setIndex setIndex' : Fin config.setCount)
    (way way' : Fin config.associativity) :
    (bank.touchLine setIndex way).line setIndex' way' =
      if setIndex' = setIndex ∧ way' = way then
        { bank.line setIndex way with lastUsed := bank.accessEpoch + 1 }
      else bank.line setIndex' way' :=
  line_setLine _ _ _ _ _ _

theorem uses_touchLine (bank : CacheBank config) {setIndex : Fin config.setCount}
    {way : Fin config.associativity} {tag : U64}
    (h : (bank.line setIndex way).holds tag = true) :
    Uses bank (bank.touchLine setIndex way) setIndex way tag := by
  constructor
  · rfl
  · rfl
  · rw [line_touchLine, if_pos ⟨rfl, rfl⟩]
    exact h
  · rw [line_touchLine, if_pos ⟨rfl, rfl⟩]
  · intro setIndex' way' hne
    rw [line_touchLine, if_neg hne]

/-- A line is written, and its way is used. -/
theorem uses_setLine_touchLine (bank : CacheBank config) (setIndex : Fin config.setCount)
    (way : Fin config.associativity) (line : CacheLine config.lineWords) (hvalid : line.valid = true) :
    Uses bank ((bank.setLine setIndex way line).touchLine setIndex way) setIndex way line.tag := by
  have hline : (bank.setLine setIndex way line).line setIndex way = line := by
    rw [line_setLine, if_pos ⟨rfl, rfl⟩]
  have hholds : ((bank.setLine setIndex way line).line setIndex way).holds line.tag = true := by
    rw [hline]
    exact holds_iff.2 ⟨hvalid, rfl⟩
  have huses := uses_touchLine (bank.setLine setIndex way line) hholds
  refine ⟨huses.epoch, huses.pending, huses.holds, huses.stamp, ?_⟩
  intro setIndex' way' hne
  rw [huses.others setIndex' way' hne, line_setLine, if_neg hne]

theorem uses_install (bank : CacheBank config) (refill : PendingRefill config)
    (words : Vector U32 config.lineWords) :
    Uses bank (bank.install refill words) refill.setIndex refill.wayIndex refill.tag :=
  uses_setLine_touchLine bank _ _ { bank.line _ _ with valid := true, dirty := false, tag := _, words } rfl

theorem uses_updateCachedStore (bank : CacheBank config) (decoded : DecodedAddress config)
    (way : Fin config.associativity) (op : StoreOp) (dirty : Bool) :
    Uses bank (bank.updateCachedStore decoded way op dirty) decoded.setIndex way decoded.tag :=
  uses_setLine_touchLine bank _ _
    { bank.line _ _ with words := _, valid := true, tag := decoded.tag, dirty } rfl

/-! ## The cases of a request -/

/-- The pending operation goes on, or is given up. -/
def Waits (bank bank' : CacheBank config) : Prop :=
  ∃ pending', bank' = { bank with pending := pending' } ∧
    ∀ after, pending' = some after → ∃ pending burstId, bank.pending = some pending ∧
      after.refill = { pending.refill with burstId }

/-- The bank with the refill of its pending operation. -/
def filled (bank : CacheBank config) (refill : PendingRefill config)
    (words : Vector U32 config.lineWords) : CacheBank config :=
  { bank with pending := none }.install refill words

/-- A request uses the way that has its line, or fails. -/
def Finishes (bank : CacheBank config) (decoded : DecodedAddress config)
    (way : Fin config.associativity) (done : Bool) (bank' : CacheBank config) : Prop :=
  (done = false ∧ bank' = bank) ∨ (done = true ∧ Uses bank bank' decoded.setIndex way decoded.tag)

/-- The bank in which the refill of a line is pending: it was so before the request, or the request
misses and starts it. -/
inductive Fills (bank : CacheBank config) (decoded : DecodedAddress config) : CacheBank config → Prop
  | resumed : Fills bank decoded bank
  | started (kind : RefillKind) (hpending : bank.pending = none)
      (hlookup : bank.lookupWay decoded = none) : Fills bank decoded (bank.startPending decoded kind)

/-- Everything a request about a line can do to a bank, and whether it is answered with a value. -/
inductive LineOutcome (bank : CacheBank config) (decoded : DecodedAddress config) :
    Bool → CacheBank config → Prop
  /-- the refill of the line, or an earlier one, is not at its end -/
  | waits {before after : CacheBank config} (hfills : Fills bank decoded before)
      (h : Waits before after) : LineOutcome bank decoded false after
  /-- a store goes past the bank -/
  | bypassed (done : Bool) (hlookup : bank.lookupWay decoded = none) :
      LineOutcome bank decoded done bank
  | hit {way : Fin config.associativity} {done : Bool} {after : CacheBank config}
      (hpending : bank.pending = none) (hlookup : bank.lookupWay decoded = some way)
      (h : Finishes bank decoded way done after) : LineOutcome bank decoded done after
  | filled {before : CacheBank config} {pending : PendingLineOp config}
      {words : Vector U32 config.lineWords} {way : Fin config.associativity} {done : Bool}
      {after : CacheBank config} (hfills : Fills bank decoded before)
      (hpending : before.pending = some pending) (hmatch : pending.matchesLine decoded = true)
      (hlookup : (before.filled pending.refill words).lookupWay decoded = some way)
      (h : Finishes (before.filled pending.refill words) decoded way done after) :
      LineOutcome bank decoded done after

section Cases

variable {β : Type} [BurstBus β]

/-- How the pending operation of a bank goes on. -/
theorem continueRefill_cases (bank : CacheBank config) (inner : β) (refill : PendingRefill config) :
    (∃ words, (bank.continueRefill inner refill).1 = .ok () ∧
        (bank.continueRefill inner refill).2.1 = bank.install refill words) ∨
      ∃ error, (bank.continueRefill inner refill).1 = .error error ∧
        ((bank.continueRefill inner refill).2.1 = bank ∨
          ∃ burstId, (bank.continueRefill inner refill).2.1 =
            { bank with pending := some ⟨none, { refill with burstId }⟩ }) := by
  unfold continueRefill progressRefill
  generalize driveBurstUntilBlocked inner refill.burstId refill.request = out
  obtain ⟨answer, burstId, inner'⟩ := out
  dsimp only
  rcases refillAnswer config answer with error | _ | words
  · exact .inr ⟨error, rfl, .inl rfl⟩
  · exact .inr ⟨_, rfl, .inr ⟨burstId, rfl⟩⟩
  · exact .inl ⟨words, rfl, rfl⟩

theorem continuePending_cases {bank : CacheBank config} {pending : PendingLineOp config}
    (hpending : bank.pending = some pending) (inner : β) :
    (∃ words, (bank.continuePending inner).1 = .ok () ∧
        (bank.continuePending inner).2.1 = bank.filled pending.refill words) ∨
      ∃ error, (bank.continuePending inner).1 = .error error ∧
        Waits bank (bank.continuePending inner).2.1 := by
  have hrefill (inner : β) :
      (∃ words, ({ bank with pending := none }.continueRefill inner pending.refill).1 = .ok () ∧
          ({ bank with pending := none }.continueRefill inner pending.refill).2.1 =
            bank.filled pending.refill words) ∨
        ∃ error, ({ bank with pending := none }.continueRefill inner pending.refill).1 = .error error ∧
          Waits bank ({ bank with pending := none }.continueRefill inner pending.refill).2.1 := by
    obtain ⟨words, hok, hbank⟩ | ⟨error, herror, hbank | ⟨burstId, hbank⟩⟩ :=
      continueRefill_cases { bank with pending := none } inner pending.refill
    · exact .inl ⟨words, hok, hbank⟩
    · exact .inr ⟨error, herror, none, hbank, fun _ hafter => by cases hafter⟩
    · refine .inr ⟨error, herror, _, hbank, ?_⟩
      rintro _ ⟨⟩
      exact ⟨pending, burstId, hpending, rfl⟩
  unfold continuePending
  rw [hpending]
  obtain ⟨_ | writeBack, refill⟩ := pending
  · exact hrefill inner
  · dsimp only at hrefill ⊢
    rcases progressWriteBack inner writeBack with ⟨error | _ | _, writeBack', inner'⟩
    · exact .inr ⟨error, rfl, none, rfl, fun _ hafter => by cases hafter⟩
    · refine .inr ⟨_, rfl, _, rfl, ?_⟩
      rintro _ ⟨⟩
      exact ⟨_, refill.burstId, hpending, rfl⟩
    · exact hrefill inner'

theorem waits_refl (bank : CacheBank config) : Waits bank bank :=
  ⟨bank.pending, rfl, fun after hafter => ⟨after, after.refill.burstId, hafter, rfl⟩⟩

/-- A refill that is done gives its line to the bank. -/
theorem exists_lookupWay_filled {bank : CacheBank config} {pending : PendingLineOp config}
    {addr : Address} (hplaced : Placed bank pending.refill)
    (hmatch : pending.matchesLine (config.decode addr) = true) (words : Vector U32 config.lineWords) :
    ∃ way, (bank.filled pending.refill words).lookupWay (config.decode addr) = some way := by
  obtain ⟨hset, htag⟩ := hplaced.sameLine (beq_iff_eq.1 hmatch)
  exact exists_lookupWay_install _ _ words hset htag

theorem finishes_finish (bank : CacheBank config) (inner : β) (request : BusRequest)
    {way : Fin config.associativity}
    (hlookup : bank.lookupWay (config.decode request.wordAddr) = some way) :
    Finishes bank (config.decode request.wordAddr) way (bank.finish inner request way).1.isOk
      (bank.finish inner request way).2.1 := by
  unfold finish
  dsimp only
  split
  · exact .inr ⟨rfl, uses_touchLine bank (bank.holds_of_lookupWay hlookup)⟩
  · rename_i op _
    unfold storeLine
    split
    · -- the store is committed first, and a failed one leaves the line as it is
      rcases op.commit inner with ⟨error | _, inner'⟩
      · exact .inl ⟨rfl, rfl⟩
      · exact .inr ⟨rfl, uses_updateCachedStore bank _ way op false⟩
    · exact .inr ⟨rfl, uses_updateCachedStore bank _ way op true⟩

/-- A request goes on with the refill of its line. -/
theorem lineOutcome_of_fills {bank before : CacheBank config} {pending : PendingLineOp config}
    {request : BusRequest} (hfills : Fills bank (config.decode request.wordAddr) before)
    (hpending : before.pending = some pending) (hplaced : Placed before pending.refill)
    (hmatch : pending.matchesLine (config.decode request.wordAddr) = true) (inner : β)
    {next : Unit → CacheBank config × β → Except CacheError U32 × CacheBank config × β}
    (hnext : ∀ bank inner way, bank.lookupWay (config.decode request.wordAddr) = some way →
      next () (bank, inner) = bank.finish inner request way) :
    LineOutcome bank (config.decode request.wordAddr) (onOk (before.continuePending inner) next).1.isOk
      (onOk (before.continuePending inner) next).2.1 := by
  have hcases := continuePending_cases hpending inner
  generalize before.continuePending inner = out at hcases
  obtain ⟨answer, after, inner'⟩ := out
  obtain ⟨words, hok, hbank⟩ | ⟨error, herror, hwaits⟩ := hcases
  · dsimp only at hok hbank
    subst hok hbank
    obtain ⟨way, hway⟩ := exists_lookupWay_filled hplaced hmatch words
    simp only [onOk]
    rw [hnext _ _ way hway]
    exact .filled hfills hpending hmatch hway (finishes_finish _ inner' request hway)
  · dsimp only at herror
    subst herror
    exact .waits hfills hwaits

theorem lineOutcome_miss {bank : CacheBank config} {request : BusRequest}
    (hpending : bank.pending = none)
    (hlookup : bank.lookupWay (config.decode request.wordAddr) = none) (inner : β) :
    LineOutcome bank (config.decode request.wordAddr) (bank.miss inner request).1.isOk
      (bank.miss inner request).2.1 := by
  unfold miss
  split
  · have hstarted : ∃ pending,
        (bank.startPending (config.decode request.wordAddr) request.refillKind).pending = some pending ∧
          pending.matchesLine (config.decode request.wordAddr) = true :=
      ⟨_, rfl, beq_self_eq_true _⟩
    obtain ⟨pending, hsome, hmatch⟩ := hstarted
    unfold fillLine
    rw [onOk_onOk]
    refine lineOutcome_of_fills (.started request.refillKind hpending hlookup) hsome
      (placed_startPending bank request.wordAddr _ hsome) hmatch inner ?_
    intro bank inner way hway
    dsimp only
    rw [hway]
    rfl
  · exact .bypassed _ hlookup

/-- **The cases of a request about a line.** -/
theorem lineOutcome_lineAccess {bank : CacheBank config}
    (hplaced : ∀ pending, bank.pending = some pending → Placed bank pending.refill) (inner : β)
    (request : BusRequest) :
    LineOutcome bank (config.decode request.wordAddr) (bank.lineAccess inner request).1.isOk
      (bank.lineAccess inner request).2.1 := by
  unfold lineAccess resumePending
  split
  · exact .waits .resumed (waits_refl bank)
  · rename_i hmatches
    cases hpending : bank.pending with
    | none =>
      have hcontinue : bank.continuePending inner = (.ok (), bank, inner) := by
        unfold continuePending
        rw [hpending]
      rw [hcontinue]
      simp only [onOk]
      split
      · rename_i way hlookup
        exact .hit hpending hlookup (finishes_finish bank inner request hlookup)
      · rename_i hlookup
        exact lineOutcome_miss hpending hlookup inner
    | some pending =>
      rw [hpending, Option.any_some, Bool.not_eq_true, Bool.not_eq_false'] at hmatches
      refine lineOutcome_of_fills .resumed hpending (hplaced pending hpending) hmatches inner ?_
      intro bank inner way hway
      dsimp only
      rw [hway]

end Cases

end CacheBank

end RvSim
