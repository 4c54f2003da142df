import RvSim.System.Cache.Served

/-!
# A bank answers in the end

A request that is repeated, with ticks between, goes through the stages of its line operation: the
write-back of the victim, the refill, and the access itself. Every stage ends because the backing bus
makes progress.

## Main definitions

* `Settles`: the bank answers the request after some rounds
* `CacheBank.Stuck`: the pending operation is for another line

## Main results

* `settles_of_not_stuck`: a request that is not stuck is answered
* `access_of_stuck`: one that is stuck waits, and changes nothing
-/

namespace RvSim

open BurstContract MakesProgress

/-- The call returned, and the answer is not that the bus is busy. -/
def Replied {α : Type} : Except CacheError α → Prop
  | .ok _ => True
  | .error (.bus error) => error.isBusy = false
  | .error _ => False

section Settles

variable {β : Type} [BurstBus β] {config : CacheConfig} {request : BusRequest}

/-- The bank answers the request after some rounds, with a tick of the backing bus behind each. -/
inductive Settles (request : BusRequest) : CacheBank config → β → Prop
  | now {bank inner} (h : Replied (bank.access inner request).1) : Settles request bank inner
  | later {bank inner} (h : Returned (bank.access inner request).1)
      (hnext : Settles request (bank.access inner request).2.1
        (Bus.tick (bank.access inner request).2.2)) : Settles request bank inner

/-- A busy answer leads to an answer later. -/
def Leads (request : BusRequest) (error : BusError) (s : CacheBank config × β) : Prop :=
  error.isBusy = true → Settles request s.1 (Bus.tick s.2)

theorem settles_of_ends {bank : CacheBank config} {inner : β}
    (h : Ends False (bank.access inner request) (fun _ _ => True) (Leads request)) :
    Settles request bank inner := by
  generalize hout : bank.access inner request = out at h
  obtain ⟨(error | _ | _) | value, s⟩ := out
  · cases hbusy : error.isBusy with
    | false =>
      refine .now ?_
      rw [hout]
      exact hbusy
    | true =>
      refine .later ?_ ?_
      · rw [hout]
        rintro _ ⟨⟩
        exact ⟨error, rfl⟩
      · rw [hout]
        exact h hbusy
  · exact h.elim
  · exact h.elim
  · refine .now ?_
    rw [hout]
    trivial

variable [BurstContract β] [MakesProgress β]

/-- A request that leaves the bank alone as long as the backing bus is busy. -/
theorem settles_of_call {bank : CacheBank config}
    (h : ∀ inner : β, Ends False (bank.access inner request) (fun _ _ => True)
      fun error s => s.1 = bank ∧ request.call inner = (.error error, s.2)) (inner : β) :
    Settles request bank inner := by
  obtain ⟨n, hn⟩ := call_settles inner request
  induction n generalizing inner with
  | zero =>
    refine settles_of_ends ((h inner).imp (fun _ _ _ => trivial) ?_)
    rintro error s ⟨-, hcall⟩ hbusy
    have hsettled : Settled (request.call inner).1 := hn
    rw [hcall] at hsettled
    cases error with
    | busy cycles => exact absurd rfl (hsettled cycles)
    | _ => cases hbusy
  | succ n ih =>
    refine settles_of_ends ((h inner).imp (fun _ _ _ => trivial) ?_)
    rintro error s ⟨hbank, hcall⟩ -
    rw [hbank]
    refine ih _ ?_
    rw [BusRequest.rounds_succ, hcall] at hn
    exact hn

/-! ## The stages of a request about a line -/

variable (haligned : ¬ request.Misaligned) (hcovers : config.covers request = true)

include haligned hcovers

omit [BurstContract β] [MakesProgress β] in
theorem access_of_pending_none {bank : CacheBank config} (h : bank.pending = none) (inner : β) :
    bank.access inner request =
      match bank.lookupWay (config.decode request.wordAddr) with
      | some way => bank.finish inner request way
      | none => bank.miss inner request := by
  rw [CacheBank.access_line haligned hcovers]
  unfold CacheBank.lineAccess CacheBank.resumePending CacheBank.continuePending
  rw [h]
  rfl

/-- The line is there. -/
theorem settles_of_line {bank : CacheBank config} (hpending : bank.pending = none)
    {way : Fin config.associativity}
    (hway : bank.lookupWay (config.decode request.wordAddr) = some way) (inner : β) :
    Settles request bank inner := by
  refine settles_of_call (fun inner => ?_) inner
  rw [access_of_pending_none haligned hcovers hpending, hway]
  exact (ends_finish bank inner request way).imp (fun _ _ _ => trivial) fun _ _ hs => hs

/-- What the access does once the line is there. -/
theorem leads_finish {bank : CacheBank config} (hpending : bank.pending = none)
    {way : Fin config.associativity}
    (hway : bank.lookupWay (config.decode request.wordAddr) = some way) (inner : β) :
    Ends False (bank.finish inner request way) (fun _ _ => True) (Leads request) := by
  refine (ends_finish bank inner request way).imp (fun _ _ _ => trivial) ?_
  rintro error s ⟨hbank, -⟩ -
  rw [hbank]
  exact settles_of_line haligned hcovers hpending hway _

/-- What the access does behind a refill that is done. -/
theorem leads_refillDone {bank : CacheBank config} {refill : PendingRefill config}
    {s : CacheBank config × β} (h : RefillDone [] bank refill s) (hpending : bank.pending = none)
    (hplaced : Placed bank refill) (hline : refill.lineBase = config.lineBase request.wordAddr) :
    ∃ way, s.1.lookupWay (config.decode request.wordAddr) = some way ∧
      Ends False (s.1.finish s.2 request way) (fun _ _ => True) (Leads request) := by
  obtain ⟨way, hway⟩ := h.exists_lookupWay hplaced hline
  exact ⟨way, hway, leads_finish haligned hcovers (h.pending_none hpending) hway s.2⟩

omit [BurstContract β] [MakesProgress β] in
/-- A pending operation for the line goes on. -/
theorem access_of_pending {bank : CacheBank config} {pending : PendingLineOp config}
    (hpending : bank.pending = some pending)
    (hline : pending.refill.lineBase = config.lineBase request.wordAddr) (inner : β) :
    bank.access inner request = onOk (bank.continuePending inner) fun _ (bank, inner) =>
      match bank.lookupWay (config.decode request.wordAddr) with
      | some way => bank.finish inner request way
      | none => bank.miss inner request := by
  rw [CacheBank.access_line haligned hcovers]
  have hmatch : ¬ bank.pending.any (!·.matchesLine (config.decode request.wordAddr)) = true := by
    rw [hpending]
    simp [PendingLineOp.matchesLine, hline]
  unfold CacheBank.lineAccess
  have hresume : bank.resumePending inner (config.decode request.wordAddr) = bank.continuePending inner := by
    unfold CacheBank.resumePending
    exact if_neg hmatch
  exact congrArg (fun out => onOk out _) hresume

omit haligned hcovers [MakesProgress β] in
theorem serves_nil {id : U64} {burst : BurstRequest} {inner : β} (h : active inner id = some burst) :
    Serves [] id burst inner :=
  ⟨fun _ hp => absurd hp List.not_mem_nil, h, fun _ hp => absurd hp List.not_mem_nil⟩

/-- The refill is in flight. -/
theorem settles_of_refill {bank : CacheBank config} {refill : PendingRefill config} {id : U64}
    (hpending : bank.pending = some ⟨none, { refill with burstId := some id }⟩)
    (hplaced : Placed bank refill) (hline : refill.lineBase = config.lineBase request.wordAddr)
    {inner : β} (hserves : active inner id = some refill.request) : Settles request bank inner := by
  obtain ⟨n, hn⟩ := burst_ends inner id (by rw [hserves]; exact Option.some_ne_none _)
  induction n using Nat.strong_induction_on generalizing bank inner with
  | _ n ih =>
    have hplaced' : Placed { bank with pending := none } { refill with burstId := some id } :=
      ⟨hplaced.placed, hplaced.vacant⟩
    refine settles_of_ends ?_
    rw [access_of_pending haligned hcovers hpending hline]
    refine ((ends_continuePending_refill hpending inner (serves_nil hserves)).imp
      (fun _ _ hs => hs) ?_).onOk fun _ s hs => ?_
    · rintro error s (⟨-, -, hrefused⟩ | ⟨id', hbank, hwaits, hticks⟩) hbusy
      · cases (hrefused hbusy).1
      · obtain ⟨rfl, hlt⟩ := hticks id rfl
        obtain ⟨m, hm, hends⟩ := hlt n hn
        refine ih m hm (by rw [hbank]) ?_ ?_ hends
        · rw [hbank]
          exact ⟨hplaced.placed, hplaced.vacant⟩
        · rw [active_tick]
          exact hwaits.own
    · obtain ⟨way, hway, hfinish⟩ := leads_refillDone haligned hcovers hs rfl hplaced' hline
      dsimp only
      rw [hway]
      exact hfinish

/-- The request is about a line, that is not there and is not fetched. -/
theorem settles_of_no_allocate {bank : CacheBank config} (hpending : bank.pending = none)
    (hlookup : bank.lookupWay (config.decode request.wordAddr) = none)
    (hallocates : CacheBank.allocates config request = false) (inner : β) :
    Settles request bank inner := by
  refine settles_of_call (fun inner => ?_) inner
  rw [access_of_pending_none haligned hcovers hpending, hlookup]
  dsimp only
  unfold CacheBank.miss
  rw [hallocates, if_neg Bool.false_ne_true]
  exact ends_ofBus (fun _ _ => trivial) fun error herror => ⟨rfl, Prod.ext herror rfl⟩

/-- What the access does with a refill that stops. -/
theorem leads_refillStops {bank : CacheBank config} {refill : PendingRefill config} {inner : β}
    {error : BusError} {s : CacheBank config × β} (h : RefillStops [] bank refill inner error s)
    (hplaced : Placed bank refill) (hline : refill.lineBase = config.lineBase request.wordAddr)
    (hrefused : BurstBus.submitBurst inner refill.request = (.error error, s.2) →
      error.isBusy = true → Settles request bank (Bus.tick s.2)) : Leads request error s := by
  intro hbusy
  obtain ⟨hbank, -, hfails⟩ | ⟨id, hbank, hserves, -⟩ := h
  · rw [hbank]
    exact hrefused (hfails hbusy).2 hbusy
  · rw [hbank]
    have hactive : active (Bus.tick s.2) id = some refill.request := by
      rw [active_tick]
      exact hserves.own
    refine settles_of_refill haligned hcovers ?_ ?_ hline hactive
    · rfl
    · exact ⟨hplaced.placed, hplaced.vacant⟩

/-- A line operation that starts goes on as its victim has words to write back or not. -/
theorem settles_of_start {bank : CacheBank config} (hpending : bank.pending = none)
    (hlookup : bank.lookupWay (config.decode request.wordAddr) = none)
    (hallocates : CacheBank.allocates config request = true) {pending : PendingLineOp config}
    (hstart : (bank.startPending (config.decode request.wordAddr) request.refillKind).pending =
      some pending) {inner : β}
    (h : Ends False
      ((bank.startPending (config.decode request.wordAddr) request.refillKind).continuePending inner)
      (fun _ => RefillDone []
        { bank.startPending (config.decode request.wordAddr) request.refillKind with pending := none }
        pending.refill)
      (Leads request)) : Settles request bank inner := by
  have hplaced := placed_startPending bank request.wordAddr request.refillKind hstart
  have hline : pending.refill.lineBase = config.lineBase request.wordAddr := by
    cases hstart
    rfl
  refine settles_of_ends ?_
  rw [access_of_pending_none haligned hcovers hpending, hlookup]
  dsimp only
  unfold CacheBank.miss CacheBank.fillLine
  rw [hallocates, if_pos rfl, onOk_onOk]
  refine h.onOk fun _ s hs => ?_
  obtain ⟨way, hway, hfinish⟩ :=
    leads_refillDone haligned hcovers hs rfl ⟨hplaced.placed, hplaced.vacant⟩ hline
  dsimp only
  rw [hway]
  exact hfinish

/-- The request without its line, up to the fetch of the line. -/
theorem settles_of_pending_none {bank : CacheBank config} (hpending : bank.pending = none) {inner : β}
    (hstart : bank.lookupWay (config.decode request.wordAddr) = none →
      CacheBank.allocates config request = true → Settles request bank inner) :
    Settles request bank inner := by
  cases hlookup : bank.lookupWay (config.decode request.wordAddr) with
  | some way => exact settles_of_line haligned hcovers hpending hlookup inner
  | none =>
    cases hallocates : CacheBank.allocates config request with
    | false => exact settles_of_no_allocate haligned hcovers hpending hlookup hallocates inner
    | true => exact hstart hlookup hallocates

/-- A line operation that starts in a set with a free way has nothing to write back, and goes on when
its refill is accepted. -/
theorem settles_of_vacant_step {bank : CacheBank config} (hpending : bank.pending = none)
    {way : Fin config.associativity}
    (hvacant : (bank.line (config.decode request.wordAddr).setIndex way).valid = false) {inner : β}
    (hnext : ∀ error inner', BurstBus.submitBurst inner (.readWords (config.lineBase request.wordAddr)
        config.lineWords request.refillKind.accessKind) = (.error error, inner') →
      error.isBusy = true → Settles request
        { bank.startPending (config.decode request.wordAddr) request.refillKind with pending := none }
        (Bus.tick inner')) : Settles request bank inner := by
  refine settles_of_pending_none haligned hcovers hpending fun hlookup hallocates => ?_
  have hwrite : CacheBank.victimWriteBack (config.decode request.wordAddr).setIndex
      (bank.line (config.decode request.wordAddr).setIndex
        (bank.victimWay (config.decode request.wordAddr).setIndex)) = none := by
    unfold CacheBank.victimWriteBack
    rw [bank.valid_victimWay hvacant, if_neg]
    rintro ⟨-, hvalid, -⟩
    cases hvalid
  have hstart : (bank.startPending (config.decode request.wordAddr) request.refillKind).pending =
      some ⟨none, ⟨config.lineBase request.wordAddr, (config.decode request.wordAddr).setIndex,
        (config.decode request.wordAddr).tag, bank.victimWay (config.decode request.wordAddr).setIndex,
        request.refillKind, none⟩⟩ := by
    rw [← hwrite]
    rfl
  have hplaced := placed_startPending bank request.wordAddr request.refillKind hstart
  refine settles_of_start haligned hcovers hpending hlookup hallocates hstart ?_
  refine (ends_continuePending_refill hstart inner fun _ hp => absurd hp List.not_mem_nil).imp
    (fun _ _ hs => hs) fun error s hs => ?_
  exact leads_refillStops haligned hcovers hs ⟨hplaced.placed, hplaced.vacant⟩ rfl
    fun hsubmit hbusy => hnext error s.2 hsubmit hbusy

/-- A line operation that starts in a set with a free way has nothing to write back. -/
theorem settles_of_vacant {bank : CacheBank config} (hpending : bank.pending = none)
    {way : Fin config.associativity}
    (hvacant : (bank.line (config.decode request.wordAddr).setIndex way).valid = false) (inner : β) :
    Settles request bank inner := by
  obtain ⟨n, hn⟩ := submit_settles inner
    (.readWords (config.lineBase request.wordAddr) config.lineWords request.refillKind.accessKind)
  induction n generalizing bank way inner with
  | zero =>
    refine settles_of_vacant_step haligned hcovers hpending hvacant ?_
    intro error inner' hsubmit hbusy
    have hsettled : Settled (BurstBus.submitBurst inner _).1 := hn
    rw [hsubmit] at hsettled
    cases error with
    | busy cycles => exact absurd rfl (hsettled cycles)
    | _ => cases hbusy
  | succ n ih =>
    refine settles_of_vacant_step haligned hcovers hpending hvacant ?_
    intro error inner' hsubmit hbusy
    have hfree : (CacheBank.line { bank.startPending (config.decode request.wordAddr)
        request.refillKind with pending := none } (config.decode request.wordAddr).setIndex
        (bank.victimWay (config.decode request.wordAddr).setIndex)).valid = false := by
      show ((bank.startPending _ request.refillKind).line _ _).valid = false
      rw [CacheBank.line_startPending, if_pos ⟨rfl, rfl⟩]
    refine ih rfl hfree (Bus.tick inner') ?_
    rw [submitRounds, hsubmit] at hn
    exact hn

/-- A refill that stops behind a write-back. -/
theorem leads_refillStops_of_vacant {bank : CacheBank config} {refill : PendingRefill config}
    {inner : β} {error : BusError} {s : CacheBank config × β}
    (h : RefillStops [] bank refill inner error s) (hpending : bank.pending = none)
    (hplaced : Placed bank refill) (hline : refill.lineBase = config.lineBase request.wordAddr) :
    Leads request error s := by
  refine leads_refillStops haligned hcovers h hplaced hline fun _ _ => ?_
  have hvacant := hplaced.vacant
  rw [(hplaced.sameLine hline).1] at hvacant
  exact settles_of_vacant haligned hcovers hpending hvacant _

/-- The write-back of the victim is in flight. -/
theorem settles_of_writeBack {bank : CacheBank config} {writeBack : PendingWriteBack config}
    {refill : PendingRefill config} {id : U64}
    (hpending : bank.pending = some ⟨some { writeBack with burstId := some id }, refill⟩)
    (hrefill : refill.burstId = none) (hplaced : Placed bank refill)
    (hline : refill.lineBase = config.lineBase request.wordAddr) {inner : β}
    (hserves : active inner id = some writeBack.request) : Settles request bank inner := by
  obtain ⟨n, hn⟩ := burst_ends inner id (by rw [hserves]; exact Option.some_ne_none _)
  induction n using Nat.strong_induction_on generalizing bank inner with
  | _ n ih =>
    have hplaced' : Placed { bank with pending := none } refill := ⟨hplaced.placed, hplaced.vacant⟩
    refine settles_of_ends ?_
    rw [access_of_pending haligned hcovers hpending hline]
    refine ((ends_continuePending_writeBack hpending hrefill inner (serves_nil hserves)).imp
      (fun _ _ hs => hs) ?_).onOk fun _ s hs => ?_
    · rintro error s ((⟨-, -, hrefused⟩ | ⟨id', hbank, hwaits, hticks⟩) | ⟨inner', hs⟩)
      · intro hbusy
        cases (hrefused hbusy).1
      · intro hbusy
        obtain ⟨rfl, hlt⟩ := hticks id rfl
        obtain ⟨m, hm, hends⟩ := hlt n hn
        refine ih m hm (by rw [hbank]) ?_ ?_ hends
        · rw [hbank]
          exact ⟨hplaced.placed, hplaced.vacant⟩
        · rw [active_tick]
          exact hwaits.own
      · exact leads_refillStops_of_vacant haligned hcovers hs rfl hplaced' hline
    · obtain ⟨way, hway, hfinish⟩ := leads_refillDone haligned hcovers hs rfl hplaced' hline
      dsimp only
      rw [hway]
      exact hfinish

/-- No line operation is pending. -/
theorem settles_of_idle {bank : CacheBank config} (hpending : bank.pending = none) (inner : β) :
    Settles request bank inner := by
  refine settles_of_pending_none haligned hcovers hpending fun hlookup hallocates => ?_
  have hstart : ∃ pending, (bank.startPending (config.decode request.wordAddr)
      request.refillKind).pending = some pending := ⟨_, rfl⟩
  obtain ⟨pending, hstart⟩ := hstart
  have hplaced := placed_startPending bank request.wordAddr request.refillKind hstart
  have hothers : Others [] inner := fun _ hp => absurd hp List.not_mem_nil
  have hslot := slotServes_startPending hothers bank _ _ hstart
  have hline : pending.refill.lineBase = config.lineBase request.wordAddr := by
    cases hstart
    rfl
  refine settles_of_start haligned hcovers hpending hlookup hallocates hstart ?_
  obtain ⟨_ | writeBack, refill⟩ := pending
  · refine (ends_continuePending_refill hstart inner hslot).imp (fun _ _ hs => hs) fun error s hs => ?_
    exact leads_refillStops_of_vacant haligned hcovers hs rfl ⟨hplaced.placed, hplaced.vacant⟩ hline
  · refine (ends_continuePending_writeBack hstart hslot.1 inner hslot.2).imp (fun _ _ hs => hs) ?_
    rintro error s ((⟨hbank, -⟩ | ⟨id, hbank, hserves, -⟩) | ⟨inner', hs⟩)
    · intro hbusy
      have hvacant := hplaced.vacant
      rw [(hplaced.sameLine hline).1] at hvacant
      rw [hbank]
      apply settles_of_vacant haligned hcovers
      · rfl
      · exact hvacant
    · intro hbusy
      rw [hbank]
      have hactive : active (Bus.tick s.2) id = some writeBack.request := by
        rw [active_tick]
        exact hserves.own
      refine settles_of_writeBack haligned hcovers ?_ hslot.1 ?_ hline hactive
      · rfl
      · exact ⟨hplaced.placed, hplaced.vacant⟩
    · exact leads_refillStops_of_vacant haligned hcovers hs rfl ⟨hplaced.placed, hplaced.vacant⟩ hline

end Settles

/-- The request is about a line, and the pending operation is for another one. -/
def CacheBank.Stuck {config : CacheConfig} (bank : CacheBank config) (request : BusRequest) : Prop :=
  ¬ request.Misaligned ∧ config.covers request = true ∧
    ∃ pending, bank.pending = some pending ∧
      pending.refill.lineBase ≠ config.lineBase request.addr

section Stuck

variable {β : Type} [BurstBus β] {config : CacheConfig} {request : BusRequest}

/-- **A request that is not stuck is answered.** -/
theorem settles_of_not_stuck [BurstContract β] [MakesProgress β] {rest : List (U64 × BurstRequest)}
    {bank : CacheBank config} {inner : β} (h : BankServes rest bank inner)
    (hstuck : ¬ bank.Stuck request) : Settles request bank inner := by
  by_cases haligned : request.Misaligned
  · refine .now ?_
    rw [CacheBank.access_misaligned haligned]
    rfl
  cases hcovers : config.covers request with
  | false =>
    refine settles_of_call (fun inner => ?_) inner
    rw [CacheBank.access_bypass haligned hcovers]
    exact ends_ofBus (fun _ _ => trivial) fun error herror => ⟨rfl, Prod.ext herror rfl⟩
  | true =>
    cases hpending : bank.pending with
    | none => exact settles_of_idle haligned hcovers hpending inner
    | some pending =>
      -- the pending operation is one of the line that is asked for
      have hline : pending.refill.lineBase = config.lineBase request.wordAddr := by
        rw [config.lineBase_wordAddr]
        by_contra hne
        exact hstuck ⟨haligned, hcovers, pending, hpending, hne⟩
      obtain ⟨hplaced, hburst⟩ := h.pending pending hpending
      obtain ⟨writeBack, refill⟩ := pending
      cases writeBack with
      | none =>
        obtain ⟨id, hid, hserves⟩ := hburst
        obtain ⟨lineBase, setIndex, tag, wayIndex, kind, burstId⟩ := refill
        cases hid
        have hfree : Placed bank ⟨lineBase, setIndex, tag, wayIndex, kind, none⟩ :=
          ⟨hplaced.placed, hplaced.vacant⟩
        exact settles_of_refill haligned hcovers hpending hfree hline hserves.own
      | some writeBack =>
        obtain ⟨hrefill, id, hid, hserves⟩ := hburst
        obtain ⟨lineBase, words, burstId⟩ := writeBack
        cases hid
        have hactive : active inner id =
            some (PendingWriteBack.request (⟨lineBase, words, none⟩ : PendingWriteBack config)) := hserves.own
        exact settles_of_writeBack haligned hcovers hpending hrefill hplaced hline hactive

/-- A request that is stuck waits, and changes nothing. -/
theorem access_of_stuck {bank : CacheBank config} (hstuck : bank.Stuck request) (inner : β) :
    bank.access inner request = (.error (.bus (.busy 1)), bank, inner) := by
  obtain ⟨haligned, hcovers, pending, hpending, hne⟩ := hstuck
  have hmatch : bank.pending.any (!·.matchesLine (config.decode request.wordAddr)) = true := by
    rw [hpending]
    simpa [PendingLineOp.matchesLine, config.lineBase_wordAddr] using hne
  rw [CacheBank.access_line haligned hcovers]
  unfold CacheBank.lineAccess CacheBank.resumePending
  rw [if_pos hmatch]
  rfl

end Stuck

end RvSim
