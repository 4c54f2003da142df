import RvSim.System.Cache.Lines
import RvSim.System.Cache.Request
import RvSim.System.Contract

/-!
# A bank over a bus that keeps its contract

The pending operation of a bank has exactly one burst in the backing bus, the victim's way is free while
it waits, and no call of the bank fails to return.

## Main definitions

* `Serves`: a slot's burst is active in the bus, beside the bursts of others
* `BankServes`: the invariant of a bank over its bus

## Main results

* `serves_driveBurstUntilBlocked`: how driving a burst ends
* `ends_continuePending_refill`, `ends_continuePending_writeBack`: how a line operation goes on
* `bankServes_access`: a request keeps the invariant
-/

namespace RvSim

open BurstContract

section Drive

variable {β : Type} [BurstBus β] [BurstContract β] {rest : List (U64 × BurstRequest)}

/-- The bursts of others are active. -/
def Others (rest : List (U64 × BurstRequest)) (inner : β) : Prop :=
  ∀ p ∈ rest, active inner p.1 = some p.2

/-- The burst of a slot is active as well, and is none of the others. -/
structure Serves (rest : List (U64 × BurstRequest)) (id : U64) (request : BurstRequest) (inner : β) :
    Prop where
  others : Others rest inner
  own : active inner id = some request
  ne : ∀ p ∈ rest, p.1 ≠ id

theorem Serves.congr {id : U64} {request : BurstRequest} {inner inner' : β}
    (h : Serves rest id request inner) (hactive : active inner' = active inner) :
    Serves rest id request inner' := by
  refine ⟨?_, ?_, h.ne⟩
  · intro p hp
    rw [hactive]
    exact h.others p hp
  · rw [hactive]
    exact h.own

theorem Serves.taken {id : U64} {request : BurstRequest} {inner inner' : β}
    (h : Serves rest id request inner)
    (hactive : active inner' = Function.update (active inner) id none) : Others rest inner' := by
  intro p hp
  rw [hactive, Function.update_of_ne (h.ne p hp)]
  exact h.others p hp

theorem Others.submitted {id : U64} {request : BurstRequest} {inner inner' : β}
    (h : Others rest inner)
    (hsubmit : BurstBus.submitBurst inner request = (.ok id, inner')) : Serves rest id request inner' := by
  obtain ⟨hfree, hactive⟩ := submit_ok hsubmit
  have hne : ∀ p ∈ rest, p.1 ≠ id := by
    rintro p hp rfl
    rw [h p hp] at hfree
    cases hfree
  refine ⟨fun p hp => ?_, ?_, hne⟩
  · rw [hactive, Function.update_of_ne (hne p hp)]
    exact h p hp
  · rw [hactive, Function.update_self]

theorem Serves.phase {id : U64} {request : BurstRequest} {inner : β}
    (h : Serves rest id request inner) : ∃ phase, BurstBus.burstPhase inner id = some phase := by
  have hsome := isSome_phase inner id
  rw [h.own] at hsome
  exact Option.isSome_iff_exists.1 hsome

/-- The burst is not at its end, and a tick brings it closer. -/
def Waits (rest : List (U64 × BurstRequest)) (request : BurstRequest) (slot : Option U64) (inner : β)
    (id : U64) (inner' : β) : Prop :=
  Serves rest id request inner' ∧ ∀ id', slot = some id' →
    id' = id ∧ ∀ n, EndsWithin id n inner → ∃ m < n, EndsWithin id m (Bus.tick inner')

/-- A blocked burst stays in its slot. -/
def Blocked (rest : List (U64 × BurstRequest)) (request : BurstRequest) (slot : Option U64) (inner : β)
    (slot' : Option U64) (inner' : β) : Prop :=
  ∃ id, slot' = some id ∧ Waits rest request slot inner id inner'

/-- How a burst is left that is driven without an error. -/
def Drives (rest : List (U64 × BurstRequest)) (request : BurstRequest) (slot : Option U64) (inner : β)
    (drive : BurstDrive BurstResponse) (slot' : Option U64) (inner' : β) : Prop :=
  match drive with
  | .busy _ => Blocked rest request slot inner slot' inner'
  | .ready response => slot' = none ∧ Others rest inner' ∧ response.Fits request

/-- The burst failed; only where it was refused is the answer that the bus is busy. -/
def Fails (rest : List (U64 × BurstRequest)) (request : BurstRequest) (slot : Option U64) (inner : β)
    (error : BusError) (inner' : β) : Prop :=
  Others rest inner' ∧ (error.isBusy = true →
    slot = none ∧ BurstBus.submitBurst inner request = (.error error, inner'))

/-- An error leaves the slot free. -/
def DriveFails (rest : List (U64 × BurstRequest)) (request : BurstRequest) (slot : Option U64)
    (inner : β) (error : BusError) (slot' : Option U64) (inner' : β) : Prop :=
  slot' = none ∧ Fails rest request slot inner error inner'

omit [BurstContract β] in
theorem not_ended_inFlight {inner : β} {id : U64} {beat beats : Nat} {remainingCycles : U32}
    (h : BurstBus.burstPhase inner id = some (.inFlight beat beats remainingCycles)) :
    ¬ Ended inner id := by
  rintro ⟨phase, hphase, hended⟩
  rw [h] at hphase
  cases hphase
  exact hended

/-- The burst is in flight at `inner'`, to which advances lead from `inner`. -/
theorem blocked_inFlight {request : BurstRequest} {id : U64} {inner inner' : β} {beat beats : Nat}
    {remainingCycles : U32} (h : Serves rest id request inner')
    (hphase : BurstBus.burstPhase inner' id = some (.inFlight beat beats remainingCycles))
    (hends : ∀ n, EndsWithin id n inner → EndsWithin id n inner') :
    Blocked rest request (some id) inner (some id) inner' := by
  refine ⟨id, rfl, h, ?_⟩
  rintro _ ⟨⟩
  refine ⟨rfl, ?_⟩
  rintro (_ | n) hn
  · exact absurd (hends 0 hn).ended (not_ended_inFlight hphase)
  · exact ⟨n, by omega, (hends _ hn).tick⟩

theorem Blocked.of_advance {request : BurstRequest} {id : U64} {inner inner' inner'' : β}
    {slot' : Option U64} (h : Blocked rest request (some id) inner' slot' inner'')
    (hends : ∀ n, EndsWithin id n inner → EndsWithin id n inner') :
    Blocked rest request (some id) inner slot' inner'' := by
  obtain ⟨id', hslot, hserves, hticks⟩ := h
  refine ⟨id', hslot, hserves, ?_⟩
  rintro _ ⟨⟩
  obtain ⟨rfl, hlt⟩ := hticks id rfl
  exact ⟨rfl, fun n hn => hlt n (hends n hn)⟩

/-- Driving a burst ends within the rounds of the bus. -/
theorem serves_driveBurst {id : U64} {request : BurstRequest} (rounds : Nat) (inner : β)
    (h : Serves rest id request inner) (hpos : 1 ≤ rounds)
    (hrounds : ∀ beat beats, BurstBus.burstPhase inner id = some (.accepted beat beats) →
      BurstBus.burstRounds inner id ≤ rounds) :
    Ends False (driveBurst id rounds inner)
      (fun drive s => Drives rest request (some id) inner drive s.1 s.2)
      fun error s => DriveFails rest request (some id) inner error s.1 s.2 := by
  induction rounds generalizing inner with
  | zero => omega
  | succ rounds ih =>
    obtain ⟨phase, hphase⟩ := h.phase
    unfold driveBurst
    rw [hphase]
    cases phase with
    | accepted beat beats =>
      have hadvance := advance_phase inner id (by rw [h.own]; exact Option.some_ne_none _)
      have hserves := h.congr (active_advance inner id)
      have hends (n : Nat) (hn : EndsWithin id n inner) := hn.advance
      have htwo := rounds_accepted hphase
      have hle := hrounds beat beats hphase
      obtain ⟨phase', hphase'⟩ := hserves.phase
      rw [hphase'] at hadvance
      generalize hout : BurstBus.advanceBurst inner id = out at hadvance hserves hends hphase'
      obtain ⟨_, inner'⟩ := out
      dsimp only at hadvance hserves hends hphase'
      subst hadvance
      -- the burst was advanced, and the rest of the rounds drives it on
      have hrest : (∀ beat beats, BurstBus.burstPhase inner' id = some (.accepted beat beats) →
            BurstBus.burstRounds inner' id ≤ rounds) →
          Ends False (driveBurst id rounds inner')
            (fun drive s => Drives rest request (some id) inner drive s.1 s.2)
            fun error s => DriveFails rest request (some id) inner error s.1 s.2 := by
        intro hrounds'
        refine (ih inner' hserves (by omega) hrounds').imp ?_ ?_
        · rintro (_ | _) s hs
          · exact Blocked.of_advance hs hends
          · exact hs
        · rintro error s ⟨hslot, hothers, hbusy⟩
          exact ⟨hslot, hothers, fun he => absurd (hbusy he).1 (Option.some_ne_none _)⟩
      -- an advance makes the next beat ready, or puts it in flight, or ends the burst
      cases phase' with
      | inFlight beat' beats' remainingCycles => exact blocked_inFlight hserves hphase' hends
      | accepted beat' beats' =>
        refine hrest fun beat'' beats'' hphase'' => ?_
        have hlt := rounds_advance hphase (by rw [hout]; exact hphase'')
        rw [hout] at hlt
        dsimp only at hlt
        omega
      | ready beats' =>
        refine hrest fun beat'' beats'' hphase'' => ?_
        rw [hphase'] at hphase''
        cases hphase''
      | failed error =>
        refine hrest fun beat'' beats'' hphase'' => ?_
        rw [hphase'] at hphase''
        cases hphase''
    | inFlight beat beats remainingCycles => exact blocked_inFlight h hphase fun _ hn => hn
    -- the response is there and is taken
    | ready beats =>
      obtain ⟨response, inner', htake, hfits, hactive⟩ := take_ready h.own hphase
      dsimp only
      rw [htake]
      exact ⟨rfl, h.taken hactive, hfits⟩
    | failed error =>
      obtain ⟨error, inner', htake, hbusy, hactive⟩ := take_failed hphase
      dsimp only
      rw [htake]
      exact ⟨rfl, h.taken hactive, fun he => by rw [hbusy] at he; cases he⟩

/-- The burst of a slot, or the bursts of others alone where the slot is free. -/
def SlotServes (rest : List (U64 × BurstRequest)) (slot : Option U64) (request : BurstRequest)
    (inner : β) : Prop :=
  match slot with
  | some id => Serves rest id request inner
  | none => Others rest inner

/-- **How driving a burst ends.** -/
theorem serves_driveBurstUntilBlocked {request : BurstRequest} (slot : Option U64) (inner : β)
    (h : SlotServes rest slot request inner) :
    Ends False (driveBurstUntilBlocked inner slot request)
      (fun drive s => Drives rest request slot inner drive s.1 s.2)
      fun error s => DriveFails rest request slot inner error s.1 s.2 := by
  have hpos {id : U64} {inner : β} (hserves : Serves rest id request inner) :
      1 ≤ BurstBus.burstRounds inner id :=
    rounds_pos inner id (by rw [hserves.own]; exact Option.some_ne_none _)
  cases slot with
  | some id => exact serves_driveBurst _ inner h (hpos h) fun _ _ _ => le_rfl
  | none =>
    simp only [driveBurstUntilBlocked]
    rcases hsubmit : BurstBus.submitBurst inner request with ⟨error | id, inner'⟩
    · refine ⟨rfl, ?_, fun _ => ⟨rfl, hsubmit⟩⟩
      intro p hp
      rw [submit_error hsubmit]
      exact h p hp
    · have hserves := Others.submitted h hsubmit
      refine (serves_driveBurst _ inner' hserves (hpos hserves) fun _ _ _ => le_rfl).imp ?_ ?_
      · rintro (_ | _) s hs
        · obtain ⟨id', hslot, hserves', -⟩ := hs
          exact ⟨id', hslot, hserves', fun _ hid => by cases hid⟩
        · exact hs
      · rintro error s ⟨hslot, hothers, hbusy⟩
        exact ⟨hslot, hothers, fun he => absurd (hbusy he).1 (Option.some_ne_none _)⟩

end Drive

/-! ## A line operation -/

section Line

variable {β : Type} [BurstBus β] [BurstContract β] {rest : List (U64 × BurstRequest)}
  {config : CacheConfig}

theorem serves_progressWriteBack (inner : β) (writeBack : PendingWriteBack config)
    (h : SlotServes rest writeBack.burstId writeBack.request inner) :
    Ends False (progressWriteBack inner writeBack)
      (fun drive s =>
        match drive with
        | .busy _ => ∃ id, s.1 = { writeBack with burstId := some id } ∧
            Waits rest writeBack.request writeBack.burstId inner id s.2
        | .ready () => Others rest s.2)
      fun error s => Fails rest writeBack.request writeBack.burstId inner error s.2 := by
  have hdrive := serves_driveBurstUntilBlocked writeBack.burstId inner h
  unfold progressWriteBack
  generalize driveBurstUntilBlocked inner writeBack.burstId writeBack.request = out at hdrive
  obtain ⟨(_ | _ | _) | (_ | _ | _), slot, inner'⟩ := out
  · exact hdrive.2
  · exact hdrive
  · exact hdrive
  · obtain ⟨id, rfl, hwaits⟩ := hdrive
    exact ⟨id, rfl, hwaits⟩
  · exact hdrive.2.2.elim
  · exact hdrive.2.1

theorem serves_progressRefill (inner : β) (refill : PendingRefill config)
    (h : SlotServes rest refill.burstId refill.request inner) :
    Ends False (progressRefill inner refill)
      (fun drive s =>
        match drive with
        | .busy _ => ∃ id, s.1 = { refill with burstId := some id } ∧
            Waits rest refill.request refill.burstId inner id s.2
        | .ready _ => (∃ slot, s.1 = { refill with burstId := slot }) ∧ Others rest s.2)
      fun error s => Fails rest refill.request refill.burstId inner error s.2 := by
  have hdrive := serves_driveBurstUntilBlocked refill.burstId inner h
  unfold progressRefill
  generalize driveBurstUntilBlocked inner refill.burstId refill.request = out at hdrive
  obtain ⟨(_ | _ | _) | (_ | words | _), slot, inner'⟩ := out
  · exact hdrive.2
  · exact hdrive
  · exact hdrive
  · obtain ⟨id, rfl, hwaits⟩ := hdrive
    exact ⟨id, rfl, hwaits⟩
  · simp only [refillAnswer]
    rw [dif_pos (show words.length = config.lineWords from hdrive.2.2)]
    exact ⟨⟨slot, rfl⟩, hdrive.2.1⟩
  · exact hdrive.2.2.elim

/-- How a refill is left that does not end: it failed, or its burst waits. -/
def RefillStops (rest : List (U64 × BurstRequest)) (bank : CacheBank config)
    (refill : PendingRefill config) (inner : β) (error : BusError) (s : CacheBank config × β) : Prop :=
  (s.1 = bank ∧ Fails rest refill.request refill.burstId inner error s.2) ∨
    ∃ id, s.1 = { bank with pending := some ⟨none, { refill with burstId := some id }⟩ } ∧
      Waits rest refill.request refill.burstId inner id s.2

/-- The refilled line is in the bank. -/
def RefillDone (rest : List (U64 × BurstRequest)) (bank : CacheBank config)
    (refill : PendingRefill config) (s : CacheBank config × β) : Prop :=
  (∃ words, s.1 = bank.install refill words) ∧ Others rest s.2

theorem ends_continueRefill (bank : CacheBank config) (inner : β) (refill : PendingRefill config)
    (h : SlotServes rest refill.burstId refill.request inner) :
    Ends False (bank.continueRefill inner refill) (fun _ => RefillDone rest bank refill)
      (RefillStops rest bank refill inner) := by
  have hprogress := serves_progressRefill inner refill h
  unfold CacheBank.continueRefill
  generalize progressRefill inner refill = out at hprogress
  obtain ⟨(_ | _ | _) | (_ | words), refill', inner'⟩ := out
  · exact .inl ⟨rfl, hprogress⟩
  · exact hprogress
  · exact hprogress
  · obtain ⟨id, rfl, hwaits⟩ := hprogress
    exact .inr ⟨id, rfl, hwaits⟩
  · obtain ⟨⟨slot, rfl⟩, hothers⟩ := hprogress
    exact ⟨⟨words, rfl⟩, hothers⟩

/-- How a write-back is left that does not end. -/
def WriteBackStops (rest : List (U64 × BurstRequest)) (bank : CacheBank config)
    (writeBack : PendingWriteBack config) (refill : PendingRefill config) (inner : β)
    (error : BusError) (s : CacheBank config × β) : Prop :=
  (s.1 = { bank with pending := none } ∧
      Fails rest writeBack.request writeBack.burstId inner error s.2) ∨
    ∃ id, s.1 = { bank with pending := some ⟨some { writeBack with burstId := some id }, refill⟩ } ∧
      Waits rest writeBack.request writeBack.burstId inner id s.2

/-- A refill without a write-back. -/
theorem ends_continuePending_refill {bank : CacheBank config} {refill : PendingRefill config}
    (hpending : bank.pending = some ⟨none, refill⟩) (inner : β)
    (h : SlotServes rest refill.burstId refill.request inner) :
    Ends False (bank.continuePending inner)
      (fun _ => RefillDone rest { bank with pending := none } refill)
      (RefillStops rest { bank with pending := none } refill inner) := by
  unfold CacheBank.continuePending
  rw [hpending]
  exact ends_continueRefill _ inner refill h

/-- A write-back, and the refill behind it. -/
theorem ends_continuePending_writeBack {bank : CacheBank config}
    {writeBack : PendingWriteBack config} {refill : PendingRefill config}
    (hpending : bank.pending = some ⟨some writeBack, refill⟩) (hrefill : refill.burstId = none)
    (inner : β) (h : SlotServes rest writeBack.burstId writeBack.request inner) :
    Ends False (bank.continuePending inner)
      (fun _ => RefillDone rest { bank with pending := none } refill)
      fun error s => WriteBackStops rest bank writeBack refill inner error s ∨
        ∃ inner', RefillStops rest { bank with pending := none } refill inner' error s := by
  have hprogress := serves_progressWriteBack inner writeBack h
  unfold CacheBank.continuePending
  rw [hpending]
  dsimp only
  generalize progressWriteBack inner writeBack = out at hprogress
  obtain ⟨(_ | _ | _) | (_ | _), writeBack', inner'⟩ := out
  · exact .inl (.inl ⟨rfl, hprogress⟩)
  · exact hprogress
  · exact hprogress
  · obtain ⟨id, rfl, hwaits⟩ := hprogress
    exact .inl (.inr ⟨id, rfl, hwaits⟩)
  · refine (ends_continueRefill { bank with pending := none } inner' refill ?_).imp
      (fun _ _ hs => hs) fun _ _ hs => .inr ⟨inner', hs⟩
    rw [hrefill]
    exact hprogress

end Line

/-! ## The invariant of a bank -/

/-- Where the line of a refill belongs, and that its way is free. -/
structure Placed {config : CacheConfig} (bank : CacheBank config) (refill : PendingRefill config) :
    Prop where
  placed : ∃ addr, refill.lineBase = config.lineBase addr ∧
    refill.setIndex = (config.decode addr).setIndex ∧ refill.tag = (config.decode addr).tag
  vacant : (bank.line refill.setIndex refill.wayIndex).valid = false

/-- The pending operation of a bank. -/
structure PendingServes {β : Type} [BurstBus β] [BurstContract β] {config : CacheConfig}
    (rest : List (U64 × BurstRequest)) (bank : CacheBank config) (pending : PendingLineOp config)
    (inner : β) : Prop where
  placed : Placed bank pending.refill
  burst : match pending.writeBack with
    | some writeBack => pending.refill.burstId = none ∧
        ∃ id, writeBack.burstId = some id ∧ Serves rest id writeBack.request inner
    | none => ∃ id, pending.refill.burstId = some id ∧ Serves rest id pending.refill.request inner

/-- The invariant of a bank: its pending operation has one burst, which is active in the bus. -/
structure BankServes {β : Type} [BurstBus β] [BurstContract β] {config : CacheConfig}
    (rest : List (U64 × BurstRequest)) (bank : CacheBank config) (inner : β) : Prop where
  others : Others rest inner
  pending : ∀ pending, bank.pending = some pending → PendingServes rest bank pending inner

section Bank

variable {β : Type} [BurstBus β] [BurstContract β] {rest : List (U64 × BurstRequest)}
  {config : CacheConfig}

theorem bankServes_of_pending_none {bank : CacheBank config} {inner : β} (h : bank.pending = none)
    (hothers : Others rest inner) : BankServes rest bank inner := by
  refine ⟨hothers, ?_⟩
  intro pending hpending
  rw [h] at hpending
  cases hpending

theorem Others.congr {inner inner' : β} (h : Others rest inner)
    (hactive : active inner' = active inner) : Others rest inner' := by
  intro p hp
  rw [hactive]
  exact h p hp

theorem BankServes.congr {bank : CacheBank config} {inner inner' : β} (h : BankServes rest bank inner)
    (hactive : active inner' = active inner) : BankServes rest bank inner' := by
  refine ⟨h.others.congr hactive, fun pending hpending => ?_⟩
  obtain ⟨hplaced, hburst⟩ := h.pending pending hpending
  refine ⟨hplaced, ?_⟩
  split at hburst
  · obtain ⟨hrefill, id, hid, hserves⟩ := hburst
    exact ⟨hrefill, id, hid, hserves.congr hactive⟩
  · obtain ⟨id, hid, hserves⟩ := hburst
    exact ⟨id, hid, hserves.congr hactive⟩

theorem RefillStops.bankServes {bank : CacheBank config} {refill : PendingRefill config} {inner : β}
    {error : BusError} {s : CacheBank config × β} (h : RefillStops rest bank refill inner error s)
    (hpending : bank.pending = none) (hplaced : Placed bank refill) : BankServes rest s.1 s.2 := by
  obtain ⟨hbank, hothers, -⟩ | ⟨id, hbank, hserves, -⟩ := h
  · rw [hbank]
    exact bankServes_of_pending_none hpending hothers
  · refine ⟨hserves.others, fun pending hsome => ?_⟩
    rw [hbank] at hsome ⊢
    cases hsome
    exact ⟨⟨hplaced.placed, hplaced.vacant⟩, id, rfl, hserves⟩

theorem WriteBackStops.bankServes {bank : CacheBank config} {writeBack : PendingWriteBack config}
    {refill : PendingRefill config} {inner : β} {error : BusError} {s : CacheBank config × β}
    (h : WriteBackStops rest bank writeBack refill inner error s) (hrefill : refill.burstId = none)
    (hplaced : Placed bank refill) : BankServes rest s.1 s.2 := by
  obtain ⟨hbank, hothers, -⟩ | ⟨id, hbank, hserves, -⟩ := h
  · rw [hbank]
    exact bankServes_of_pending_none rfl hothers
  · refine ⟨hserves.others, fun pending hsome => ?_⟩
    rw [hbank] at hsome ⊢
    cases hsome
    exact ⟨⟨hplaced.placed, hplaced.vacant⟩, hrefill, id, rfl, hserves⟩

/-- The bank behind a line operation that is done. -/
theorem RefillDone.pending_none {bank : CacheBank config} {refill : PendingRefill config}
    {s : CacheBank config × β} (h : RefillDone rest bank refill s) (hpending : bank.pending = none) :
    s.1.pending = none := by
  obtain ⟨⟨words, hbank⟩, -⟩ := h
  rw [hbank]
  exact hpending

/-- The refill is one of the line. -/
theorem Placed.sameLine {bank : CacheBank config} {refill : PendingRefill config}
    (h : Placed bank refill) {addr : Address} (hline : refill.lineBase = config.lineBase addr) :
    refill.setIndex = (config.decode addr).setIndex ∧ refill.tag = (config.decode addr).tag := by
  obtain ⟨addr', hline', hset, htag⟩ := h.placed
  have hdecode := config.decode_congr (hline'.symm.trans hline)
  exact ⟨hset.trans hdecode.1, htag.trans hdecode.2⟩

theorem RefillDone.exists_lookupWay {bank : CacheBank config} {refill : PendingRefill config}
    {s : CacheBank config × β} (h : RefillDone rest bank refill s) (hplaced : Placed bank refill)
    {addr : Address} (hline : refill.lineBase = config.lineBase addr) :
    ∃ way, s.1.lookupWay (config.decode addr) = some way := by
  obtain ⟨⟨words, hbank⟩, -⟩ := h
  obtain ⟨hset, htag⟩ := hplaced.sameLine hline
  rw [hbank]
  exact bank.exists_lookupWay_install refill words hset htag

/-! ### The parts of a request -/

/-- What a request does with its line leaves the pending operation alone. A failed one leaves the whole
bank alone. -/
theorem ends_finish (bank : CacheBank config) (inner : β) (request : BusRequest)
    (way : Fin config.associativity) :
    Ends False (bank.finish inner request way)
      (fun _ s => s.1.pending = bank.pending ∧ active s.2 = active inner)
      fun error s => s.1 = bank ∧ request.call inner = (.error error, s.2) := by
  unfold CacheBank.finish
  dsimp only
  split
  · exact ⟨rfl, rfl⟩
  · rename_i op hop
    have hcommit := CacheBank.commit_eq hop inner
    have hactive := active_call inner request
    unfold CacheBank.storeLine
    cases config.writePolicy with
    | writeBack => exact ⟨rfl, rfl⟩
    | writeThrough =>
      dsimp only
      generalize request.call inner = out at hcommit hactive ⊢
      generalize op.commit inner = out' at hcommit
      obtain ⟨error | value, inner'⟩ := out
      · obtain ⟨(_ | _ | _) | _, inner''⟩ := out'
        · cases hcommit
          exact ⟨rfl, rfl⟩
        · cases hcommit
        · cases hcommit
        · cases hcommit
      · obtain ⟨(_ | _ | _) | _, inner''⟩ := out'
        · cases hcommit
        · cases hcommit
        · cases hcommit
        · cases hcommit
          exact ⟨rfl, hactive⟩

theorem bankServes_finish {bank : CacheBank config} {inner : β} (hpending : bank.pending = none)
    (hothers : Others rest inner) (request : BusRequest) (way : Fin config.associativity) :
    Ends False (bank.finish inner request way) (fun _ s => BankServes rest s.1 s.2)
      fun _ s => BankServes rest s.1 s.2 := by
  refine (ends_finish bank inner request way).imp ?_ ?_
  · rintro _ s ⟨hbank, hactive⟩
    exact bankServes_of_pending_none (hbank.trans hpending) (hothers.congr hactive)
  · rintro error s ⟨hbank, hcall⟩
    have hactive := active_call inner request
    rw [hcall] at hactive
    rw [hbank]
    exact bankServes_of_pending_none hpending (hothers.congr hactive)

/-- How the pending operation of a bank goes on: it is done, and the line is there, or the invariant
holds. -/
theorem bankServes_continuePending {bank : CacheBank config} {inner : β}
    {pending : PendingLineOp config} (hpending : bank.pending = some pending)
    (hplaced : Placed bank pending.refill)
    (hburst : match pending.writeBack with
      | some writeBack => pending.refill.burstId = none ∧
          SlotServes rest writeBack.burstId writeBack.request inner
      | none => SlotServes rest pending.refill.burstId pending.refill.request inner) :
    Ends False (bank.continuePending inner)
      (fun _ => RefillDone rest { bank with pending := none } pending.refill)
      fun _ s => BankServes rest s.1 s.2 := by
  have hplaced' : Placed { bank with pending := none } pending.refill :=
    ⟨hplaced.placed, hplaced.vacant⟩
  obtain ⟨_ | writeBack, refill⟩ := pending
  · exact (ends_continuePending_refill hpending inner hburst).imp (fun _ _ hs => hs)
      fun _ _ hs => hs.bankServes rfl hplaced'
  · refine (ends_continuePending_writeBack hpending hburst.1 inner hburst.2).imp (fun _ _ hs => hs) ?_
    rintro error s (hs | ⟨inner', hs⟩)
    · exact hs.bankServes hburst.1 hplaced
    · exact hs.bankServes rfl hplaced'

theorem PendingServes.slotServes {bank : CacheBank config} {pending : PendingLineOp config} {inner : β}
    (h : PendingServes rest bank pending inner) :
    match pending.writeBack with
    | some writeBack => pending.refill.burstId = none ∧
        SlotServes rest writeBack.burstId writeBack.request inner
    | none => SlotServes rest pending.refill.burstId pending.refill.request inner := by
  have hburst := h.burst
  split at hburst
  · obtain ⟨hrefill, id, hid, hserves⟩ := hburst
    refine ⟨hrefill, ?_⟩
    rw [hid]
    exact hserves
  · obtain ⟨id, hid, hserves⟩ := hburst
    rw [hid]
    exact hserves

theorem bankServes_resumePending {bank : CacheBank config} {inner : β} (h : BankServes rest bank inner)
    (decoded : DecodedAddress config) :
    Ends False (bank.resumePending inner decoded)
      (fun _ s => s.1.pending = none ∧ Others rest s.2) fun _ s => BankServes rest s.1 s.2 := by
  unfold CacheBank.resumePending
  split
  · exact h
  · cases hpending : bank.pending with
    | none =>
      unfold CacheBank.continuePending
      rw [hpending]
      exact ⟨hpending, h.others⟩
    | some pending =>
      have hserves := h.pending pending hpending
      exact (bankServes_continuePending hpending hserves.placed hserves.slotServes).imp
        (fun _ _ hs => ⟨hs.pending_none rfl, hs.2⟩) fun _ _ hs => hs

theorem placed_startPending (bank : CacheBank config) (addr : Address) (kind : RefillKind)
    {pending : PendingLineOp config}
    (hpending : (bank.startPending (config.decode addr) kind).pending = some pending) :
    Placed (bank.startPending (config.decode addr) kind) pending.refill := by
  cases hpending
  refine ⟨⟨addr, rfl, rfl, rfl⟩, ?_⟩
  rw [CacheBank.line_startPending, if_pos ⟨rfl, rfl⟩]

/-- A line operation starts with no burst. -/
theorem slotServes_startPending {inner : β} (hothers : Others rest inner) (bank : CacheBank config)
    (decoded : DecodedAddress config) (kind : RefillKind) {pending : PendingLineOp config}
    (hpending : (bank.startPending decoded kind).pending = some pending) :
    match pending.writeBack with
    | some writeBack => pending.refill.burstId = none ∧
        SlotServes rest writeBack.burstId writeBack.request inner
    | none => SlotServes rest pending.refill.burstId pending.refill.request inner := by
  cases hpending
  split
  · rename_i writeBack hwrite
    refine ⟨rfl, ?_⟩
    have hnone : writeBack.burstId = none := by
      dsimp only at hwrite
      unfold CacheBank.victimWriteBack at hwrite
      split at hwrite
      · cases hwrite
        rfl
      · cases hwrite
    rw [hnone]
    exact hothers
  · exact hothers

theorem bankServes_fillLine (bank : CacheBank config) {inner : β} (hothers : Others rest inner)
    (addr : Address) (kind : RefillKind) :
    Ends False (bank.fillLine inner (config.decode addr) kind)
      (fun _ s => s.1.pending = none ∧ Others rest s.2) fun _ s => BankServes rest s.1 s.2 := by
  have hpending : ∃ pending, (bank.startPending (config.decode addr) kind).pending = some pending :=
    ⟨_, rfl⟩
  obtain ⟨pending, hpending⟩ := hpending
  have hplaced := placed_startPending bank addr kind hpending
  unfold CacheBank.fillLine
  refine (bankServes_continuePending hpending hplaced
    (slotServes_startPending hothers bank _ kind hpending)).onOk fun _ s hs => ?_
  refine ends_expectSome (fun _ _ => ⟨hs.pending_none rfl, hs.2⟩) fun hnone => ?_
  have hline : pending.refill.lineBase = config.lineBase addr := by
    cases hpending
    rfl
  obtain ⟨way, hway⟩ := hs.exists_lookupWay ⟨hplaced.placed, hplaced.vacant⟩ hline
  rw [hway] at hnone
  cases hnone

/-- **A request keeps the invariant of the bank, and returns.** -/
theorem bankServes_access {bank : CacheBank config} {inner : β} (h : BankServes rest bank inner)
    (request : BusRequest) :
    Ends False (bank.access inner request) (fun _ s => BankServes rest s.1 s.2)
      fun _ s => BankServes rest s.1 s.2 := by
  by_cases haligned : request.Misaligned
  · rw [CacheBank.access_misaligned haligned]
    exact h
  cases hcovers : config.covers request with
  | false =>
    rw [CacheBank.access_bypass haligned hcovers]
    have hcall := h.congr (active_call inner request)
    exact ends_ofBus (fun _ _ => hcall) fun _ _ => hcall
  | true =>
    rw [CacheBank.access_line haligned hcovers]
    refine (bankServes_resumePending h _).onOk fun _ s hs => ?_
    dsimp only
    split
    · exact bankServes_finish hs.1 hs.2 request _
    · unfold CacheBank.miss
      split
      · exact (bankServes_fillLine s.1 hs.2 _ _).onOk fun way s' hs' =>
          bankServes_finish hs'.1 hs'.2 request way
      · have hcall := (bankServes_of_pending_none hs.1 hs.2).congr (active_call s.2 request)
        exact ends_ofBus (fun _ _ => hcall) fun _ _ => hcall

end Bank

end RvSim
