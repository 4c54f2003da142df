import RvSim.System.BurstBeats
import RvSim.System.Cache.Answers
import RvSim.System.Cache.Requests

/-!
# The unified cache is a memory

A unified cache in front of a memory is a memory itself: a request is answered by the bank, and the beats
of a burst are requests on it.

## Main definitions

* `DirectMappedCache.Serving`, `DirectMappedCache.AtBeat`: a cache in front of a memory
* the instance of `MemoryContract`

## Main results

* `DirectMappedCache.advances`: the next beat of a burst
-/

namespace RvSim

open MemoryContract

/-! ## The beats of a burst -/

namespace BurstRequest

/-- The request that performs a beat. -/
def beatCall (request : BurstRequest) (index : Nat) : BusRequest :=
  match request with
  | .readWords _ _ .fetch => .fetch32 (request.beatAddr index)
  | .readWords _ _ _ => .load32 (request.beatAddr index)
  | .writeWords _ words => .store32 (request.beatAddr index) (words[index]?.getD 0)

/-- What a beat makes of its answer. -/
def beatWord (request : BurstRequest) (value : U32) : Option U32 :=
  match request with
  | .readWords _ _ _ => some value
  | .writeWords _ _ => none

variable {request : BurstRequest} {memory : ByteMemory} {index : Nat}

theorem beatCall_spec (request : BurstRequest) (index : Nat) :
    (request.beatCall index).addr = request.beatAddr index ∧ (request.beatCall index).width = 4 := by
  unfold beatCall
  split <;> exact ⟨rfl, rfl⟩

theorem Within.beatCall {memory : FlatMemory} (h : request.Within memory.mapped)
    (hindex : index < request.beats) : ¬ (request.beatCall index).Misaligned ∧
      memory.Maps (request.beatCall index).addr (request.beatCall index).width := by
  obtain ⟨haddr, hwidth⟩ := request.beatCall_spec index
  obtain ⟨hbeat, hmapped⟩ := h.beat hindex
  unfold BusRequest.Misaligned
  rw [haddr, hwidth, not_not]
  refine ⟨?_, hmapped⟩
  have haligned := h.aligned
  refine BitVec.eq_of_toNat_eq ?_
  rw [BitVec.toNat_umod, BitVec.toNat_ofNat, hbeat, show 4 % 2 ^ 64 = 4 from rfl]
  show _ = 0
  omega

/-- A beat does the next part of the burst. -/
theorem effect_beatCall {mapped : Address → Bool} (h : request.Within mapped)
    (hindex : index < request.beats) (memory : ByteMemory) :
    (request.beatCall index).effect (request.effectUpTo index memory) =
      request.effectUpTo (index + 1) memory := by
  match request with
  | .readWords _ _ .fetch => rfl
  | .readWords _ _ .load => rfl
  | .readWords _ _ .store => rfl
  | .writeWords baseAddr words => exact (effectUpTo_succ hindex h.fits memory).symm

/-- The words behind a beat. -/
theorem HasRead.beat {readWords : List U32} (h : request.HasRead index memory readWords)
    (hindex : index < request.beats) :
    request.HasRead (index + 1) memory
      (match request.beatWord ((request.beatCall index).answer (request.effectUpTo index memory)) with
        | some word => readWords.set index word
        | none => readWords) := by
  match request with
  | .readWords _ _ .fetch => exact h.set hindex
  | .readWords _ _ .load => exact h.set hindex
  | .readWords _ _ .store => exact ⟨List.length_set.trans h.1, fun hkind => absurd rfl hkind⟩
  | .writeWords _ _ => exact h.of_write _

end BurstRequest

namespace DirectMappedCache

variable {config : CacheConfig} {β : Type} [BurstBus β]

theorem call_eq (request : BusRequest) (cache : DirectMappedCache config β) :
    request.call cache = surfaced (cache.access request) := by
  have hmap {α : Type} (out : Except CacheError α × CacheBank config × β) (f : α → U32) :
      ((surface out.1).map f, { cache with bank := out.2.1, inner := out.2.2 }) =
        surfaced (cache.onBank (mapAnswer f out)) := by
    obtain ⟨(_ | _ | _) | _, _⟩ := out <;> rfl
  have hthrough {α : Type} (call : CacheBank config → β → Except CacheError α × CacheBank config × β)
      (f : α → U32) : ((surfaced (cache.through call)).1.map f, (surfaced (cache.through call)).2) =
        surfaced (cache.through fun bank inner => mapAnswer f (call bank inner)) := by
    unfold through
    split
    · rfl
    · exact hmap _ f
  cases request with
  | fetch32 addr => rfl
  | load8 addr => exact hthrough (·.load8 · addr) _
  | load16 addr => exact hthrough (·.load16 · addr) _
  | load32 addr => rfl
  | store8 addr value => exact hthrough (·.store8 · addr value) _
  | store16 addr value => exact hthrough (·.store16 · addr value) _
  | store32 addr value => exact hthrough (·.store32 · addr value) _

/-- A beat is a request. -/
theorem executeBurstBeat_eq {request : BurstRequest}
    (hkind : ∀ baseAddr beats, request ≠ .readWords baseAddr beats .store) (index : Nat)
    (cache : DirectMappedCache config β) :
    cache.executeBurstBeat request index =
      mapAnswer request.beatWord (cache.access (request.beatCall index)) := by
  match request with
  | .readWords _ _ .fetch => rfl
  | .readWords _ _ .load => rfl
  | .readWords baseAddr beats .store => exact absurd rfl (hkind baseAddr beats)
  | .writeWords baseAddr words =>
    show mapAnswer _ (cache.through _) = mapAnswer _ (cache.through _)
    unfold through
    split
    · rfl
    · show mapAnswer _ (cache.onBank (cache.bank.store32 cache.inner _ _)) =
        mapAnswer _ (cache.onBank (mapAnswer (fun _ => 0) (cache.bank.store32 cache.inner _ _)))
      generalize cache.bank.store32 cache.inner _ _ = out
      obtain ⟨_ | _, _⟩ := out <;> rfl

variable [MemoryContract β] {memory : FlatMemory} {cache : DirectMappedCache config β}
  {request : BusRequest} {burst : BurstRequest} {id : U64}

/-- The cached ranges lie in the memory, and no maintenance is in progress. -/
structure Serving (memory : FlatMemory) (cache : DirectMappedCache config β) : Prop where
  config : config.Within memory.mapped
  maintenance : cache.maintenance = none

/-- The cache behind a call on its bank. -/
def behind (cache : DirectMappedCache config β) (s : CacheBank config × β) : DirectMappedCache config β :=
  { cache with bank := s.1, inner := s.2 }

/-- A request that the bank answers, or makes wait. -/
theorem ends_access (hserving : cache.Serving memory)
    (h : Ends False (cache.bank.access cache.inner request) (CacheBank.Answers .whole request memory)
      (CacheBank.Delays .whole request memory)) :
    Ends False (cache.access request)
      (fun value cache' => ∃ s, cache' = cache.behind s ∧ CacheBank.Answers .whole request memory value s)
      fun error cache' => ∃ s, cache' = cache.behind s ∧ CacheBank.Delays .whole request memory error s := by
  unfold access through
  rw [if_neg (by rw [hserving.maintenance]; exact Bool.false_ne_true)]
  exact h.under (f := cache.behind) (fun _ s hs => ⟨s, rfl, hs⟩) fun _ s hs => ⟨s, rfl, hs⟩

/-- Nothing is in progress. -/
structure QuietAs (memory : FlatMemory) (cache : DirectMappedCache config β) : Prop extends
    cache.Serving memory where
  burst : cache.activeBurst = none
  bank : cache.bank.Rests .whole memory cache.inner

/-- A request is in progress. -/
structure AwaitingAs (request : BusRequest) (memory : FlatMemory) (cache : DirectMappedCache config β) :
    Prop extends cache.Serving memory where
  burst : cache.activeBurst = none
  bank : cache.bank.Awaits .whole request memory cache.inner

/-- The whole bank is in charge of every request. -/
theorem charges_whole (bank : CacheBank config) (request : BusRequest) :
    CacheBank.Charges .whole bank request := ⟨fun _ => trivial, fun _ _ _ => trivial⟩

theorem answeredAs_access (hserving : cache.Serving memory) (hburst : cache.activeBurst = none)
    (h : Ends False (cache.bank.access cache.inner request) (CacheBank.Answers .whole request memory)
      (CacheBank.Delays .whole request memory)) :
    AnsweredAs (AwaitingAs request) QuietAs request memory (request.call cache) := by
  have hends := ends_access hserving h
  rw [call_eq]
  unfold AnsweredAs surfaced
  generalize cache.access request = out at hends
  obtain ⟨(error | _ | _) | value, cache'⟩ := out
  · obtain ⟨s, rfl, hbusy, hwaits⟩ := hends
    exact ⟨hbusy, ⟨hserving.config, hserving.maintenance⟩, hburst, hwaits⟩
  · exact hends.elim
  · exact hends.elim
  · obtain ⟨s, rfl, hanswer, hrests⟩ := hends
    exact ⟨hanswer trivial, ⟨hserving.config, hserving.maintenance⟩, hburst, hrests⟩

/-! ## Bursts -/

/-- How far a burst has come. -/
def AtBeat (burst : BurstRequest) (memory : FlatMemory) (active : ActiveCacheBurst)
    (cache : DirectMappedCache config β) : Prop :=
  match active.phase with
  | .accepted _ _ => active.beatIndex < burst.beats ∧
      cache.bank.Rests .whole (memory.behind burst active.beatIndex) cache.inner
  | .inFlight _ _ _ => active.beatIndex < burst.beats ∧ cache.bank.Awaits .whole
      (burst.beatCall active.beatIndex) (memory.behind burst active.beatIndex) cache.inner
  | .ready _ => active.beatIndex = burst.beats ∧
      cache.bank.Rests .whole (memory.behind burst burst.beats) cache.inner
  | .failed _ => False

/-- A burst is in progress. -/
structure BurstingAs (id : U64) (burst : BurstRequest) (memory : FlatMemory)
    (active : ActiveCacheBurst) (cache : DirectMappedCache config β) : Prop extends
    cache.Serving memory where
  within : burst.Within memory.mapped
  slot : cache.activeBurst = some active
  sameId : active.id = id
  sameRequest : active.request = burst
  words : burst.HasRead active.beatIndex memory.contents active.readWords
  beat : cache.AtBeat burst memory active

variable {active : ActiveCacheBurst}

/-- The burst behind the beats in front of the end. -/
theorem BurstingAs.behind (h : cache.BurstingAs id burst memory active) {active' : ActiveCacheBurst}
    {s : CacheBank config × β} (hid : active'.id = active.id) (hrequest : active'.request = active.request)
    (hwords : burst.HasRead active'.beatIndex memory.contents active'.readWords)
    (hbeat : { cache.behind s with activeBurst := some active' }.AtBeat burst memory active') :
    { cache.behind s with activeBurst := some active' }.BurstingAs id burst memory active' where
  config := h.config
  maintenance := h.maintenance
  within := h.within
  slot := rfl
  sameId := hid.trans h.sameId
  sameRequest := hrequest.trans h.sameRequest
  words := hwords
  beat := hbeat

/-- An advance of a burst: the next beat is done, or the burst waits, or it is at its end. -/
structure Advance (id : U64) (burst : BurstRequest) (memory : FlatMemory) (active active' : ActiveCacheBurst)
    (cache' : DirectMappedCache config β) : Prop where
  burst : cache'.BurstingAs id burst memory active'
  -- an accepted burst is one beat further
  further : ∀ beat beats, active'.phase = .accepted beat beats →
    (∃ beat' beats', active.phase = .accepted beat' beats') → active.beatIndex < active'.beatIndex

/-- A beat that the bank answers, or makes wait. -/
theorem advances_beat (h : cache.BurstingAs id burst memory active)
    (hindex : active.beatIndex < burst.beats)
    (hphase : ∀ completedBeats, active.phase ≠ .ready completedBeats)
    (hfailed : ∀ error, active.phase ≠ .failed error)
    (hends : Ends False (cache.bank.access cache.inner (burst.beatCall active.beatIndex))
      (CacheBank.Answers .whole (burst.beatCall active.beatIndex) (memory.behind burst active.beatIndex))
      (CacheBank.Delays .whole (burst.beatCall active.beatIndex)
        (memory.behind burst active.beatIndex))) :
    ∃ active' cache', cache.advanceActiveBurst = (.ok (), cache') ∧
      Advance id burst memory active active' cache' := by
  have hserving : cache.Serving (memory.behind burst active.beatIndex) := ⟨h.config, h.maintenance⟩
  have haccess := ends_access hserving hends
  unfold advanceActiveBurst
  rw [h.slot]
  dsimp only
  split
  · rename_i completedBeats hready
    exact absurd hready (hphase completedBeats)
  · rename_i error hfail
    exact absurd hfail (hfailed error)
  rw [h.sameRequest, executeBurstBeat_eq h.within.kind]
  generalize cache.access (burst.beatCall active.beatIndex) = out at haccess
  obtain ⟨(error | _ | _) | value, cache'⟩ := out
  · -- the bank makes the beat wait
    obtain ⟨s, rfl, hbusy, hwaits⟩ := haccess
    cases error with
    | busy remainingCycles =>
      let active' := { active with
        request := burst
        phase := .inFlight active.beatIndex burst.beats remainingCycles }
      have hburst : { cache.behind s with activeBurst := some active' }.BurstingAs id burst memory
          active' := h.behind rfl h.sameRequest.symm h.words ⟨hindex, hwaits⟩
      refine ⟨active', _, rfl, hburst, fun beat beats hphase' _ => ?_⟩
      cases hphase'
    | _ => cases hbusy
  · exact haccess.elim
  · exact haccess.elim
  · -- the beat is done
    obtain ⟨s, rfl, hvalue, hrests⟩ := haccess
    have hvalue := hvalue trivial
    have hcurrent : (⟨(memory.behind burst active.beatIndex).mapped,
        (burst.beatCall active.beatIndex).effect (memory.behind burst active.beatIndex).contents⟩ :
          FlatMemory) = memory.behind burst (active.beatIndex + 1) :=
      congrArg (FlatMemory.mk memory.mapped) (burst.effect_beatCall h.within hindex memory.contents)
    rw [hcurrent] at hrests
    have hwords := h.words.beat hindex
    rw [show (burst.beatCall active.beatIndex).answer (burst.effectUpTo active.beatIndex memory.contents) =
      value from hvalue.symm] at hwords
    have hbeat : { cache.behind s with activeBurst := some (active.completed (burst.beatWord value)) }.AtBeat
        burst memory (active.completed (burst.beatWord value)) := by
      unfold AtBeat ActiveCacheBurst.completed
      dsimp only
      rw [h.sameRequest]
      by_cases hlast : active.beatIndex + 1 = burst.beats
      · rw [if_pos hlast]
        exact ⟨hlast, hlast ▸ hrests⟩
      · rw [if_neg hlast]
        exact ⟨show active.beatIndex + 1 < burst.beats by omega, hrests⟩
    refine ⟨active.completed (burst.beatWord value), _, rfl, h.behind rfl rfl hwords hbeat, ?_⟩
    exact fun _ _ _ _ => Nat.lt_succ_self active.beatIndex

/-- **The next beat of a burst.** -/
theorem advances (h : cache.BurstingAs id burst memory active) :
    ∃ active' cache', cache.advanceActiveBurst = (.ok (), cache') ∧
      Advance id burst memory active active' cache' := by
  have hbeat := h.beat
  unfold AtBeat at hbeat
  cases hphase : active.phase with
  | accepted beat beats =>
    rw [hphase] at hbeat
    obtain ⟨hindex, hrests⟩ := hbeat
    obtain ⟨haligned, hmaps⟩ := h.within.beatCall hindex
    refine advances_beat h hindex (by rw [hphase]; nofun) (by rw [hphase]; nofun) ?_
    exact CacheBank.access_rests h.config haligned hmaps (charges_whole _ _) hrests
  | inFlight beat beats remainingCycles =>
    rw [hphase] at hbeat
    obtain ⟨hindex, hwaits⟩ := hbeat
    obtain ⟨haligned, hmaps⟩ := h.within.beatCall hindex
    refine advances_beat h hindex (by rw [hphase]; nofun) (by rw [hphase]; nofun) ?_
    exact CacheBank.access_waits h.config haligned hmaps (fun _ => trivial) hwaits
  | ready completedBeats =>
    refine ⟨active, cache, ?_, h, ?_⟩
    · unfold advanceActiveBurst
      rw [h.slot]
      dsimp only
      rw [hphase]
    · intro beat beats hphase'
      rw [hphase] at hphase'
      cases hphase'
  | failed error =>
    rw [hphase] at hbeat
    exact hbeat.elim

theorem burstingAs_tick_inner (h : cache.BurstingAs id burst memory active) :
    { cache with inner := Bus.tick cache.inner }.BurstingAs id burst memory active := by
  refine { h with beat := ?_ }
  have hbeat := h.beat
  unfold AtBeat at hbeat ⊢
  split
  · rename_i hphase
    rw [hphase] at hbeat
    exact ⟨hbeat.1, CacheBank.rests_tick hbeat.2⟩
  · rename_i hphase
    rw [hphase] at hbeat
    exact ⟨hbeat.1, CacheBank.waits_tick hbeat.2⟩
  · rename_i hphase
    rw [hphase] at hbeat
    exact ⟨hbeat.1, CacheBank.rests_tick hbeat.2⟩
  · rename_i hphase
    rw [hphase] at hbeat
    exact hbeat

theorem BurstingAs.filter (h : cache.BurstingAs id burst memory active) :
    cache.activeBurst.filter (·.id == id) = some active := by
  rw [h.slot, Option.filter_some, if_pos]
  rw [beq_iff_eq]
  exact h.sameId

theorem BurstingAs.phase (h : cache.BurstingAs id burst memory active) :
    cache.burstPhase id = some active.phase := by
  unfold burstPhase
  rw [h.filter]
  rfl

theorem BurstingAs.rounds (h : cache.BurstingAs id burst memory active) :
    cache.burstRounds id = burst.beats + 1 - active.beatIndex := by
  unfold burstRounds
  rw [h.filter]
  dsimp only
  rw [h.sameRequest]

theorem BurstingAs.le (h : cache.BurstingAs id burst memory active) :
    active.beatIndex ≤ burst.beats := by
  have hbeat := h.beat
  unfold AtBeat at hbeat
  split at hbeat
  · exact hbeat.1.le
  · exact hbeat.1.le
  · exact hbeat.1.le
  · exact hbeat.elim

/-- The response of a burst whose beats are done. -/
theorem BurstingAs.response (h : cache.BurstingAs id burst memory active)
    (hindex : active.beatIndex = burst.beats) (completedBeats : Nat) :
    burst.AnsweredBy memory.contents (active.response completedBeats) := by
  have hwords := h.words
  rw [hindex] at hwords
  unfold ActiveCacheBurst.response
  rw [h.sameRequest]
  exact hwords.answeredBy h.within.kind completedBeats

theorem advanceBurst_eq (h : cache.BurstingAs id burst memory active)
    {cache' : DirectMappedCache config β} (hadvance : cache.advanceActiveBurst = (.ok (), cache')) :
    BurstBus.advanceBurst cache id = (cache'.burstPhase id, cache') := by
  have hid : ¬ cache.activeBurst.all (·.id != id) = true := by
    rw [h.slot]
    simp [h.sameId]
  have hout : cache.advanceBurst id = (.ok (cache'.burstPhase id), cache') := by
    unfold advanceBurst
    rw [if_neg hid, hadvance]
    rfl
  simp only [BurstBus.advanceBurst, hout]

/-- **A unified cache in front of a memory is a memory.** -/
instance : MemoryContract (DirectMappedCache config β) where
  Quiet := QuietAs
  Awaiting := AwaitingAs
  Bursting id burst memory cache := ∃ active, cache.BurstingAs id burst memory active
  quiet_tick {memory cache} h := by
    show (cache.tick.2).QuietAs memory
    rw [Idle.tick ⟨h.maintenance, h.burst⟩]
    exact ⟨⟨h.config, h.maintenance⟩, h.burst, CacheBank.rests_tick h.bank⟩
  awaiting_tick {request memory cache} h := by
    show (cache.tick.2).AwaitingAs request memory
    rw [Idle.tick ⟨h.maintenance, h.burst⟩]
    exact ⟨⟨h.config, h.maintenance⟩, h.burst, CacheBank.waits_tick h.bank⟩
  bursting_tick {id burst memory cache} h := by
    obtain ⟨active, h⟩ := h
    obtain ⟨active', cache', hadvance, hburst, -⟩ := advances (burstingAs_tick_inner h)
    refine ⟨active', ?_⟩
    show (cache.tick.2).BurstingAs id burst memory active'
    unfold tick
    rw [hadvance]
    exact hburst
  not_busy {memory cache} h := by
    obtain ⟨hpending, lower, -, hquiet⟩ := h.bank
    show cache.isBusy = false
    unfold isBusy CacheBank.hasPendingActivity
    rw [h.maintenance, h.burst, hpending, not_busy hquiet]
    rfl
  call_quiet {request memory cache} haligned hmaps h :=
    answeredAs_access h.toServing h.burst
      (CacheBank.access_rests h.config haligned hmaps (charges_whole _ _) h.bank)
  call_awaiting {request memory cache} haligned hmaps h :=
    answeredAs_access h.toServing h.burst
      (CacheBank.access_waits h.config haligned hmaps (fun _ => trivial) h.bank)
  submit {burst memory cache} hwithin h := by
    obtain ⟨hpending, lower, -, hquiet⟩ := h.bank
    have hidle : cache.isBusy = false := by
      unfold isBusy CacheBank.hasPendingActivity
      rw [h.maintenance, h.burst, hpending, not_busy hquiet]
      rfl
    have hbeats := hwithin.beats_pos
    let active : ActiveCacheBurst :=
      { id := cache.nextBurstId, request := burst, beatIndex := 0
        readWords := List.replicate burst.beats 0, phase := .accepted 0 burst.beats }
    have hrests : cache.bank.Rests .whole (memory.behind burst 0) cache.inner := by
      unfold FlatMemory.behind
      rw [burst.effectUpTo_zero]
      exact h.bank
    refine ⟨cache.nextBurstId,
      { cache with nextBurstId := cache.nextBurstId + 1, activeBurst := some active }, ?_, active,
      ⟨h.config, h.maintenance⟩, hwithin, rfl, rfl, rfl, .zero burst memory.contents, hbeats, hrests⟩
    show surfaced (cache.submitBurst burst) = _
    unfold submitBurst
    rw [hidle, if_neg Bool.false_ne_true, if_neg (by omega)]
    rfl
  phase {id burst memory cache} h := by
    obtain ⟨active, h⟩ := h
    refine ⟨active.phase, h.phase, fun error hphase => ?_⟩
    have hbeat := h.beat
    unfold AtBeat at hbeat
    rw [hphase] at hbeat
    exact hbeat
  advance {id burst memory cache} h := by
    obtain ⟨active, h⟩ := h
    obtain ⟨active', cache', hadvance, hburst, -⟩ := advances h
    rw [advanceBurst_eq h hadvance]
    exact ⟨rfl, active', hburst⟩
  take {id burst memory cache beats} h hphase := by
    obtain ⟨active, h⟩ := h
    have hready : active.phase = .ready beats := Option.some.inj (h.phase.symm.trans hphase)
    have hbeat := h.beat
    unfold AtBeat at hbeat
    rw [hready] at hbeat
    obtain ⟨hindex, hrests⟩ := hbeat
    refine ⟨active.response beats, { cache with activeBurst := none }, ?_, h.response hindex beats, ?_⟩
    · show cache.takeBurstResponse id = _
      unfold takeBurstResponse
      rw [h.filter]
      dsimp only
      rw [hready]
    · refine ⟨⟨h.config, h.maintenance⟩, rfl, ?_⟩
      unfold FlatMemory.behind at hrests
      rw [burst.effectUpTo_beats] at hrests
      exact hrests
  rounds_pos {id burst memory cache} h := by
    obtain ⟨active, h⟩ := h
    have hle := h.le
    show 1 ≤ cache.burstRounds id
    rw [h.rounds]
    omega
  rounds_accepted {id burst memory cache beat beats} h hphase := by
    obtain ⟨active, h⟩ := h
    have haccepted : active.phase = .accepted beat beats := Option.some.inj (h.phase.symm.trans hphase)
    have hbeat := h.beat
    unfold AtBeat at hbeat
    rw [haccepted] at hbeat
    have hindex := hbeat.1
    show 2 ≤ cache.burstRounds id
    rw [h.rounds]
    omega
  rounds_advance {id burst memory cache beat beats beat' beats'} h hphase hphase' := by
    obtain ⟨active, h⟩ := h
    obtain ⟨active', cache', hadvance, hburst, hfurther⟩ := advances h
    have haccepted : active.phase = .accepted beat beats := Option.some.inj (h.phase.symm.trans hphase)
    rw [advanceBurst_eq h hadvance] at hphase' ⊢
    have haccepted' : active'.phase = .accepted beat' beats' :=
      Option.some.inj (hburst.phase.symm.trans hphase')
    have hlt := hfurther beat' beats' haccepted' ⟨beat, beats, haccepted⟩
    have hle := h.le
    show cache'.burstRounds id < cache.burstRounds id
    rw [h.rounds, hburst.rounds]
    omega

end DirectMappedCache

end RvSim
