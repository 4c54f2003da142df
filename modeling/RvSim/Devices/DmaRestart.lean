import RvSim.Automata.Run
import RvSim.Devices.DmaFlights

/-!
# Runs of the DMA controller

A transfer that is left alone copies its range, whatever the order of the steps. A controller whose
transfers start with no request outstanding pairs every response with its own request.

## Main definitions

* `DmaSystem.Sound`: the invariant of a system whose transfers start with no request outstanding

## Main results

* `transfer_copies`: a transfer copies its range
* `restarts_paired`: responses are for requests of the transfer that they change
* `late_response_paired`: a transfer that starts with a request outstanding takes its response
-/

namespace RvSim

open Automata ByteMemory Flight

/-- Some outstanding request has failed. -/
def Failing (sys : DmaSystem) : Prop :=
  ∃ out ∈ sys.outstanding, ∃ error, out.response = some (.error error)

/-- How far the current transfer is. -/
def Progress (sys : DmaSystem) : Prop :=
  match sys.dma.active with
  | none => sys.dma.done = true → sys.outstanding = [] ∧ Copied sys.transfer sys
  | some active => sys.dma.done = false ∧
    (Failing sys ∨ ∃ answered queue ready count, Transferring sys active answered queue ready count)

/-- The requests that the controller waits for are the outstanding ones, in order. -/
def Matched (sys : DmaSystem) : Prop :=
  ∀ active, sys.dma.active = some active →
    List.Forall₂ (fun issued out => out.transfer = sys.number ∧ IssuedDmaRequest.Matches issued out.request)
      active.issuedRequests sys.outstanding

/-- The invariant of the system. -/
structure DmaSystem.Sound (sys : DmaSystem) : Prop where
  matched : Matched sys
  progress : sys.transfer.Disjoint → Progress sys

/-! ## Responses are paired -/

namespace DmaController

/-- A request is asked for. -/
theorem request_cases (dma : DmaController) :
    dma.request = (none, dma) ∨ ∃ active active' request, dma.active = some active ∧
      nextRequest active = some (request, active') ∧
      dma.request = (some request, { dma with active := some active' }) := by
  unfold request
  cases hactive : dma.active with
  | none => exact .inl rfl
  | some active =>
    cases hnext : (some active).bind nextRequest with
    | none => exact .inl rfl
    | some asked => exact .inr ⟨active, asked.2, asked.1, rfl, hnext, rfl⟩

/-- A response that is not paired ends the transfer. -/
theorem onResponse_cases {dma : DmaController} {active : ActiveTransfer} (hactive : dma.active = some active)
    (response : Except BusError BusMasterResponse) :
    ((dma.onResponse response).active = none ∧ (dma.onResponse response).done = dma.done) ∨
      ∃ issued rest dma' active', active.issuedRequests = issued :: rest ∧
        dma.pair { active with issuedRequests := rest } issued response = some (dma', active') ∧
        dma.onResponse response = if active'.isComplete then { dma' with active := none, done := true }
          else { dma' with active := some active' } := by
  unfold onResponse
  rw [hactive]
  dsimp only
  split
  · exact .inl ⟨rfl, rfl⟩
  · rename_i issued rest hissued
    split
    · exact .inl ⟨rfl, rfl⟩
    · rename_i dma' active' hpair
      exact .inr ⟨issued, rest, dma', active', hissued, hpair, rfl⟩

/-- A response that is paired. -/
theorem onResponse_pair {dma dma' : DmaController} {active active' : ActiveTransfer}
    {issued : IssuedDmaRequest} {rest : List IssuedDmaRequest}
    (response : Except BusError BusMasterResponse) (hactive : dma.active = some active)
    (hissued : active.issuedRequests = issued :: rest)
    (hpair : dma.pair { active with issuedRequests := rest } issued response = some (dma', active')) :
    dma.onResponse response = if active'.isComplete then { dma' with active := none, done := true }
      else { dma' with active := some active' } := by
  unfold onResponse
  rw [hactive]
  dsimp only
  rw [hissued]
  dsimp only
  rw [hpair]

/-- A response that is paired leaves the other requests, and it has not failed. -/
theorem pair_some {dma dma' : DmaController} {active active' : ActiveTransfer} {issued : IssuedDmaRequest}
    {response : Except BusError BusMasterResponse}
    (h : dma.pair active issued response = some (dma', active')) :
    active'.issuedRequests = active.issuedRequests ∧ dma'.done = dma.done ∧
      ∃ answer, response = .ok answer := by
  unfold pair at h
  split at h
  · split at h
    · cases h
      exact ⟨rfl, rfl, _, rfl⟩
    · cases h
  · split at h
    · cases h
      exact ⟨rfl, rfl, _, rfl⟩
    · cases h
  · cases h

end DmaController

/-- The requests that are issued for. -/
theorem nextRequest_matches {active active' : ActiveTransfer} {request : BusMasterRequest}
    (h : DmaController.nextRequest active = some (request, active')) :
    ∃ issued, active'.issuedRequests = active.issuedRequests ++ [issued] ∧ issued.Matches request := by
  rcases nextRequest_cases h with ⟨write, rest, -, rfl, rfl⟩ | ⟨-, hread⟩
  · exact ⟨_, rfl, rfl⟩
  · obtain ⟨rfl, rfl⟩ := Prod.mk.inj hread
    exact ⟨_, rfl, rfl⟩

namespace DmaSystem

/-- A store to a register, as a step. -/
theorem withDma_kept {sys : DmaSystem} {dma : DmaController} (h : dma.active = sys.dma.active) :
    sys.withDma dma = { sys with dma } := by
  refine if_neg ?_
  rintro ⟨hidle, hactive⟩
  exact hactive (h.trans hidle)

/-- The requests of `performAt` stay as they are. -/
theorem performAt_outstanding (sys : DmaSystem) (index : Nat) (outcome : DmaOutcome) :
    sys.performAt index outcome = sys ∨
      ∃ request transfer response, sys.outstanding[index]? = some ⟨request, none, transfer⟩ ∧
        (sys.performAt index outcome).outstanding =
          sys.outstanding.set index ⟨request, some response, transfer⟩ ∧
        (sys.performAt index outcome).dma = sys.dma ∧
        (sys.performAt index outcome).number = sys.number ∧
        (sys.performAt index outcome).transfer = sys.transfer := by
  unfold performAt
  split
  · rename_i request transfer hat
    cases outcome with
    | effect => exact .inr ⟨request, transfer, _, hat, rfl, rfl, rfl, rfl⟩
    | failed error memory => exact .inr ⟨request, transfer, _, hat, rfl, rfl, rfl, rfl⟩
  · exact .inl rfl

end DmaSystem

/-- **One step** keeps the pairing. -/
theorem Matched.next {sys : DmaSystem} (h : Matched sys) {step : DmaStep} (hclean : StartsClean sys step) :
    Matched (sys.next step) := by
  cases step with
  | issue =>
    unfold DmaSystem.next
    rcases sys.dma.request_cases with hnone | ⟨active, active', request, hactive, hnext, hsome⟩
    · rw [show BusMaster.request sys.dma = sys.dma.request from rfl, hnone]
      exact h
    · rw [show BusMaster.request sys.dma = sys.dma.request from rfl, hsome]
      -- the request goes to the end of both lists
      rintro _ ⟨⟩
      obtain ⟨issued, hissued, hmatches⟩ := nextRequest_matches hnext
      dsimp only
      rw [hissued]
      exact List.rel_append (h active hactive) (.cons ⟨rfl, hmatches⟩ .nil)
  | perform index outcome =>
    show Matched (sys.performAt index outcome)
    rcases sys.performAt_outstanding index outcome with hsame |
      ⟨request, transfer, response, hat, hout, hdma, hnumber, -⟩
    · rw [hsame]
      exact h
    -- an effect writes a response into its place and moves nothing
    · intro active hactive
      rw [hdma] at hactive
      have hold := h active hactive
      rw [hout, hnumber]
      obtain ⟨hlength, hget⟩ := List.forall₂_iff_get.1 hold
      refine List.forall₂_iff_get.2 ⟨by rw [List.length_set, hlength], fun i hi hi' => ?_⟩
      have hthis := hget i hi (by rwa [hlength] at hi)
      rw [List.get_eq_getElem, List.getElem_set]
      split
      · rename_i heq
        subst heq
        obtain ⟨hlt, hget⟩ := List.getElem?_eq_some_iff.1 hat
        rw [List.get_eq_getElem, hget] at hthis
        exact hthis
      · exact hthis
  | respond =>
    unfold DmaSystem.next
    dsimp only
    split
    · rename_i request response transfer rest hout
      intro active' hactive'
      dsimp only at hactive'
      cases hactive : sys.dma.active with
      | none =>
        rw [show BusMaster.onResponse sys.dma response = sys.dma.onResponse response from rfl] at hactive'
        unfold DmaController.onResponse at hactive'
        rw [hactive] at hactive'
        rw [hactive] at hactive'
        cases hactive'
      | some active =>
        have hold := h active hactive
        rw [hout] at hold
        -- a response is taken off the front of both lists, or ends the transfer
        rcases DmaController.onResponse_cases hactive response with ⟨hnone, -⟩ |
          ⟨issued, rest', dma', active'', hissued, hpair, hafter⟩
        · exact absurd (hnone.symm.trans hactive') (by simp)
        · rw [show BusMaster.onResponse sys.dma response = sys.dma.onResponse response from rfl,
            hafter] at hactive'
          split at hactive'
          · cases hactive'
          · cases hactive'
            rw [(DmaController.pair_some hpair).1]
            rw [hissued] at hold
            cases hold with
            | cons _ hrest => exact hrest
    · exact h
  | store addr value =>
    show Matched (sys.withDma (sys.dma.store8 addr value).2)
    cases sys.dma.effect_store8 addr value with
    | kept hactive _ _ =>
      rw [DmaSystem.withDma_kept hactive]
      rintro active hactive'
      exact h active (hactive.symm.trans hactive')
    | refused hidle hactive _ =>
      rw [DmaSystem.withDma_kept (hactive.trans hidle.symm)]
      rintro active hactive'
      exact absurd (hactive.symm.trans hactive') (by simp)
    -- a new transfer has issued nothing, and nothing of an old one is outstanding
    | began hidle _ _ hactive =>
      have hnew : (sys.dma.store8 addr value).2.active ≠ none := by rw [hactive]; simp
      have hempty : sys.outstanding = [] := hclean hidle hnew
      unfold DmaSystem.withDma
      rw [if_pos ⟨hidle, hnew⟩]
      rintro active hactive'
      cases hactive.symm.trans hactive'
      rw [hempty]
      exact .nil

/-! ## Transfers make progress -/

section Progress

variable {sys : DmaSystem}

theorem progress_none (hidle : sys.dma.active = none) :
    Progress sys ↔ (sys.dma.done = true → sys.outstanding = [] ∧ Copied sys.transfer sys) := by
  unfold Progress
  rw [hidle]

theorem progress_some {active : ActiveTransfer} (hactive : sys.dma.active = some active) :
    Progress sys ↔ sys.dma.done = false ∧
      (Failing sys ∨
        ∃ answered queue ready count, Transferring sys active answered queue ready count) := by
  unfold Progress
  rw [hactive]

/-- A transfer that starts with no request outstanding. -/
theorem progress_began {dma : DmaController} (hidle : sys.dma.active = none) (hdone : dma.done = false)
    (htransferred : dma.transferredWords = 0)
    (hactive : dma.active = some {
      nextSource := dma.source.setWidth 64, nextDestination := dma.destination.setWidth 64
      remainingWords := dma.lengthWords })
    (hempty : sys.outstanding = []) : Progress (sys.withDma dma) := by
  have hnew : dma.active ≠ none := by rw [hactive]; simp
  unfold DmaSystem.withDma
  rw [if_pos ⟨hidle, hnew⟩]
  refine (progress_some hactive).2 ⟨hdone, .inr ⟨[], [], [], 0, ?_⟩⟩
  refine ⟨rfl, hempty, rfl, by simp, by simp, dma.lengthWords.isLt, (BitVec.add_zero _).symm,
    (BitVec.add_zero _).symm, Nat.zero_add _, ?_, htransferred, (copied_nil _ _ _).symm, .refl _, .refl _⟩
  show (List.range' 0 dma.lengthWords.toNat).Perm (List.range dma.lengthWords.toNat)
  rw [List.range_eq_range']

theorem Progress.issue (h : Progress sys) : Progress (sys.next .issue) := by
  unfold DmaSystem.next
  rcases sys.dma.request_cases with hnone | ⟨active, active', request, hactive, hnext, hsome⟩
  · rw [show BusMaster.request sys.dma = sys.dma.request from rfl, hnone]
    exact h
  · rw [show BusMaster.request sys.dma = sys.dma.request from rfl, hsome]
    obtain ⟨hdone, hrunning⟩ := (progress_some hactive).1 h
    refine (progress_some rfl).2 ⟨hdone, ?_⟩
    rcases hrunning with ⟨out, hout, hfailed⟩ | ⟨answered, queue, ready, count, htransferring⟩
    · exact .inl ⟨out, List.mem_append_left _ hout, hfailed⟩
    · refine .inr ?_
      rcases nextRequest_cases hnext with ⟨write, rest, hready, rfl, rfl⟩ | ⟨-, hread⟩
      · obtain ⟨segment, ready', hnew⟩ := htransferring.issueWrite hready
          { sys.dma with active := some _ } rfl
        exact ⟨_, _, _, _, hnew⟩
      · obtain ⟨rfl, rfl⟩ := Prod.mk.inj hread
        obtain ⟨beats, hnew⟩ := htransferring.issueRead { sys.dma with active := some _ } rfl
        exact ⟨_, _, _, _, hnew⟩

/-- A failed request stays outstanding. -/
theorem Failing.performAt (h : Failing sys) (index : Nat) (outcome : DmaOutcome) :
    Failing (sys.performAt index outcome) := by
  rcases sys.performAt_outstanding index outcome with hsame |
    ⟨request, transfer, response, hat, hout, -, -, -⟩
  · rw [hsame]
    exact h
  · obtain ⟨out, hmem, error, hfailed⟩ := h
    obtain ⟨i, hi⟩ := List.mem_iff_getElem?.1 hmem
    refine ⟨out, ?_, error, hfailed⟩
    rw [hout]
    refine List.mem_iff_getElem?.2 ⟨i, ?_⟩
    rw [List.getElem?_set_ne, hi]
    rintro rfl
    rw [hat] at hi
    cases hi
    cases hfailed

theorem Progress.perform (hdisjoint : sys.transfer.Disjoint) (h : Progress sys) (index : Nat)
    (outcome : DmaOutcome) : Progress (sys.performAt index outcome) := by
  rcases sys.performAt_outstanding index outcome with hsame |
    ⟨request, transfer, response, hat, hout, hdma, -, -⟩
  · rw [hsame]
    exact h
  cases hactive : sys.dma.active with
  | none =>
    refine (progress_none (by rw [hdma, hactive])).2 fun hdone => ?_
    rw [hdma] at hdone
    rw [((progress_none hactive).1 h hdone).1] at hat
    cases hat
  | some active =>
    obtain ⟨hdone, hrunning⟩ := (progress_some hactive).1 h
    refine (progress_some (by rw [hdma, hactive])).2 ⟨by rw [hdma, hdone], ?_⟩
    rcases hrunning with hfailing | ⟨answered, queue, ready, count, htransferring⟩
    · exact .inl (hfailing.performAt index outcome)
    cases outcome with
    | effect =>
      -- the request is one in flight, and has no response yet
      have hflight := hat
      rw [htransferring.outstanding, List.getElem?_map, Option.map_eq_some_iff] at hflight
      obtain ⟨flight, hflight, hpending⟩ := hflight
      obtain ⟨hlt, hget⟩ := List.getElem?_eq_some_iff.1 hflight
      have hsplit : queue = queue.take index ++ flight :: queue.drop (index + 1) := by
        rw [← hget, List.getElem_cons_drop, List.take_append_drop]
      have hindex : (queue.take index).length = index := by
        rw [List.length_take, Nat.min_eq_left hlt.le]
      rw [hsplit] at htransferring
      have hperformed : flight.performed = false := by
        cases hcase : flight.performed with
        | false => rfl
        | true =>
          unfold Flight.outstanding at hpending
          rw [hcase] at hpending
          cases hpending
      have hnew := htransferring.perform hdisjoint hperformed
      rw [hindex] at hnew
      exact .inr ⟨_, _, _, _, hnew⟩
    -- an error stays outstanding until it is handed out, and the transfer cannot be done before
    | failed error memory =>
      refine .inl ⟨⟨request, some (.error error), transfer⟩, ?_, error, rfl⟩
      unfold DmaSystem.performAt
      rw [hat]
      exact List.mem_iff_getElem?.2 ⟨index, List.getElem?_set_self (List.getElem?_eq_some_iff.1 hat).1⟩

/-- The oldest request of a transfer without failures is answered. -/
theorem Transferring.respond {active : ActiveTransfer} {answered : List Nat} {flight : Flight}
    {queue : List Flight} {ready : List (Nat × Nat)} {count : Nat}
    (h : Transferring sys active answered (flight :: queue) ready count)
    (hactive : sys.dma.active = some active) (hdone : sys.dma.done = false)
    (hperformed : flight.performed = true) :
    Progress { sys with
      dma := sys.dma.onResponse (.ok (flight.response sys.transfer))
      outstanding := queue.map (Flight.outstanding sys.transfer sys.number) } := by
  obtain ⟨isRead, start, beats, performed⟩ := flight
  cases hperformed
  have hlength : (data sys.transfer start beats).length = beats := length_words _ _ _
  cases isRead with
  | true =>
    have hpair := DmaController.onResponse_pair (.ok (.readWords (data sys.transfer start beats)))
      hactive h.issued (if_pos hlength)
    -- the words that were read are waiting to be written
    have hincomplete : ({ active with
        issuedRequests := queue.map (Flight.issued sys.transfer)
        readyWrites := active.readyWrites ++
          [⟨wordAddr sys.transfer.destination start, data sys.transfer start beats⟩] } :
        ActiveTransfer).isComplete = false := by
      simp [ActiveTransfer.isComplete]
    show Progress { sys with
      dma := sys.dma.onResponse (.ok (.readWords (data sys.transfer start beats))), outstanding := _ }
    rw [hpair]
    rw [if_neg (by rw [hincomplete]; decide)]
    exact (progress_some rfl).2 ⟨hdone, .inr ⟨_, _, _, _, h.answerRead _ rfl⟩⟩
  | false =>
    have hpair := DmaController.onResponse_pair (.ok (.writeWordsComplete beats)) hactive h.issued
      (if_pos rfl)
    show Progress { sys with
      dma := sys.dma.onResponse (.ok (.writeWordsComplete beats)), outstanding := _ }
    rw [hpair]
    split
    · rename_i hcomplete
      -- nothing is in flight, ready or left, so that every word has been copied
      refine (progress_none rfl).2 fun _ => ?_
      simp only [ActiveTransfer.isComplete, Bool.and_eq_true, beq_iff_eq, List.isEmpty_iff] at hcomplete
      obtain ⟨⟨hremaining, hready⟩, hqueue⟩ := hcomplete
      have hqueue : queue = [] := List.map_eq_nil_iff.1 hqueue
      have hready : ready = [] := by
        rw [h.readyWrites] at hready
        exact List.map_eq_nil_iff.1 hready
      subst hqueue
      subst hready
      have hnew := h.answerWrite
        { sys.dma with
          transferredWords := sys.dma.transferredWords + BitVec.ofNat 32 beats
          active := none
          done := true } rfl
      exact ⟨rfl, hnew.copied hremaining⟩
    · exact (progress_some rfl).2 ⟨hdone, .inr ⟨_, _, _, _, h.answerWrite _ rfl⟩⟩

theorem Progress.respond (hmatched : Matched sys) (h : Progress sys) : Progress (sys.next .respond) := by
  unfold DmaSystem.next
  dsimp only
  split
  case h_2 => exact h
  rename_i request response transfer rest hout
  show Progress { sys with dma := sys.dma.onResponse response, outstanding := rest }
  cases hactive : sys.dma.active with
  | none =>
    -- without a transfer a response is dropped
    have hsame : sys.dma.onResponse response = sys.dma := by
      unfold DmaController.onResponse
      rw [hactive]
    rw [hsame]
    have hidle : DmaController.active { sys with outstanding := rest }.dma = none := hactive
    refine (progress_none hidle).2 fun hdone => ?_
    exact absurd ((progress_none hactive).1 h hdone).1 (by rw [hout]; simp)
  | some active =>
    obtain ⟨hdone, hfailing | ⟨answered, queue, ready, count, htransferring⟩⟩ := (progress_some hactive).1 h
    · rcases DmaController.onResponse_cases hactive response with ⟨hnone, hkept⟩ |
        ⟨issued, rest', dma', active', hissued, hpair, hafter⟩
      · refine (progress_none hnone).2 fun hdone' => ?_
        rw [show _ = sys.dma.done from hkept, hdone] at hdone'
        cases hdone'
      · obtain ⟨hrequests, hdone', answer, rfl⟩ := DmaController.pair_some hpair
        have hrest : ∃ out ∈ rest, ∃ error, out.response = some (.error error) := by
          obtain ⟨out, hmem, error, hfailed⟩ := hfailing
          rw [hout] at hmem
          rcases List.mem_cons.1 hmem with rfl | hmem
          · cases hfailed
          · exact ⟨out, hmem, error, hfailed⟩
        rw [hafter]
        split
        · -- The failed request is still waited for, so the transfer is not complete.
          rename_i hcomplete
          simp only [ActiveTransfer.isComplete, Bool.and_eq_true, List.isEmpty_iff] at hcomplete
          rw [hrequests] at hcomplete
          have hlength := (hmatched active hactive).length_eq
          rw [hissued, hout, show rest' = [] from hcomplete.2] at hlength
          obtain ⟨out, hmem, -⟩ := hrest
          rw [List.eq_nil_of_length_eq_zero (Nat.succ.inj hlength).symm] at hmem
          cases hmem
        · exact (progress_some rfl).2 ⟨hdone'.trans hdone, .inl hrest⟩
    · have hqueue := htransferring.outstanding
      rw [hout] at hqueue
      -- the response is that of the oldest request in flight
      obtain _ | ⟨flight, queue⟩ := queue
      · cases hqueue
      obtain ⟨hhead, rfl⟩ := List.cons.inj hqueue
      have hresponse : some response = if flight.performed then some (.ok (flight.response sys.transfer))
        else none := congrArg OutstandingDma.response hhead
      split at hresponse
      · rename_i hperformed
        cases hresponse
        exact htransferring.respond hactive hdone hperformed
      · cases hresponse

theorem Progress.store (addr : Address) (value : U8) (hclean : StartsClean sys (.store addr value))
    (h : sys.transfer.Disjoint → Progress sys)
    (hdisjoint : (sys.next (.store addr value)).transfer.Disjoint) :
    Progress (sys.next (.store addr value)) := by
  unfold DmaSystem.next at hdisjoint ⊢
  dsimp only at hdisjoint ⊢
  rw [show Addressable.store8 sys.dma addr value = sys.dma.store8 addr value from rfl] at hdisjoint ⊢
  cases sys.dma.effect_store8 addr value with
  | kept hactive htransferred hdone =>
    rw [DmaSystem.withDma_kept hactive] at hdisjoint ⊢
    have hold := h hdisjoint
    cases hcase : sys.dma.active with
    | none =>
      refine (progress_none (hactive.trans hcase)).2 fun hdone' => ?_
      obtain ⟨hempty, hcopied⟩ := (progress_none hcase).1 hold (hdone hdone')
      exact ⟨hempty, hcopied.contents, hcopied.frame, hcopied.reads, hcopied.writes,
        htransferred.trans hcopied.transferred⟩
    | some active =>
      obtain ⟨hdone', hrunning⟩ := (progress_some hcase).1 hold
      refine (progress_some (hactive.trans hcase)).2 ⟨?_, hrunning.imp id ?_⟩
      · cases hnew : (sys.dma.store8 addr value).2.done with
        | false => rfl
        | true => exact absurd (hdone'.symm.trans (hdone hnew)) (by decide)
      · rintro ⟨answered, queue, ready, count, ht⟩
        exact ⟨answered, queue, ready, count, ht.issued, ht.outstanding, ht.readyWrites, ht.inRange,
          ht.readyInRange, ht.small, ht.source, ht.destination, ht.remaining, ht.cover,
          htransferred.trans ht.transferred, ht.memory, ht.writes, ht.reads⟩
  | refused hidle hactive hdone =>
    rw [DmaSystem.withDma_kept (hactive.trans hidle.symm)]
    refine (progress_none hactive).2 fun hdone' => ?_
    cases hdone.symm.trans hdone'
  | began hidle hdone htransferred hactive =>
    exact progress_began hidle hdone htransferred hactive (hclean hidle (by rw [show
      Addressable.store8 sys.dma addr value = sys.dma.store8 addr value from rfl, hactive]; simp))

end Progress

/-- **One step** keeps the invariant, if no transfer starts in it while a request is outstanding. -/
theorem DmaSystem.Sound.next {sys : DmaSystem} (h : sys.Sound) {step : DmaStep}
    (hclean : StartsClean sys step) : (sys.next step).Sound := by
  refine ⟨h.matched.next hclean, fun hdisjoint => ?_⟩
  cases step with
  | issue =>
    refine (h.progress ?_).issue
    rwa [show (sys.next .issue).transfer = sys.transfer by
      unfold DmaSystem.next
      dsimp only
      split <;> rfl] at hdisjoint
  | perform index outcome =>
    have hsame : (sys.performAt index outcome).transfer = sys.transfer := by
      rcases sys.performAt_outstanding index outcome with hsame | ⟨-, -, -, -, -, -, -, htransfer⟩
      · rw [hsame]
      · exact htransfer
    have hdisjoint : sys.transfer.Disjoint := by rwa [← hsame]
    exact (h.progress hdisjoint).perform hdisjoint index outcome
  | respond =>
    refine (h.progress ?_).respond h.matched
    rwa [show (sys.next .respond).transfer = sys.transfer by
      unfold DmaSystem.next
      dsimp only
      split <;> rfl] at hdisjoint
  | store addr value => exact Progress.store addr value hclean h.progress hdisjoint

/-! ## Runs -/

/-- A response is for a request of the transfer that it changes. -/
theorem Matched.respondsToOwn {sys : DmaSystem} (h : Matched sys) (step : DmaStep) :
    RespondsToOwn sys step := by
  unfold RespondsToOwn
  split
  case h_2 => trivial
  rename_i request response transfer rest hout
  intro hchanged
  cases hactive : sys.dma.active with
  | none =>
    refine absurd ?_ hchanged
    show sys.dma.onResponse response = sys.dma
    unfold DmaController.onResponse
    rw [hactive]
  | some active =>
    have hmatches := h active hactive
    rw [hout] at hmatches
    cases hissued : active.issuedRequests with
    | nil =>
      rw [hissued] at hmatches
      cases hmatches
    | cons issued rest' =>
      rw [hissued] at hmatches
      cases hmatches with
      | cons hhead _ => exact ⟨hhead.1, active, issued, rest', rfl, hissued, hhead.2⟩

/-- A transfer that is done has copied its range. -/
theorem DmaSystem.Sound.copied {sys : DmaSystem} (h : sys.Sound) (hdisjoint : sys.transfer.Disjoint)
    (hdone : sys.dma.done = true) : sys.outstanding = [] ∧ Copied sys.transfer sys := by
  have hprogress := h.progress hdisjoint
  cases hactive : sys.dma.active with
  | none => exact (progress_none hactive).1 hprogress hdone
  | some active => exact absurd (hdone.symm.trans ((progress_some hactive).1 hprogress).1) (by decide)

/-- A controller that waits for nothing. -/
theorem DmaSystem.sound_idle {sys : DmaSystem} (hidle : sys.dma.active = none)
    (hdone : sys.dma.done = false) : sys.Sound := by
  refine ⟨fun active hactive => ?_, fun _ => (progress_none hidle).2 fun hdone' => ?_⟩
  · rw [hidle] at hactive
    cases hactive
  · rw [hdone] at hdone'
    cases hdone'

/-- The system of a controller and a memory, with no request outstanding. The transfer is the one that the
registers describe. -/
def DmaSystem.of (dma : DmaController) (memory : ByteMemory) : DmaSystem where
  dma
  memory
  transfer := ⟨dma.source.setWidth 64, dma.destination.setWidth 64, dma.lengthWords.toNat, memory⟩

/-- The control register leaves the others. -/
theorem applyControlByte_registers (dma : DmaController) (value : U8) :
    (dma.applyControlByte value).source = dma.source ∧
      (dma.applyControlByte value).destination = dma.destination ∧
      (dma.applyControlByte value).lengthWords = dma.lengthWords := by
  have hstart (flags : DmaController) : flags.startTransfer.source = flags.source ∧
      flags.startTransfer.destination = flags.destination ∧
      flags.startTransfer.lengthWords = flags.lengthWords := by
    unfold DmaController.startTransfer
    split
    · exact ⟨rfl, rfl, rfl⟩
    · dsimp only
      split <;> exact ⟨rfl, rfl, rfl⟩
  unfold DmaController.applyControlByte
  dsimp only
  split
  · rw [(hstart _).1, (hstart _).2.1, (hstart _).2.2]
    split <;> split <;> exact ⟨rfl, rfl, rfl⟩
  · split <;> split <;> exact ⟨rfl, rfl, rfl⟩

/-- A transfer that starts is not done. -/
theorem applyControlByte_start {dma : DmaController} {value : U8} (hidle : dma.active = none)
    (hstart : (value.setWidth 32 : U32) &&& DmaController.controlStart ≠ 0) :
    (dma.applyControlByte value).done = false := by
  have hdone {flags : DmaController} (hactive : flags.active = none) : flags.startTransfer.done = false := by
    unfold DmaController.startTransfer
    rw [if_neg (by unfold DmaController.isBusy; rw [hactive]; decide)]
    dsimp only
    split <;> rfl
  unfold DmaController.applyControlByte
  dsimp only
  rw [if_pos hstart]
  refine hdone ?_
  split <;> split <;> exact hidle

/-- The system in which a transfer starts. -/
theorem sound_start {dma : DmaController} (memory : ByteMemory) {value : U8} (hidle : dma.active = none)
    (hstart : (value.setWidth 32 : U32) &&& DmaController.controlStart ≠ 0) :
    ((DmaSystem.of dma memory).withDma (dma.applyControlByte value)).Sound ∧
      ((DmaSystem.of dma memory).withDma (dma.applyControlByte value)).transfer =
        (DmaSystem.of dma memory).transfer := by
  have hdone := applyControlByte_start hidle hstart
  obtain ⟨hsource, hdestination, hlength⟩ := applyControlByte_registers dma value
  cases dma.effect_applyControlByte value with
  | kept hactive _ _ =>
    rw [DmaSystem.withDma_kept hactive]
    exact ⟨DmaSystem.sound_idle (hactive.trans hidle) hdone, rfl⟩
  | refused _ hactive _ =>
    rw [DmaSystem.withDma_kept (hactive.trans hidle.symm)]
    exact ⟨DmaSystem.sound_idle hactive hdone, rfl⟩
  | began _ _ htransferred hactive =>
    refine ⟨⟨?_, fun _ => progress_began hidle hdone htransferred hactive rfl⟩, ?_⟩
    · unfold DmaSystem.withDma
      rw [if_pos ⟨hidle, by rw [hactive]; simp⟩]
      rintro active hactive'
      cases hactive.symm.trans hactive'
      exact .nil
    · unfold DmaSystem.withDma
      rw [if_pos ⟨hidle, by rw [hactive]; simp⟩, hsource, hdestination, hlength]
      rfl

/-- A transfer that is left alone stays the transfer. -/
theorem TransferStep.transfer_eq {sys : DmaSystem} {step : DmaStep} (h : TransferStep sys step) :
    StartsClean sys step ∧ (sys.next step).transfer = sys.transfer := by
  cases step with
  | issue =>
    refine ⟨trivial, ?_⟩
    unfold DmaSystem.next
    dsimp only
    split <;> rfl
  | perform index outcome =>
    refine ⟨trivial, ?_⟩
    show (sys.performAt index outcome).transfer = sys.transfer
    rcases sys.performAt_outstanding index outcome with hsame | ⟨-, -, -, -, -, -, -, htransfer⟩
    · rw [hsame]
    · exact htransfer
  | respond =>
    refine ⟨trivial, ?_⟩
    unfold DmaSystem.next
    dsimp only
    split <;> rfl
  | store addr value =>
    have hactive : (sys.dma.store8 addr value).2.active = sys.dma.active := by
      unfold DmaController.store8
      split
      · rfl
      · rename_i offset hoffset
        unfold DmaController.offset at hoffset
        split at hoffset
        · cases hoffset
          exact (sys.dma.kept_storeRegister value h).1
        · cases hoffset
    refine ⟨fun hidle hbusy => absurd (hactive.trans hidle) hbusy, ?_⟩
    show (sys.withDma (sys.dma.store8 addr value).2).transfer = sys.transfer
    rw [DmaSystem.withDma_kept hactive]

/-- **A transfer that is left alone copies its range**, and nothing is in flight when it is done. -/
theorem transfer_copies (dma : DmaController) (memory : ByteMemory) (value : U8) (steps : List DmaStep)
    (hidle : dma.active = none)
    (hstart : (value.setWidth 32 : U32) &&& DmaController.controlStart ≠ 0)
    (hdisjoint : (DmaSystem.of dma memory).transfer.Disjoint)
    (hsteps : Along DmaSystem.next TransferStep
      ((DmaSystem.of dma memory).withDma (dma.applyControlByte value)) steps)
    (hdone : (run DmaSystem.next ((DmaSystem.of dma memory).withDma (dma.applyControlByte value))
      steps).dma.done = true) :
    Copied (DmaSystem.of dma memory).transfer
        (run DmaSystem.next ((DmaSystem.of dma memory).withDma (dma.applyControlByte value)) steps) ∧
      (run DmaSystem.next ((DmaSystem.of dma memory).withDma (dma.applyControlByte value))
        steps).outstanding = [] := by
  have hend := Along.run_invariant
    (I := fun sys => sys.Sound ∧ sys.transfer = (DmaSystem.of dma memory).transfer)
    (sound_start memory hidle hstart)
    (fun sys step h hstep =>
      ⟨h.1.next hstep.transfer_eq.1, hstep.transfer_eq.2.trans h.2⟩) hsteps
  obtain ⟨hsound, htransfer⟩ := hend
  rw [← htransfer] at hdisjoint ⊢
  have hcopied := hsound.copied hdisjoint hdone
  exact ⟨hcopied.2, hcopied.1⟩

/-- Nine words from address 0 to address 64. -/
def nineWords : DmaController :=
  { DmaController.new 0x100 with source := 0, destination := 64, lengthWords := 9 }

/-- They are copied by a burst of eight words and one of a word, with stores to the registers on the way. -/
theorem transfer_copies_nine :
    let steps : List DmaStep :=
      [.issue, .perform 0 .effect, .store 0x100 8, .respond, .issue, .store 0x108 3, .perform 0 .effect,
        .respond, .issue, .perform 0 .effect, .respond, .issue, .perform 0 .effect, .respond]
    let sys := run DmaSystem.next
      ((DmaSystem.of nineWords fun addr => addr.setWidth 8).withDma (nineWords.applyControlByte 1)) steps
    sys.outstanding = [] ∧ ∀ i < 36, sys.memory (64 + BitVec.ofNat 64 i) = BitVec.ofNat 8 i := by
  intro steps sys
  obtain ⟨hcopied, hanswered⟩ := transfer_copies nineWords (fun addr => addr.setWidth 8) 1 steps rfl
    (by decide) (by unfold Transfer.Disjoint DisjointRanges; decide) (by
      refine ⟨trivial, trivial, ?_, trivial, trivial, ?_, trivial, trivial, trivial, trivial, trivial,
        trivial, trivial, trivial, trivial⟩ <;>
      show _ ≠ _ <;> decide +kernel) (by decide +kernel)
  refine ⟨hanswered, fun i hi => (hcopied.contents i hi).trans ?_⟩
  show (0#64 + BitVec.ofNat 64 i).setWidth 8 = BitVec.ofNat 8 i
  rw [BitVec.zero_add, BitVec.setWidth_ofNat_of_le (by decide)]

/-- **A controller whose transfers start with no request outstanding** takes the responses of a transfer for
that transfer alone, and has copied the range of each transfer that is done. -/
theorem restarts_paired (base : Address) (memory : ByteMemory) (steps : List DmaStep)
    (hclean : Along DmaSystem.next StartsClean (.of (.new base) memory) steps) :
    Along DmaSystem.next (fun sys step => RespondsToOwn sys step ∧ CompletesRight sys step)
      (.of (.new base) memory) steps := by
  refine Along.of_invariant (I := DmaSystem.Sound) (DmaSystem.sound_idle rfl rfl)
    (fun sys step h hstep => ⟨⟨h.matched.respondsToOwn step, fun hdisjoint hdone => ?_⟩, h.next hstep⟩) hclean
  exact ((h.next hstep).copied hdisjoint hdone).2

instance (sys : DmaSystem) (step : DmaStep) : Decidable (StartsClean sys step) := by
  unfold StartsClean
  split <;> infer_instance

/-- A transfer of nine words is aborted, both of its requests are answered, and it is started again. -/
theorem restarts_paired_aborted :
    Along DmaSystem.next (fun sys step => RespondsToOwn sys step ∧ CompletesRight sys step)
      (.of (.new 0x100) fun addr => addr.setWidth 8)
      [.store 0x108 9, .store 0x105 1, .store 0x10c 1, .issue, .issue,
        .perform 0 (.failed (.unmappedAddress 0) fun _ => 0), .perform 1 .effect, .respond, .respond,
        .store 0x10c 1, .issue] :=
  restarts_paired 0x100 (fun addr => addr.setWidth 8)
    [.store 0x108 9, .store 0x105 1, .store 0x10c 1, .issue, .issue,
      .perform 0 (.failed (.unmappedAddress 0) fun _ => 0), .perform 1 .effect, .respond, .respond,
      .store 0x10c 1, .issue] (by decide +kernel)

/-- The second request of an aborted transfer is answered when the next transfer waits for its first one. -/
theorem late_response_paired :
    ¬ ∀ (base : Address) (memory : ByteMemory) (steps : List DmaStep),
      Along DmaSystem.next RespondsToOwn (.of (.new base) memory) steps := by
  intro h
  have hrun := h 0x100 (fun addr => addr.setWidth 8)
    [.store 0x108 16, .store 0x105 1, .store 0x10c 1, .issue, .issue,
      .perform 0 (.failed (.unmappedAddress 0) fun _ => 0), .perform 1 .effect, .respond,
      .store 0x10c 1, .issue, .respond]
  have hlate := hrun.2.2.2.2.2.2.2.2.2.2.1
  have hown := (hlate (by decide +kernel)).1
  revert hown
  decide +kernel

end RvSim
