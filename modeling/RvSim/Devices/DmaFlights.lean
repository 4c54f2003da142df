import RvSim.Devices.DmaTransfer

/-!
# A transfer in flight

The words of a transfer that runs are answered, in flight, buffered or not yet read. Each step of the
transfer moves a segment of them on.

## Main definitions

* `Flight`: a request of a transfer, as a segment of its words
* `Transferring`: where the words of a transfer are

## Main results

* `Transferring.issueWrite`, `Transferring.issueRead`, `Transferring.perform`, `Transferring.answerRead`,
  `Transferring.answerWrite`: the steps
* `Transferring.copied`: with nothing left, the range is copied
-/

namespace RvSim

open ByteMemory

/-! ## The flights of a transfer -/

/-- A request of a transfer, as a segment of its words. -/
structure Flight where
  isRead : Bool
  start : Nat
  beats : Nat
  performed : Bool

namespace Flight

variable (transfer : Transfer)

/-- The indices of the words. -/
def indices (flight : Flight) : List Nat := List.range' flight.start flight.beats

/-- The words of the source. -/
def data (start beats : Nat) : List U32 := transfer.memory.words (wordAddr transfer.source start) beats

def issued (flight : Flight) : IssuedDmaRequest :=
  if flight.isRead then .readBurst (wordAddr transfer.destination flight.start) flight.beats
  else .writeBurst flight.beats

def request (flight : Flight) : BusMasterRequest :=
  if flight.isRead then .readWords (wordAddr transfer.source flight.start) flight.beats
  else .writeWords (wordAddr transfer.destination flight.start) (data transfer flight.start flight.beats)

def response (flight : Flight) : BusMasterResponse :=
  if flight.isRead then .readWords (data transfer flight.start flight.beats)
  else .writeWordsComplete flight.beats

def outstanding (number : Nat) (flight : Flight) : OutstandingDma :=
  ⟨flight.request transfer, if flight.performed then some (.ok (flight.response transfer)) else none,
    number⟩

/-- The words that flights have written. -/
def written (queue : List Flight) : List Nat :=
  (queue.filter fun flight => !flight.isRead && flight.performed).flatMap indices

/-- The words that have been read for flights. -/
def fetched (queue : List Flight) : List Nat :=
  (queue.filter fun flight => !flight.isRead || flight.performed).flatMap indices

/-- The buffered writes of segments. -/
def buffered (segment : Nat × Nat) : PendingWriteBurst :=
  ⟨wordAddr transfer.destination segment.1, data transfer segment.1 segment.2⟩

/-- The indices of the words of segments. -/
def segments (ready : List (Nat × Nat)) : List Nat :=
  ready.flatMap fun segment => List.range' segment.1 segment.2

end Flight

open Flight

/-- A transfer that runs: its words are answered, in flight, buffered, or not yet read. -/
structure Transferring (sys : DmaSystem) (active : ActiveTransfer) (answered : List Nat)
    (queue : List Flight) (ready : List (Nat × Nat)) (count : Nat) : Prop where
  issued : active.issuedRequests = queue.map (Flight.issued sys.transfer)
  outstanding : sys.outstanding = queue.map (Flight.outstanding sys.transfer sys.number)
  readyWrites : active.readyWrites = ready.map (buffered sys.transfer)
  inRange : ∀ flight ∈ queue, flight.start + flight.beats ≤ sys.transfer.length
  readyInRange : ∀ segment ∈ ready, segment.1 + segment.2 ≤ sys.transfer.length
  small : sys.transfer.length < 2 ^ 32
  source : active.nextSource = wordAddr sys.transfer.source count
  destination : active.nextDestination = wordAddr sys.transfer.destination count
  remaining : count + active.remainingWords.toNat = sys.transfer.length
  cover : (answered ++ queue.flatMap indices ++ segments ready ++
    List.range' count active.remainingWords.toNat).Perm (List.range sys.transfer.length)
  transferred : sys.dma.transferredWords = BitVec.ofNat 32 answered.length
  memory : sys.memory = sys.transfer.memory.copied sys.transfer.source sys.transfer.destination
    (answered ++ written queue)
  writes : sys.writes.Perm ((answered ++ written queue).map (wordAddr sys.transfer.destination))
  reads : sys.reads.Perm
    ((answered ++ fetched queue ++ segments ready).map (wordAddr sys.transfer.source))

/-! ## A request is issued -/

section Queue

variable (queue : List Flight) (flight : Flight)

theorem written_append (other : List Flight) : written (queue ++ other) = written queue ++ written other := by
  rw [written, List.filter_append, List.flatMap_append]
  rfl

theorem fetched_append (other : List Flight) : fetched (queue ++ other) = fetched queue ++ fetched other := by
  rw [fetched, List.filter_append, List.flatMap_append]
  rfl

theorem written_cons : written (flight :: queue) =
    (if !flight.isRead && flight.performed then flight.indices else []) ++ written queue := by
  unfold written
  rw [List.filter_cons]
  split <;> rfl

theorem fetched_cons : fetched (flight :: queue) =
    (if !flight.isRead || flight.performed then flight.indices else []) ++ fetched queue := by
  unfold fetched
  rw [List.filter_cons]
  split <;> rfl

end Queue

/-- The cases of a request. -/
theorem nextRequest_cases {active active' : ActiveTransfer} {request : BusMasterRequest}
    (h : DmaController.nextRequest active = some (request, active')) :
    (∃ write rest, active.readyWrites = write :: rest ∧
      request = .writeWords write.destination write.words ∧
      active' = { active with
        readyWrites := rest
        issuedRequests := active.issuedRequests ++ [.writeBurst write.words.length] }) ∨
    (0 < active.remainingWords ∧ (request, active') = DmaController.issueRead active) := by
  have hwrite (h : DmaController.issueWrite active = some (request, active')) :
      ∃ write rest, active.readyWrites = write :: rest ∧
        request = .writeWords write.destination write.words ∧
        active' = { active with
          readyWrites := rest
          issuedRequests := active.issuedRequests ++ [.writeBurst write.words.length] } := by
    unfold DmaController.issueWrite at h
    split at h
    · cases h
    · rename_i write rest hready
      cases h
      exact ⟨write, rest, hready, rfl, rfl⟩
  unfold DmaController.nextRequest at h
  split at h
  · exact .inl (hwrite h)
  · split at h
    · rename_i hremaining
      exact .inr ⟨hremaining.1, (Option.some.inj h).symm⟩
    · exact .inl (hwrite h)

section Issue

variable {sys : DmaSystem} {active : ActiveTransfer} {answered : List Nat} {queue : List Flight}
  {ready : List (Nat × Nat)} {count : Nat}

/-- A buffered write is issued. -/
theorem Transferring.issueWrite (h : Transferring sys active answered queue ready count)
    {write : PendingWriteBurst} {rest : List PendingWriteBurst}
    (hready : active.readyWrites = write :: rest) (dma : DmaController)
    (hdma : dma.transferredWords = sys.dma.transferredWords) :
    ∃ (segment : Nat × Nat) (ready' : List (Nat × Nat)), Transferring
      { sys with
        dma
        outstanding := sys.outstanding ++
          [⟨.writeWords write.destination write.words, none, sys.number⟩] }
      { active with
        readyWrites := rest
        issuedRequests := active.issuedRequests ++ [.writeBurst write.words.length] }
      answered (queue ++ [⟨false, segment.1, segment.2, false⟩]) ready' count := by
  -- the first ready write is the first segment
  have hwrites := h.readyWrites
  rw [hready] at hwrites
  obtain _ | ⟨segment, ready'⟩ := ready
  · cases hwrites
  obtain ⟨rfl, rfl⟩ := List.cons.inj hwrites
  have hlength : (buffered sys.transfer segment).words.length = segment.2 := length_words _ _ _
  refine ⟨segment, ready', ?_, ?_, rfl, ?_, ?_, h.small, h.source, h.destination, h.remaining, ?_,
    hdma.trans h.transferred, ?_, ?_, ?_⟩
  · dsimp only
    rw [List.map_append, h.issued, hlength]
    rfl
  · dsimp only
    rw [List.map_append, h.outstanding]
    rfl
  · rintro flight hflight
    rcases List.mem_append.1 hflight with hold | hnew
    · exact h.inRange flight hold
    · rw [List.mem_singleton.1 hnew]
      exact h.readyInRange segment List.mem_cons_self
  · exact fun other hother => h.readyInRange other (List.mem_cons_of_mem _ hother)
  -- the segment goes from the ready ones to those in flight
  · refine List.Perm.trans ?_ h.cover
    refine List.perm_iff_count.2 fun word => ?_
    simp only [List.flatMap_append, List.flatMap_cons, List.flatMap_nil, segments, List.count_append,
      List.append_nil, indices]
    omega
  · rw [written_append, written_cons]
    simpa [written] using h.memory
  · rw [written_append, written_cons]
    simpa [written] using h.writes
  · refine h.reads.trans (List.Perm.map _ ?_)
    refine List.perm_iff_count.2 fun word => ?_
    rw [fetched_append, fetched_cons]
    simp only [fetched, segments, List.filter_nil, List.flatMap_nil, List.flatMap_cons, List.count_append,
      List.append_nil, indices, Bool.not_false, Bool.true_or, if_true]
    omega

/-- The next read is issued. -/
theorem Transferring.issueRead (h : Transferring sys active answered queue ready count)
    (dma : DmaController) (hdma : dma.transferredWords = sys.dma.transferredWords) :
    ∃ beats, Transferring
      { sys with
        dma
        outstanding := sys.outstanding ++ [⟨(DmaController.issueRead active).1, none, sys.number⟩] }
      (DmaController.issueRead active).2
      answered (queue ++ [⟨true, count, beats, false⟩]) ready (count + beats) := by
  have hle : DmaController.burstWords active.remainingWords ≤ active.remainingWords.toNat := by
    exact Nat.min_le_left _ _
  have height : DmaController.burstWords active.remainingWords ≤ 8 := Nat.min_le_right _ _
  have htotal := h.remaining
  generalize hbeats : DmaController.burstWords active.remainingWords = beats at hle height
  -- both addresses move behind the words of the burst
  have hadvance (base : Address) :
      wordAddr base count + (BitVec.ofNat 32 beats).setWidth 64 * 4 = wordAddr base (count + beats) := by
    have hwidth : (BitVec.ofNat 32 beats).setWidth 64 = BitVec.ofNat 64 beats := by
      refine BitVec.eq_of_toNat_eq ?_
      rw [BitVec.toNat_setWidth, BitVec.toNat_ofNat, BitVec.toNat_ofNat]
      omega
    unfold wordAddr
    rw [hwidth, Nat.mul_add, BitVec.ofNat_add, BitVec.ofNat_mul 4 beats, BitVec.add_assoc,
      BitVec.mul_comm (BitVec.ofNat 64 4)]
    rfl
  have hleft : (active.remainingWords - BitVec.ofNat 32 beats).toNat =
      active.remainingWords.toNat - beats := by
    rw [BitVec.toNat_sub_of_le]
    · rw [BitVec.toNat_ofNat, Nat.mod_eq_of_lt (by omega)]
    · rw [BitVec.le_def, BitVec.toNat_ofNat, Nat.mod_eq_of_lt (by omega)]
      exact hle
  unfold DmaController.issueRead
  rw [hbeats]
  refine ⟨beats, ?_, ?_, h.readyWrites, ?_, h.readyInRange, h.small, ?_, ?_, ?_, ?_,
    hdma.trans h.transferred, ?_, ?_, ?_⟩
  · dsimp only
    rw [List.map_append, h.issued, h.destination]
    rfl
  · dsimp only
    rw [List.map_append, h.outstanding, h.source]
    rfl
  · rintro flight hflight
    rcases List.mem_append.1 hflight with hold | hnew
    · exact h.inRange flight hold
    · rw [List.mem_singleton.1 hnew]
      dsimp only
      omega
  · dsimp only
    rw [h.source]
    exact hadvance _
  · dsimp only
    rw [h.destination]
    exact hadvance _
  · dsimp only
    rw [hleft]
    omega
  · refine List.Perm.trans ?_ h.cover
    dsimp only
    rw [hleft]
    -- the words that are left are those of the burst and the rest
    have hsplit : List.range' count active.remainingWords.toNat =
        List.range' count beats ++ List.range' (count + beats) (active.remainingWords.toNat - beats) := by
      rw [List.range'_append_1]
      congr 1
      omega
    rw [hsplit]
    refine List.perm_iff_count.2 fun word => ?_
    simp only [List.flatMap_append, List.flatMap_cons, List.flatMap_nil, List.count_append,
      List.append_nil, indices]
    omega
  · rw [written_append, written_cons]
    simpa [written] using h.memory
  · rw [written_append, written_cons]
    simpa [written] using h.writes
  · rw [fetched_append, fetched_cons]
    simpa [fetched] using h.reads

end Issue

/-! ## A request takes effect -/

/-- The addresses of the words of a segment. -/
theorem map_wordAddr (base : Address) (start beats : Nat) :
    (List.range beats).map (wordAddr (wordAddr base start)) =
      (List.range' start beats).map (wordAddr base) := by
  rw [List.range'_eq_map_range, List.map_map]
  refine List.map_congr_left fun index _ => ?_
  show wordAddr (wordAddr base start) index = wordAddr base (start + index)
  unfold wordAddr
  rw [BitVec.add_assoc, ← BitVec.ofNat_add, Nat.mul_add]

section Effect

variable {sys : DmaSystem} {active : ActiveTransfer} {answered : List Nat} {queue : List Flight}
  {ready : List (Nat × Nat)} {count : Nat}

/-- The written words are words of the transfer. -/
theorem Transferring.lt_length (h : Transferring sys active answered queue ready count) {word : Nat}
    (hword : word ∈ answered ++ written queue) : word < sys.transfer.length := by
  refine List.mem_range.1 (h.cover.mem_iff.1 ?_)
  rw [List.append_assoc, List.append_assoc]
  rcases List.mem_append.1 hword with hanswered | hwritten
  · exact List.mem_append_left _ hanswered
  · refine List.mem_append_right _ (List.mem_append_left _ ?_)
    obtain ⟨flight, hflight, hmem⟩ := List.mem_flatMap.1 hwritten
    exact List.mem_flatMap.2 ⟨flight, List.mem_of_mem_filter hflight, hmem⟩

/-- An outstanding request of the transfer takes effect. -/
theorem Transferring.perform {before after : List Flight} {flight : Flight}
    (h : Transferring sys active answered (before ++ flight :: after) ready count)
    (hdisjoint : sys.transfer.Disjoint) (hpending : flight.performed = false) :
    Transferring (sys.performAt before.length .effect) active answered
      (before ++ { flight with performed := true } :: after) ready count := by
  have hat : sys.outstanding[before.length]? =
      some (flight.outstanding sys.transfer sys.number) := by
    rw [h.outstanding, List.map_append, List.getElem?_append_right (List.length_map _).le,
      List.length_map, Nat.sub_self]
    rfl
  have hout : flight.outstanding sys.transfer sys.number =
      ⟨flight.request sys.transfer, none, sys.number⟩ := by
    unfold Flight.outstanding
    rw [hpending]
    rfl
  rw [hout] at hat
  -- the request is at its place in the list, behind those in front of it
  have hset (out : OutstandingDma) : sys.outstanding.set before.length out =
      before.map (Flight.outstanding sys.transfer sys.number) ++
        out :: after.map (Flight.outstanding sys.transfer sys.number) := by
    rw [h.outstanding, List.map_append, List.set_append_right _ _ (List.length_map _).le,
      List.length_map, Nat.sub_self]
    rfl
  have hmemory := h.memory
  have hwrites := h.writes
  have hreads := h.reads
  unfold DmaSystem.performAt
  rw [hat]
  dsimp only
  rw [hset]
  have hrange := h.inRange flight (by simp)
  have hinRange : ∀ other ∈ before ++ { flight with performed := true } :: after,
      other.start + other.beats ≤ sys.transfer.length := by
    intro other hother
    rcases List.mem_append.1 hother with hbefore | hmem
    · exact h.inRange other (List.mem_append_left _ hbefore)
    · rcases List.mem_cons.1 hmem with rfl | hafter
      · exact hrange
      · exact h.inRange other (List.mem_append_right _ (List.mem_cons_of_mem _ hafter))
  have hissued : active.issuedRequests =
      (before ++ { flight with performed := true } :: after).map (Flight.issued sys.transfer) := by
    rw [h.issued, List.map_append, List.map_append]
    rfl
  -- a request covers the same words, performed or not
  have hcover : (answered ++ (before ++ { flight with performed := true } :: after).flatMap indices ++
      segments ready ++ List.range' count active.remainingWords.toNat).Perm
        (List.range sys.transfer.length) := by
    have hsame : (before ++ { flight with performed := true } :: after).flatMap indices =
        (before ++ flight :: after).flatMap indices := by
      rw [List.flatMap_append, List.flatMap_append]
      rfl
    rw [hsame]
    exact h.cover
  obtain ⟨isRead, start, beats, performed⟩ := flight
  cases hpending
  dsimp only at hrange
  cases isRead with
  -- a read finds the data of the source, which the words written so far leave alone
  | true =>
    have hdata : sys.memory.words (wordAddr sys.transfer.source start) beats =
        data sys.transfer start beats := by
      rw [h.memory]
      exact words_copied hdisjoint (fun word => h.lt_length) hrange
    refine ⟨hissued, ?_, h.readyWrites, hinRange, h.readyInRange, h.small, h.source, h.destination,
      h.remaining, hcover, h.transferred, ?_, ?_, ?_⟩
    · show _ ++ OutstandingDma.mk _ (some (.ok (.readWords (sys.memory.words _ beats)))) _ :: _ = _
      rw [hdata, List.map_append]
      rfl
    · show sys.memory = _
      rw [hmemory, written_append, written_append, written_cons, written_cons]
      rfl
    · rw [written_append, written_cons] at hwrites ⊢
      show (sys.writes ++ []).Perm _
      rw [List.append_nil]
      exact hwrites
    · show (sys.reads ++ (List.range beats).map _).Perm _
      rw [map_wordAddr]
      refine (hreads.append_right _).trans ?_
      rw [← List.map_append]
      refine List.Perm.map _ (List.perm_iff_count.2 fun word => ?_)
      simp only [fetched_append, fetched_cons, List.count_append, indices, Bool.not_true, Bool.false_or,
        Bool.false_eq_true, if_true, if_false, List.count_nil]
      omega
  -- a write copies its words, and each of them is counted as written
  | false =>
    refine ⟨hissued, ?_, h.readyWrites, hinRange, h.readyInRange, h.small, h.source, h.destination,
      h.remaining, hcover, h.transferred, ?_, ?_, ?_⟩
    · show _ ++ OutstandingDma.mk _ (some (.ok (.writeWordsComplete
        (data sys.transfer start beats).length))) _ :: _ = _
      rw [List.map_append, show (data sys.transfer start beats).length = beats from length_words _ _ _]
      rfl
    · have hsmall := h.small
      show sys.memory.writeWords (wordAddr sys.transfer.destination start)
        (data sys.transfer start beats) = _
      rw [hmemory]
      refine (writeWords_copied (by omega)).trans (copied_perm _ _ _ ?_)
      refine List.perm_iff_count.2 fun word => ?_
      simp only [written_append, written_cons, List.count_append, indices, Bool.not_false, Bool.true_and,
        Bool.false_eq_true, if_true, if_false, List.count_nil]
      omega
    · show (sys.writes ++ (List.range (data sys.transfer start beats).length).map _).Perm _
      rw [show (data sys.transfer start beats).length = beats from length_words _ _ _, map_wordAddr]
      refine (hwrites.append_right _).trans ?_
      rw [← List.map_append]
      refine List.Perm.map _ (List.perm_iff_count.2 fun word => ?_)
      simp only [written_append, written_cons, List.count_append, indices, Bool.not_false, Bool.true_and,
        Bool.false_eq_true, if_true, if_false, List.count_nil]
      omega
    · rw [fetched_append, fetched_cons] at hreads ⊢
      show (sys.reads ++ []).Perm _
      rw [List.append_nil]
      exact hreads

end Effect

/-! ## A request is answered -/

section Answer

variable {sys : DmaSystem} {active : ActiveTransfer} {answered : List Nat} {queue : List Flight}
  {ready : List (Nat × Nat)} {count start beats : Nat}

/-- The response to a read is buffered. -/
theorem Transferring.answerRead
    (h : Transferring sys active answered (⟨true, start, beats, true⟩ :: queue) ready count)
    (dma : DmaController) (hdma : dma.transferredWords = sys.dma.transferredWords) :
    Transferring
      { sys with dma, outstanding := queue.map (Flight.outstanding sys.transfer sys.number) }
      { active with
        issuedRequests := queue.map (Flight.issued sys.transfer)
        readyWrites := active.readyWrites ++
          [⟨wordAddr sys.transfer.destination start, data sys.transfer start beats⟩] }
      answered queue (ready ++ [(start, beats)]) count := by
  have hmemory := h.memory
  have hwrites := h.writes
  have hreads := h.reads
  rw [written_cons] at hmemory hwrites
  rw [fetched_cons] at hreads
  refine ⟨rfl, rfl, ?_, fun flight hflight => h.inRange flight (List.mem_cons_of_mem _ hflight), ?_,
    h.small, h.source, h.destination, h.remaining, ?_, hdma.trans h.transferred, hmemory, hwrites, ?_⟩
  · dsimp only
    rw [h.readyWrites, List.map_append]
    rfl
  · rintro segment hsegment
    rcases List.mem_append.1 hsegment with hold | hnew
    · exact h.readyInRange segment hold
    · rw [List.mem_singleton.1 hnew]
      exact h.inRange _ List.mem_cons_self
  · refine List.Perm.trans (List.perm_iff_count.2 fun word => ?_) h.cover
    simp only [segments, indices, List.flatMap_append, List.flatMap_cons, List.flatMap_nil,
      List.append_nil, List.count_append]
    omega
  · refine hreads.trans (List.Perm.map _ (List.perm_iff_count.2 fun word => ?_))
    simp only [segments, indices, List.flatMap_append, List.flatMap_cons, List.flatMap_nil,
      List.append_nil, List.count_append, Bool.or_true, if_true]
    omega

/-- The response to a write is counted. -/
theorem Transferring.answerWrite
    (h : Transferring sys active answered (⟨false, start, beats, true⟩ :: queue) ready count)
    (dma : DmaController)
    (hdma : dma.transferredWords = sys.dma.transferredWords + BitVec.ofNat 32 beats) :
    Transferring
      { sys with dma, outstanding := queue.map (Flight.outstanding sys.transfer sys.number) }
      { active with issuedRequests := queue.map (Flight.issued sys.transfer) }
      (answered ++ List.range' start beats) queue ready count := by
  have hmemory := h.memory
  have hwrites := h.writes
  have hreads := h.reads
  rw [written_cons] at hmemory hwrites
  rw [fetched_cons] at hreads
  refine ⟨rfl, rfl, h.readyWrites, fun flight hflight => h.inRange flight (List.mem_cons_of_mem _ hflight),
    h.readyInRange, h.small, h.source, h.destination, h.remaining, ?_, ?_, ?_, ?_, ?_⟩
  · refine List.Perm.trans (List.perm_iff_count.2 fun word => ?_) h.cover
    simp only [indices, List.flatMap_cons, List.count_append]
    omega
  · dsimp only
    rw [hdma, h.transferred, List.length_append, List.length_range', ← BitVec.ofNat_add]
  · dsimp only
    rw [List.append_assoc]
    exact hmemory
  · dsimp only
    rw [List.append_assoc]
    exact hwrites
  · dsimp only
    rw [List.append_assoc answered]
    exact hreads

/-- With nothing left, the range is copied. -/
theorem Transferring.copied (h : Transferring sys active answered [] [] count)
    (hremaining : active.remainingWords = 0) : Copied sys.transfer sys := by
  have hcover := h.cover
  rw [hremaining] at hcover
  have hanswered : answered.Perm (List.range sys.transfer.length) := by
    simpa [segments] using hcover
  have hmemory : sys.memory =
      sys.transfer.memory.copied sys.transfer.source sys.transfer.destination answered := by
    have hmemory := h.memory
    rwa [show answered ++ written [] = answered from List.append_nil _] at hmemory
  have hsmall := h.small
  refine ⟨fun offset hoffset => ?_, fun addr haddr => ?_, ?_, ?_, ?_⟩
  · rw [hmemory]
    exact copied_contents hanswered (by omega) hoffset
  · rw [hmemory]
    exact copied_frame hanswered haddr
  · have hreads := h.reads
    rw [show answered ++ fetched [] ++ segments [] = answered by
      rw [show fetched [] = [] from rfl, show segments [] = [] from rfl, List.append_nil,
        List.append_nil]] at hreads
    exact hreads.trans (hanswered.map _)
  · have hwrites := h.writes
    rw [show answered ++ written [] = answered from List.append_nil _] at hwrites
    exact hwrites.trans (hanswered.map _)
  · rw [h.transferred, hanswered.length_eq, List.length_range]

end Answer

end RvSim
