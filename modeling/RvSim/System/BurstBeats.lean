import RvSim.System.MemoryContract

/-!
# A burst beat by beat

A burst that is performed beat by beat on a memory: the memory behind the first beats, and the words that
have been read.

## Main definitions

* `BurstRequest.effectUpTo`, `BurstRequest.HasRead`: a burst some of whose beats are done
* `FlatMemory.behind`: the memory behind the first beats

## Main results

* `BurstRequest.effectUpTo_succ`, `BurstRequest.HasRead.set`: one more beat
* `BurstRequest.effectUpTo_beats`, `BurstRequest.HasRead.words`: all beats
-/

namespace RvSim

namespace BurstRequest

variable {request : BurstRequest} {memory : ByteMemory} {index : Nat}

theorem beatAddr_eq (request : BurstRequest) (index : Nat) :
    request.beatAddr index = ByteMemory.wordAddr request.baseAddr index := by
  unfold beatAddr ByteMemory.wordAddr
  rw [Nat.mul_comm, BitVec.ofNat_mul]
  rfl

/-- The memory behind the first beats of the burst. -/
def effectUpTo (request : BurstRequest) (index : Nat) (memory : ByteMemory) : ByteMemory :=
  match request with
  | .readWords _ _ _ => memory
  | .writeWords baseAddr words => memory.writeWords baseAddr (words.take index)

/-- The words that the first beats of the burst have read. -/
def HasRead (request : BurstRequest) (index : Nat) (memory : ByteMemory) (words : List U32) : Prop :=
  words.length = request.beats ∧ (request.beatKind ≠ .store → ∀ i < index,
    words[i]? = some (memory.word (request.beatAddr i)))

theorem effectUpTo_zero (request : BurstRequest) (memory : ByteMemory) :
    request.effectUpTo 0 memory = memory := by
  cases request with
  | readWords baseAddr beats kind => rfl
  | writeWords baseAddr words =>
    funext a
    unfold effectUpTo ByteMemory.writeWords
    dsimp only
    rw [List.take_zero, List.getElem?_nil]

theorem effectUpTo_beats (request : BurstRequest) (memory : ByteMemory) :
    request.effectUpTo request.beats memory = request.effect memory := by
  cases request with
  | readWords baseAddr beats kind => rfl
  | writeWords baseAddr words =>
    show memory.writeWords baseAddr (words.take words.length) = _
    rw [List.take_length]
    rfl

/-- The bytes of a beat. -/
theorem sub_beatAddr_lt {base a : Address} {beats : Nat} (hindex : index < beats)
    (hfits : base.toNat + 4 * beats ≤ 2 ^ 64) :
    (a - ByteMemory.wordAddr base index).toNat < 4 ↔ (a - base).toNat / 4 = index := by
  have ha := a.isLt
  have hbase := base.isLt
  unfold ByteMemory.wordAddr
  rw [BitVec.toNat_sub, BitVec.toNat_add, BitVec.toNat_ofNat, BitVec.toNat_sub]
  omega

/-- The place of a byte in its beat. -/
theorem sub_beatAddr_eq {base a : Address} (h : (a - base).toNat / 4 = index) :
    (a - ByteMemory.wordAddr base index).toNat = (a - base).toNat % 4 := by
  have ha := a.isLt
  have hbase := base.isLt
  unfold ByteMemory.wordAddr
  rw [BitVec.toNat_sub] at h ⊢
  rw [BitVec.toNat_add, BitVec.toNat_ofNat, BitVec.toNat_sub]
  omega

/-- **One more beat of a write.** -/
theorem effectUpTo_succ {baseAddr : Address} {words : List U32} (hindex : index < words.length)
    (hfits : baseAddr.toNat + 4 * words.length ≤ 2 ^ 64) (memory : ByteMemory) :
    effectUpTo (.writeWords baseAddr words) (index + 1) memory =
      (effectUpTo (.writeWords baseAddr words) index memory).store
        ⟨beatAddr (.writeWords baseAddr words) index, 4, words[index]?.getD 0⟩ := by
  funext a
  rw [beatAddr_eq, ByteMemory.store_apply]
  unfold effectUpTo ByteMemory.writeWords BurstRequest.baseAddr
  dsimp only
  rw [List.getElem?_take, List.getElem?_take]
  by_cases hbeat : (a - baseAddr).toNat / 4 = index
  · rw [if_pos ((sub_beatAddr_lt hindex hfits).2 hbeat), sub_beatAddr_eq hbeat, hbeat,
      if_pos (Nat.lt_succ_self index), List.getElem?_eq_getElem hindex, Option.getD_some]
    have hlt : (a - baseAddr).toNat % 4 < 4 := Nat.mod_lt _ (by decide)
    dsimp only
    rw [Vector.getElem?_eq_getElem hlt]
    rfl
  · rw [if_neg (mt (sub_beatAddr_lt hindex hfits).1 hbeat)]
    by_cases hlow : (a - baseAddr).toNat / 4 < index
    · rw [if_pos hlow, if_pos (hlow.trans (Nat.lt_succ_self index))]
    · rw [if_neg hlow, if_neg (by omega)]

theorem HasRead.zero (request : BurstRequest) (memory : ByteMemory) :
    request.HasRead 0 memory (List.replicate request.beats 0) :=
  ⟨List.length_replicate, fun _ _ hlt => absurd hlt (Nat.not_lt_zero _)⟩

/-- **One more beat of a read.** -/
theorem HasRead.set {words : List U32} (h : request.HasRead index memory words)
    (hindex : index < request.beats) :
    request.HasRead (index + 1) memory (words.set index (memory.word (request.beatAddr index))) := by
  refine ⟨List.length_set.trans h.1, fun hkind i hi => ?_⟩
  rw [List.getElem?_set]
  by_cases heq : index = i
  · subst heq
    rw [if_pos rfl, if_pos (by rw [h.1]; exact hindex)]
  · rw [if_neg heq]
    exact h.2 hkind i (by omega)

/-- A write reads nothing. -/
theorem HasRead.of_write {baseAddr : Address} {words readWords : List U32} {i : Nat}
    (h : HasRead (.writeWords baseAddr words) i memory readWords) (index : Nat) :
    HasRead (.writeWords baseAddr words) index memory readWords :=
  ⟨h.1, fun hkind => absurd rfl hkind⟩

/-- All words of a read. -/
theorem HasRead.words {baseAddr : Address} {beats : Nat} {kind : AccessKind} {words : List U32}
    (h : HasRead (.readWords baseAddr beats kind) beats memory words) (hkind : kind ≠ .store) :
    words = memory.words baseAddr beats := by
  obtain ⟨hlength, hwords⟩ := h
  have hlength : words.length = beats := hlength
  refine List.ext_getElem? fun i => ?_
  by_cases hi : i < beats
  · rw [hwords hkind i hi, beatAddr_eq, ByteMemory.words, List.getElem?_map, List.getElem?_range hi]
    rfl
  · rw [List.getElem?_eq_none (by omega), List.getElem?_eq_none (by rw [ByteMemory.length_words]; omega)]

/-- The response that is made of the words of a burst. -/
def responseOf (request : BurstRequest) (words : List U32) (completedBeats : Nat) : BurstResponse :=
  match request with
  | .readWords _ _ _ => .readWords words
  | .writeWords _ _ => .writeComplete completedBeats

/-- The response to a burst whose beats are done. -/
theorem HasRead.answeredBy {words : List U32} (h : request.HasRead request.beats memory words)
    (hkind : ∀ baseAddr beats, request ≠ .readWords baseAddr beats .store) (completedBeats : Nat) :
    request.AnsweredBy memory (request.responseOf words completedBeats) := by
  cases request with
  | readWords baseAddr beats kind =>
    refine h.words ?_
    rintro rfl
    exact hkind baseAddr beats rfl
  | writeWords baseAddr words => trivial

/-- The beats of a burst are aligned and mapped. -/
theorem Within.beat {mapped : Address → Bool} (h : request.Within mapped) (hindex : index < request.beats) :
    (request.beatAddr index).toNat = request.baseAddr.toNat + 4 * index ∧
      ∀ offset < 4, mapped (request.beatAddr index + BitVec.ofNat 64 offset) = true := by
  have hfits := h.fits
  rw [beatAddr_eq]
  unfold ByteMemory.wordAddr
  refine ⟨?_, fun offset hoffset => ?_⟩
  · rw [BitVec.toNat_add, BitVec.toNat_ofNat, Nat.mod_eq_of_lt (show 4 * index < 2 ^ 64 by omega)]
    exact Nat.mod_eq_of_lt (by omega)
  · rw [BitVec.add_assoc, ← BitVec.ofNat_add]
    exact h.mapped _ (by omega)

end BurstRequest

/-- The memory behind the first beats of a burst. -/
def FlatMemory.behind (memory : FlatMemory) (burst : BurstRequest) (index : Nat) : FlatMemory :=
  { memory with contents := burst.effectUpTo index memory.contents }

end RvSim
