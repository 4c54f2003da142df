import RvSim.Automata.Run
import RvSim.Devices.InterruptWords

/-!
# Claims and completions

The interrupt controller keeps two sets of sources: those pending and those claimed. A source that is raised
stays pending until a claim returns it, and no claim returns it again until it is completed and raised
again.

## Main definitions

* `InterruptController.isPending`, `InterruptController.isClaimed`: the sets
* `InterruptController.Claims`, `InterruptController.Raises`, `InterruptController.Completes`: what a word
  does to a source
* `InterruptController.Orderly`, `InterruptController.ClaimedOnce`: what software can rely on

## Main results

* `InterruptController.isPending_wordStep`, `InterruptController.isClaimed_wordStep`: a step on the sets
* `InterruptController.claims_run`: no source is lost, and none is claimed twice
-/

namespace RvSim

open Automata

namespace InterruptController

/-! ## Sources -/

variable (controller : InterruptController)

def isPending (source : Fin 32) : Bool := controller.pending.getLsbD source
def isEnabled (source : Fin 32) : Bool := controller.enable.getLsbD source
def isClaimed (source : Fin 32) : Bool := controller.claimed.getLsbD source

/-- The number of a source in the claim register; sources are numbered from 1. -/
def sourceId (source : Fin 32) : U32 := BitVec.ofNat 32 (source + 1)

theorem toNat_sourceId (source : Fin 32) : (sourceId source).toNat = source + 1 := by
  rw [sourceId, BitVec.toNat_ofNat]
  omega

/-- No source has the id that a claim without a source returns. -/
theorem sourceId_ne_zero (source : Fin 32) : sourceId source ≠ 0 := by
  intro h
  have hnat := congrArg BitVec.toNat h
  rw [toNat_sourceId] at hnat
  cases hnat

theorem sourceId_inj {source other : Fin 32} : sourceId source = sourceId other ↔ source = other := by
  refine ⟨fun h => ?_, fun h => by rw [h]⟩
  have hnat := congrArg BitVec.toNat h
  rw [toNat_sourceId, toNat_sourceId] at hnat
  exact Fin.ext (by omega)

theorem getLsbD_sourceMask (id : U32) (source : Fin 32) :
    (sourceMask id).getLsbD source = decide (id = sourceId source) := by
  have heq : decide (id = sourceId source) = decide (id.toNat = source + 1) := by
    rw [decide_eq_decide, ← toNat_sourceId, BitVec.toNat_inj]
  have hone : (1 : U32).toNat = 1 := rfl
  have hlast : (32 : U32).toNat = 32 := rfl
  unfold sourceMask
  split
  · rename_i hid
    rw [BitVec.le_def, BitVec.le_def, hone, hlast] at hid
    have hshift : (id - 1).toNat = id.toNat - 1 := by
      rw [BitVec.toNat_sub, hone]
      omega
    have hbit (n : Nat) : (1 : U32).getLsbD n = decide (n = 0) := by
      show (1#32).getLsbD n = _
      rw [BitVec.getLsbD_one]
      simp
    rw [BitVec.shiftLeft_eq', BitVec.getLsbD_shiftLeft, hshift, heq, hbit]
    have hlt := source.isLt
    rw [Bool.eq_iff_iff]
    simp only [Bool.and_eq_true, Bool.not_eq_true', decide_eq_true_iff, decide_eq_false_iff_not]
    omega
  · rename_i hid
    rw [BitVec.le_def, BitVec.le_def, hone, hlast] at hid
    -- zero and the ids above 32 select no source
    have hne : ¬ id.toNat = source + 1 := by omega
    rw [heq, decide_eq_false hne]
    exact BitVec.getLsbD_zero

variable {controller}

theorem enabledPending_eq_zero :
    controller.enabledPending = 0 ↔
      ∀ source, ¬ (controller.isPending source = true ∧ controller.isEnabled source = true) := by
  unfold enabledPending isPending isEnabled
  constructor
  · intro h source hboth
    have hbit := congrArg (·.getLsbD source.val) h
    simp only [BitVec.getLsbD_and, hboth, Bool.and_self] at hbit
    rw [show (0 : U32).getLsbD source.val = false from BitVec.getLsbD_zero] at hbit
    cases hbit
  · intro h
    refine BitVec.eq_of_getLsbD_eq fun i hi => ?_
    have hnot := h ⟨i, hi⟩
    rw [← Bool.and_eq_true, Bool.not_eq_true] at hnot
    rw [BitVec.getLsbD_and, hnot]
    exact BitVec.getLsbD_zero.symm

/-- The first of the enabled sources that are pending. -/
def First (controller : InterruptController) (source : Fin 32) : Prop :=
  (controller.isPending source = true ∧ controller.isEnabled source = true) ∧
    ∀ other < source, ¬ (controller.isPending other = true ∧ controller.isEnabled other = true)

/-- What a claim takes: nothing, or the first source. -/
theorem claimNext_cases (controller : InterruptController) :
    (controller.enabledPending = 0 ∧ controller.claimNext = (0, controller)) ∨
      ∃ source, controller.First source ∧ controller.claimNext =
        (sourceId source,
          { controller with
            pending := controller.pending &&& ~~~sourceMask (sourceId source)
            claimed := controller.claimed ||| sourceMask (sourceId source) }) := by
  unfold claimNext highestPriorityPendingSource
  by_cases hzero : controller.enabledPending = 0
  · rw [if_pos hzero]
    exact .inl ⟨hzero, rfl⟩
  · have hsome : ∃ i, (List.range 32).find? (controller.enabledPending.getLsbD ·) = some i := by
      rw [← Option.isSome_iff_exists, List.find?_isSome]
      by_contra hnone
      refine hzero (BitVec.eq_of_getLsbD_eq fun i hi => ?_)
      have hclear : controller.enabledPending.getLsbD i = false :=
        Bool.not_eq_true _ ▸ fun hset => hnone ⟨i, List.mem_range.2 hi, hset⟩
      rw [hclear]
      exact BitVec.getLsbD_zero.symm
    obtain ⟨i, hi⟩ := hsome
    obtain ⟨hset, hlt, hbefore⟩ := List.find?_range_eq_some.1 hi
    rw [List.mem_range] at hlt
    have hid : BitVec.ofNat 32 (trailingZeros controller.enabledPending) + 1 = sourceId ⟨i, hlt⟩ := by
      unfold trailingZeros sourceId
      rw [hi, BitVec.ofNat_add]
      rfl
    have hbits (source : Fin 32) : controller.enabledPending.getLsbD source =
        (controller.isPending source && controller.isEnabled source) := BitVec.getLsbD_and
    refine .inr ⟨⟨i, hlt⟩, ⟨?_, fun other hother => ?_⟩, ?_⟩
    · rw [← Bool.and_eq_true, ← hbits]
      exact hset
    · rw [← Bool.and_eq_true, ← hbits, Bool.not_eq_true]
      simpa using hbefore other hother
    · rw [if_neg hzero, hid]
      dsimp only
      rw [if_pos (sourceId_ne_zero ⟨i, hlt⟩)]

/-! ### What a step does to a source -/

/-- The sources that are pending behind a step. -/
theorem isPending_wordStep (controller : InterruptController) (word : WordAccess) (source : Fin 32) :
    (controller.wordStep word).2.isPending source =
      match word with
      | .write .setPending value =>
        controller.isPending source || value.getLsbD source && !controller.isClaimed source
      | .read .claimComplete =>
        controller.isPending source && !decide (controller.claimNext.1 = sourceId source)
      | _ => controller.isPending source := by
  cases word with
  | read register =>
    cases register with
    | claimComplete =>
      show controller.claimNext.2.isPending source = _
      dsimp only
      rcases controller.claimNext_cases with ⟨-, hnone⟩ | ⟨first, -, hclaim⟩
      · rw [hnone, decide_eq_false (sourceId_ne_zero source).symm, Bool.not_false, Bool.and_true]
      · rw [hclaim]
        show (controller.pending &&& ~~~sourceMask (sourceId first)).getLsbD source = _
        rw [BitVec.getLsbD_and, BitVec.getLsbD_not, getLsbD_sourceMask, decide_eq_true source.isLt,
          Bool.true_and]
        rfl
    | _ => rfl
  | write register value =>
    cases register with
    | setPending =>
      show (controller.pending ||| value &&& ~~~controller.claimed).getLsbD source = _
      rw [BitVec.getLsbD_or, BitVec.getLsbD_and, BitVec.getLsbD_not, decide_eq_true source.isLt,
        Bool.true_and]
      rfl
    | _ => rfl

/-- The sources that are claimed behind a step. -/
theorem isClaimed_wordStep (controller : InterruptController) (word : WordAccess) (source : Fin 32) :
    (controller.wordStep word).2.isClaimed source =
      match word with
      | .write .claimComplete value => controller.isClaimed source && !decide (value = sourceId source)
      | .read .claimComplete =>
        controller.isClaimed source || decide (controller.claimNext.1 = sourceId source)
      | _ => controller.isClaimed source := by
  cases word with
  | read register =>
    cases register with
    | claimComplete =>
      show controller.claimNext.2.isClaimed source = _
      dsimp only
      rcases controller.claimNext_cases with ⟨-, hnone⟩ | ⟨first, -, hclaim⟩
      · rw [hnone, decide_eq_false (sourceId_ne_zero source).symm, Bool.or_false]
      · rw [hclaim]
        show (controller.claimed ||| sourceMask (sourceId first)).getLsbD source = _
        rw [BitVec.getLsbD_or, getLsbD_sourceMask]
        rfl
    | _ => rfl
  | write register value =>
    cases register with
    | claimComplete =>
      show (controller.claimed &&& ~~~sourceMask value).getLsbD source = _
      rw [BitVec.getLsbD_and, BitVec.getLsbD_not, getLsbD_sourceMask, decide_eq_true source.isLt,
        Bool.true_and]
      rfl
    | _ => rfl

/-! ## Runs -/

/-- What holds of a controller between two words. -/
structure Sound (controller : InterruptController) : Prop where
  rests : controller.Rests
  size : controller.range.size = 20
  disjoint : ∀ source, ¬ (controller.isPending source = true ∧ controller.isClaimed source = true)

/-- An access is one step, or is refused. -/
theorem Sound.access_cases (h : controller.Sound) (word : WordAccess) :
    controller.access word = controller.wordStep word ∨
      ∃ error, controller.access word = (.error error, controller) := by
  by_cases hmapped : controller.Mapped
  · exact .inl (access_eq hmapped h.rests word)
  · exact .inr (access_unmapped h.size hmapped word)

/-- A claim takes a source that is pending. -/
theorem first_of_claimNext {source : Fin 32} (h : controller.claimNext.1 = sourceId source) :
    controller.First source := by
  rcases controller.claimNext_cases with ⟨-, hnone⟩ | ⟨first, hfirst, hclaim⟩
  · rw [hnone] at h
    exact absurd h.symm (sourceId_ne_zero source)
  · rw [hclaim] at h
    obtain rfl := sourceId_inj.1 h
    exact hfirst

theorem Sound.wordStep (h : controller.Sound) (word : WordAccess) : (controller.wordStep word).2.Sound := by
  -- the latches and the range stay; then each source on its own
  have hframe : (controller.wordStep word).2.Rests ∧ (controller.wordStep word).2.range.size = 20 := by
    cases word with
    | read register =>
      cases register with
      | claimComplete =>
        obtain ⟨hrange, hlatch, hstaging, -, -⟩ := controller.claimNext_frame
        exact ⟨⟨hlatch.trans h.rests.latch, hstaging.trans h.rests.staging⟩,
          (congrArg AddressRange.size hrange).trans h.size⟩
      | _ => exact ⟨⟨h.rests.latch, h.rests.staging⟩, h.size⟩
    | write register value => cases register <;> exact ⟨⟨h.rests.latch, h.rests.staging⟩, h.size⟩
  refine ⟨hframe.1, hframe.2, fun source => ?_⟩
  have hbefore := h.disjoint source
  rw [isPending_wordStep, isClaimed_wordStep]
  cases word with
  | read register =>
    cases register with
    | claimComplete =>
      dsimp only
      by_cases htaken : controller.claimNext.1 = sourceId source
      · rw [decide_eq_true htaken, Bool.not_true, Bool.and_false]
        exact fun hboth => nomatch hboth.1
      · rw [decide_eq_false htaken, Bool.not_false, Bool.and_true, Bool.or_false]
        exact hbefore
    | _ => exact hbefore
  | write register value =>
    cases register with
    | setPending =>
      dsimp only
      cases hclaimed : controller.isClaimed source with
      | false => exact fun hboth => nomatch hboth.2
      | true =>
        rw [Bool.not_true, Bool.and_false, Bool.or_false]
        rw [hclaimed] at hbefore
        exact hbefore
    | claimComplete =>
      dsimp only
      rw [Bool.and_eq_true]
      exact fun hboth => hbefore ⟨hboth.1, hboth.2.1⟩
    | _ => exact hbefore

theorem Sound.next (h : controller.Sound) (word : WordAccess) : (controller.next word).Sound := by
  unfold InterruptController.next
  rcases h.access_cases word with hstep | ⟨error, hrefused⟩
  · rw [hstep]
    exact h.wordStep word
  · rw [hrefused]
    exact h

theorem sound_new (base : Address) : (InterruptController.new base).Sound :=
  ⟨⟨rfl, rfl⟩, rfl, fun source h => by
    have hclear : (InterruptController.new base).isPending source = false := BitVec.getLsbD_zero
    rw [hclear] at h
    exact nomatch h.1⟩

/-! ### What software sees of a source -/

variable (controller) in
/-- The word is a read of the claim register that returns the source. -/
def Claims (word : WordAccess) (source : Fin 32) : Prop :=
  word = .read .claimComplete ∧ (controller.access word).1 = .ok (sourceId source)

variable (controller) in
/-- The word is a write that raises the source. -/
def Raises (word : WordAccess) (source : Fin 32) : Prop :=
  ∃ value, word = .write .setPending value ∧ value.getLsbD source = true ∧
    (controller.access word).1 = .ok 0

variable (controller) in
/-- The word is a write that completes the source. -/
def Completes (word : WordAccess) (source : Fin 32) : Prop :=
  word = .write .claimComplete (sourceId source) ∧ (controller.access word).1 = .ok 0

/-- Only a claim that returns it takes a pending source. -/
theorem Sound.isPending_next (h : controller.Sound) {word : WordAccess} {source : Fin 32}
    (hpending : controller.isPending source = true) (hclaims : ¬ controller.Claims word source) :
    (controller.next word).isPending source = true := by
  unfold InterruptController.next
  rcases h.access_cases word with hstep | ⟨error, hrefused⟩
  · rw [hstep, isPending_wordStep]
    cases word with
    | read register =>
      cases register with
      | claimComplete =>
        -- the claim has returned another source
        have hother : controller.claimNext.1 ≠ sourceId source := by
          intro htaken
          refine hclaims ⟨rfl, ?_⟩
          rw [hstep, ← htaken]
          rfl
        dsimp only
        rw [hpending, decide_eq_false hother]
        rfl
      | _ => exact hpending
    | write register value =>
      cases register with
      | setPending =>
        dsimp only
        rw [hpending]
        rfl
      | _ => exact hpending
  · rw [hrefused]
    exact hpending

/-- A source becomes pending when it is raised. -/
theorem Sound.raises (h : controller.Sound) {word : WordAccess} {source : Fin 32}
    (hbefore : ¬ controller.isPending source = true)
    (hafter : (controller.next word).isPending source = true) : controller.Raises word source := by
  unfold InterruptController.next at hafter
  rcases h.access_cases word with hstep | ⟨error, hrefused⟩
  · rw [Bool.not_eq_true] at hbefore
    rw [hstep, isPending_wordStep, hbefore] at hafter
    cases word with
    | read register => cases register <;> cases hafter
    | write register value =>
      cases register with
      | setPending =>
        dsimp only at hafter
        rw [Bool.false_or, Bool.and_eq_true] at hafter
        refine ⟨value, rfl, hafter.1, ?_⟩
        rw [hstep]
        rfl
      | _ => cases hafter
  · rw [hrefused] at hafter
    exact absurd hafter hbefore

/-- A claimed source stays so until it is completed. -/
theorem Sound.completes (h : controller.Sound) {word : WordAccess} {source : Fin 32}
    (hbefore : controller.isClaimed source = true)
    (hafter : ¬ (controller.next word).isClaimed source = true) : controller.Completes word source := by
  unfold InterruptController.next at hafter
  rcases h.access_cases word with hstep | ⟨error, hrefused⟩
  · rw [hstep, isClaimed_wordStep, hbefore] at hafter
    cases word with
    | read register => cases register <;> exact absurd rfl hafter
    | write register value =>
      cases register with
      | claimComplete =>
        have hid : value = sourceId source := by
          by_contra hne
          refine hafter ?_
          dsimp only
          rw [decide_eq_false hne]
          rfl
        refine ⟨congrArg _ hid, ?_⟩
        rw [hstep]
        rfl
      | _ => exact absurd rfl hafter
  · rw [hrefused] at hafter
    exact absurd hbefore hafter

/-- A source that is not claimed is pending once it is raised. -/
theorem Sound.isPending_of_raises (h : controller.Sound) {word : WordAccess} {source : Fin 32}
    (hraises : controller.Raises word source) (hfree : ¬ controller.isClaimed source = true) :
    (controller.next word).isPending source = true := by
  obtain ⟨value, rfl, hvalue, hok⟩ := hraises
  unfold InterruptController.next
  rcases h.access_cases (.write .setPending value) with hstep | ⟨error, hrefused⟩
  · rw [Bool.not_eq_true] at hfree
    rw [hstep, isPending_wordStep]
    dsimp only
    rw [hvalue, hfree]
    exact Bool.or_true _
  · rw [hrefused] at hok
    cases hok

/-- A source that a claim returns is claimed, and was the first. -/
theorem Sound.of_claims (h : controller.Sound) {word : WordAccess} {source : Fin 32}
    (hclaims : controller.Claims word source) :
    controller.First source ∧ (controller.next word).isClaimed source = true := by
  obtain ⟨rfl, hok⟩ := hclaims
  unfold InterruptController.next
  rcases h.access_cases (.read .claimComplete) with hstep | ⟨error, hrefused⟩
  · rw [hstep] at hok ⊢
    have htaken : controller.claimNext.1 = sourceId source := Except.ok.inj hok
    refine ⟨first_of_claimNext htaken, ?_⟩
    rw [isClaimed_wordStep]
    dsimp only
    rw [decide_eq_true htaken]
    exact Bool.or_true _
  · rw [hrefused] at hok
    cases hok

/-! ### What a run does to a source -/

theorem Sound.run (h : controller.Sound) (words : List WordAccess) :
    (run InterruptController.next controller words).Sound :=
  Along.run_invariant h (fun _ word hs _ => hs.next word) (Along.trivial_of _ _)

/-- A pending source stays pending until a claim returns it. -/
theorem Sound.isPending_run (h : controller.Sound) {words : List WordAccess} {source : Fin 32}
    (hpending : controller.isPending source = true)
    (hclaims : Along InterruptController.next (fun c word => ¬ c.Claims word source) controller words) :
    (Automata.run InterruptController.next controller words).isPending source = true := by
  have hinvariant := Along.run_invariant
    (I := fun c : InterruptController => c.Sound ∧ c.isPending source = true) ⟨h, hpending⟩
    (fun c word hc hnot => ⟨hc.1.next word, hc.1.isPending_next hc.2 hnot⟩) hclaims
  exact hinvariant.2

/-- A source that becomes pending in a run is raised there. -/
theorem Sound.exists_raise {words : List WordAccess} {controller : InterruptController}
    (h : controller.Sound) {source : Fin 32} (hbefore : ¬ controller.isPending source = true)
    (hafter : (Automata.run InterruptController.next controller words).isPending source = true) :
    ∃ early raise late, words = early ++ raise :: late ∧
      (Automata.run InterruptController.next controller early).Raises raise source := by
  induction words generalizing controller with
  | nil => exact absurd hafter hbefore
  | cons word words ih =>
    by_cases hnow : (controller.next word).isPending source = true
    · exact ⟨[], word, words, rfl, h.raises hbefore hnow⟩
    · obtain ⟨early, raise, late, hwords, hraises⟩ := ih (h.next word) hnow hafter
      exact ⟨word :: early, raise, late, by rw [hwords]; rfl, hraises⟩

/-- A claimed source that becomes pending in a run is completed there, and then raised. -/
theorem Sound.exists_completion {words : List WordAccess} {controller : InterruptController}
    (h : controller.Sound) {source : Fin 32} (hclaimed : controller.isClaimed source = true)
    (hafter : (Automata.run InterruptController.next controller words).isPending source = true) :
    ∃ early completion middle raise late,
      words = early ++ completion :: (middle ++ raise :: late) ∧
      (Automata.run InterruptController.next controller early).Completes completion source ∧
      (Automata.run InterruptController.next controller (early ++ completion :: middle)).Raises raise
        source := by
  induction words generalizing controller with
  | nil => exact absurd ⟨hafter, hclaimed⟩ (h.disjoint source)
  | cons word words ih =>
    by_cases hnow : (controller.next word).isClaimed source = true
    · obtain ⟨early, completion, middle, raise, late, hwords, hcompletes, hraises⟩ :=
        ih (h.next word) hnow hafter
      exact ⟨word :: early, completion, middle, raise, late, by rw [hwords]; rfl, hcompletes, hraises⟩
    · have hcompletes := h.completes hclaimed hnow
      have hpending : ¬ (controller.next word).isPending source = true := by
        intro hpending
        have hclear : ¬ controller.isPending source = true := fun hp => h.disjoint source ⟨hp, hclaimed⟩
        obtain ⟨_, hword, -, -⟩ := h.raises hclear hpending
        rw [hcompletes.1] at hword
        cases hword
      obtain ⟨middle, raise, late, hwords, hraises⟩ := (h.next word).exists_raise hpending hafter
      exact ⟨[], word, middle, raise, late, by rw [hwords]; rfl, hcompletes, hraises⟩

/-! ### What software can rely on -/

variable (controller)

/-- A claim returns the lowest-numbered source that is pending and enabled, and moves it; completing a
source changes no other; and the line is raised exactly while an enabled source is pending. -/
structure Orderly : Prop where
  disjoint : ∀ source, ¬ (controller.isPending source = true ∧ controller.isClaimed source = true)
  answers : controller.Mapped → ∀ value, (∃ id, (controller.access (.read .claimComplete)).1 = .ok id) ∧
    (controller.access (.write .setPending value)).1 = .ok 0 ∧
    (controller.access (.write .claimComplete value)).1 = .ok 0
  claim : ∀ id, (controller.access (.read .claimComplete)).1 = .ok id →
    (id = 0 ∧ (∀ source, ¬ (controller.isPending source = true ∧ controller.isEnabled source = true)) ∧
        controller.next (.read .claimComplete) = controller) ∨
      ∃ source, id = sourceId source ∧ controller.First source ∧ ∀ other,
        (controller.next (.read .claimComplete)).isPending other =
            (controller.isPending other && decide (other ≠ source)) ∧
          (controller.next (.read .claimComplete)).isClaimed other =
            (controller.isClaimed other || decide (other = source))
  complete : ∀ value source, value ≠ sourceId source →
    (controller.next (.write .claimComplete value)).isPending source = controller.isPending source ∧
      (controller.next (.write .claimComplete value)).isClaimed source = controller.isClaimed source ∧
      (controller.next (.write .claimComplete value)).isEnabled source = controller.isEnabled source
  raised : (∃ source, controller.isPending source = true ∧ controller.isEnabled source = true) →
    controller.pendingInterrupts = .fromLine controller.route.interruptLine
  silent : (¬ ∃ source, controller.isPending source = true ∧ controller.isEnabled source = true) →
    controller.pendingInterrupts = .empty

/-- A source that is raised stays pending until a claim returns it, and no claim returns it again before
it is completed and then raised. -/
structure ClaimedOnce : Prop where
  kept : ∀ raise source words, controller.Raises raise source → ¬ controller.isClaimed source = true →
    Along next (fun c word => ¬ c.Claims word source) (controller.next raise) words →
      (run next (controller.next raise) words).isPending source = true
  once : ∀ claim again source words, controller.Claims claim source →
    (run next (controller.next claim) words).Claims again source →
      ∃ early completion middle raise late, words = early ++ completion :: (middle ++ raise :: late) ∧
        (run next (controller.next claim) early).Completes completion source ∧
        (run next (controller.next claim) (early ++ completion :: middle)).Raises raise source

variable {controller}

theorem Sound.orderly (h : controller.Sound) : controller.Orderly := by
  have hexists : (¬ ∃ source, controller.isPending source = true ∧ controller.isEnabled source = true) ↔
      controller.enabledPending = 0 := by
    rw [enabledPending_eq_zero, not_exists]
  refine ⟨h.disjoint, fun hmapped value => ?_, fun id hok => ?_, fun value source hne => ?_, ?_, ?_⟩
  · rw [access_eq hmapped h.rests, access_eq hmapped h.rests, access_eq hmapped h.rests]
    exact ⟨⟨_, rfl⟩, rfl, rfl⟩
  · unfold InterruptController.next
    rcases h.access_cases (.read .claimComplete) with hstep | ⟨error, hrefused⟩
    · rw [hstep] at hok ⊢
      obtain rfl : controller.claimNext.1 = id := Except.ok.inj hok
      have hpending := isPending_wordStep controller (.read .claimComplete)
      have hclaimed := isClaimed_wordStep controller (.read .claimComplete)
      dsimp only at hpending hclaimed
      -- a claim returns nothing, or the first source and moves it to the claimed ones
      rcases controller.claimNext_cases with ⟨hzero, hnone⟩ | ⟨first, hfirst, hclaim⟩
      · refine .inl ⟨congrArg Prod.fst hnone, enabledPending_eq_zero.1 hzero, ?_⟩
        exact congrArg Prod.snd hnone
      · have hid : controller.claimNext.1 = sourceId first := congrArg Prod.fst hclaim
        refine .inr ⟨first, hid, hfirst, fun other => ?_⟩
        rw [hpending, hclaimed, hid]
        simp only [sourceId_inj, eq_comm (a := first), decide_not, and_self]
    · rw [hrefused] at hok
      cases hok
  · unfold InterruptController.next
    rcases h.access_cases (.write .claimComplete value) with hstep | ⟨error, hrefused⟩
    · rw [hstep, isPending_wordStep, isClaimed_wordStep]
      dsimp only
      rw [decide_eq_false hne, Bool.not_false, Bool.and_true]
      exact ⟨rfl, rfl, rfl⟩
    · rw [hrefused]
      exact ⟨rfl, rfl, rfl⟩
  · intro hsome
    unfold pendingInterrupts
    rw [if_pos fun hzero => hexists.2 hzero hsome]
  · intro hnone
    unfold pendingInterrupts
    rw [if_neg (not_not.2 (hexists.1 hnone))]

theorem Sound.claimedOnce (h : controller.Sound) : controller.ClaimedOnce := by
  refine ⟨fun raise source words hraises hfree hclaims => ?_,
    fun claim again source words hclaims hagain => ?_⟩
  · exact (h.next raise).isPending_run (h.isPending_of_raises hraises hfree) hclaims
  · have hlater := (h.next claim).run words
    exact (h.next claim).exists_completion (h.of_claims hclaims).2 (hlater.of_claims hagain).1.1.1

/-- **No source is lost, and none is claimed twice**, in any run of words that software reads and writes. -/
theorem claims_run (base : Address) (words : List WordAccess) :
    (run next (.new base) words).Orderly ∧ (run next (.new base) words).ClaimedOnce :=
  ⟨((sound_new base).run words).orderly, ((sound_new base).run words).claimedOnce⟩

end InterruptController

end RvSim
