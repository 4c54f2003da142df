import Mathlib.Data.List.Basic

/-!
# Attempts that are repeated

An attempt on a state `σ` has a result, or asks to be made again; between two attempts the
surroundings change the state. This module has the repetition of an attempt over a list of such
changes, and the rule that compares two repetitions.

## Main definitions

* `retry`: repeat an attempt while it has no result

## Main results

* `retry_congr`: attempts that agree under an invariant have the same repetitions
-/

namespace Automata

universe u v

variable {σ : Type u} {ω : Type v}

/-- Make an attempt, and make it again after each change of the state as long as it has no result. -/
def retry (attempt : σ → Option ω × σ) : List (σ → σ) → σ → Option ω × σ
  | [], s => attempt s
  | change :: changes, s =>
    match attempt s with
    | (some result, s) => (some result, s)
    | (none, s) => retry attempt changes (change s)

@[simp] theorem retry_nil (attempt : σ → Option ω × σ) (s : σ) :
    retry attempt [] s = attempt s := rfl

theorem retry_cons_of_some {attempt : σ → Option ω × σ} {change : σ → σ} {changes : List (σ → σ)}
    {s s' : σ} {result : ω} (h : attempt s = (some result, s')) :
    retry attempt (change :: changes) s = (some result, s') := by
  simp [retry, h]

theorem retry_cons_of_none {attempt : σ → Option ω × σ} {change : σ → σ} {changes : List (σ → σ)}
    {s s' : σ} (h : attempt s = (none, s')) :
    retry attempt (change :: changes) s = retry attempt changes (change s') := by
  simp [retry, h]

/-- **Attempts that agree under an invariant have the same repetitions**, if a failed attempt and the
changes keep it. -/
theorem retry_congr {f g : σ → Option ω × σ} (I : σ → Prop) (hagree : ∀ s, I s → f s = g s)
    (hkept : ∀ s s', I s → f s = (none, s') → I s') {changes : List (σ → σ)}
    (hchanges : ∀ change ∈ changes, ∀ s, I s → I (change s)) {s : σ} (hs : I s) :
    retry f changes s = retry g changes s := by
  induction changes generalizing s with
  | nil => exact hagree s hs
  | cons change changes ih =>
    rcases hf : f s with ⟨_ | result, s'⟩
    · rw [retry_cons_of_none hf, retry_cons_of_none ((hagree s hs).symm.trans hf)]
      refine ih (fun c hc => hchanges c (List.mem_cons_of_mem _ hc)) ?_
      exact hchanges change List.mem_cons_self _ (hkept s s' hs hf)
    · rw [retry_cons_of_some hf, retry_cons_of_some ((hagree s hs).symm.trans hf)]

end Automata
