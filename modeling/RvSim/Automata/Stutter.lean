import Mathlib.Order.WellFounded
import RvSim.Automata.Run

/-!
# Simulations with waits

A concrete system that follows an abstract one, but may wait: a step of it either leaves the abstract
state as it is, outputs nothing and comes closer to the next abstract step, or makes that step with its
output. The abstract state decides whether it goes on.

## Main definitions

* `inputs`: the first inputs of a stream
* `Waits`: such a simulation

## Main results

* `Waits.follow`: a run of the concrete system has made a number of abstract steps
* `Waits.reach`: every abstract step is made
-/

namespace Automata

universe u v w

variable {σ : Type u} {ι : Type v} {ω : Type w} {next : σ → ι → σ} {out : σ → ι → List ω}

/-- The first `n` inputs of a stream. -/
def inputs (f : Nat → ι) (n : Nat) : List ι := (List.range n).map f

@[simp] theorem inputs_zero (f : Nat → ι) : inputs f 0 = [] := rfl

theorem inputs_succ (f : Nat → ι) (n : Nat) : inputs f (n + 1) = inputs f n ++ [f n] := by
  simp [inputs, List.range_succ]

theorem run_inputs_succ (f : Nat → ι) (s : σ) (n : Nat) :
    run next s (inputs f (n + 1)) = next (run next s (inputs f n)) (f n) := by
  rw [inputs_succ, run_append]
  rfl

theorem outputs_inputs_succ (f : Nat → ι) (s : σ) (n : Nat) :
    outputs next out s (inputs f (n + 1)) =
      outputs next out s (inputs f n) ++ out (run next s (inputs f n)) (f n) := by
  rw [inputs_succ, outputs_append]
  simp

variable {α : Type u} {μ : Type w} [Preorder μ] [WellFoundedLT μ]

/-- A simulation with waits. `R a s` is that the concrete state `s` is on its way from the abstract state
`a` to the next one, `Goes a` that `a` goes on, and `measure` how long the way is. -/
structure Waits (next : σ → ι → σ) (out : σ → ι → List ω) (advance : α → α) (emit : α → List ω)
    (Goes : α → Prop) (R : α → σ → Prop) (measure : α → σ → μ) : Prop where
  step (a : α) (s : σ) (i : ι) : R a s → Goes a →
    (R a (next s i) ∧ out s i = [] ∧ measure a (next s i) < measure a s) ∨
    (R (advance a) (next s i) ∧ out s i = emit a)

/-- What the first abstract steps output. -/
def emitted (advance : α → α) (emit : α → List ω) (a : α) : Nat → List ω
  | 0 => []
  | k + 1 => emitted advance emit a k ++ emit (advance^[k] a)

namespace Waits

variable {advance : α → α} {emit : α → List ω} {Goes : α → Prop} {R : α → σ → Prop}
  {measure : α → σ → μ}

omit [WellFoundedLT μ] in
theorem emitted_prefix (a : α) {k l : Nat} (h : k ≤ l) :
    emitted advance emit a k <+: emitted advance emit a l := by
  induction l with
  | zero =>
    obtain rfl : k = 0 := by omega
    exact List.prefix_refl _
  | succ l ih =>
    rcases Nat.lt_or_ge l k with hk | hk
    · obtain rfl : k = l + 1 := by omega
      exact List.prefix_refl _
    · exact (ih hk).trans (List.prefix_append _ _)

omit [WellFoundedLT μ] in
/-- **A run follows the abstract system**, as long as the states it comes from go on. -/
theorem follow (w : Waits next out advance emit Goes R measure) {a : α} {s : σ} (h : R a s)
    (f : Nat → ι) (n : Nat)
    (goes : ∀ i < n, ∀ b, R b (run next s (inputs f i)) → Goes b) :
    ∃ k, R (advance^[k] a) (run next s (inputs f n)) ∧
      outputs next out s (inputs f n) = emitted advance emit a k ∧
      ∀ j < k, Goes (advance^[j] a) := by
  induction n with
  | zero => exact ⟨0, h, rfl, by omega⟩
  | succ n ih =>
    obtain ⟨k, hR, hout, hgoes⟩ := ih fun i hi => goes i (by omega)
    have hk := goes n (by omega) _ hR
    rw [run_inputs_succ, outputs_inputs_succ, hout]
    rcases w.step _ _ (f n) hR hk with ⟨hR', hnone, -⟩ | ⟨hR', hemit⟩
    · exact ⟨k, hR', by rw [hnone, List.append_nil], hgoes⟩
    · refine ⟨k + 1, ?_, by rw [hemit]; rfl, fun j hj => ?_⟩
      · rw [Function.iterate_succ_apply']
        exact hR'
      · rcases Nat.lt_or_ge j k with hj' | hj'
        · exact hgoes j hj'
        · obtain rfl : j = k := by omega
          exact hk

/-- A state on its way makes the next abstract step. -/
theorem arrives (w : Waits next out advance emit Goes R measure) {a : α} {s : σ} (f : Nat → ι)
    (goes : Goes a) (n : Nat) (h : R a (run next s (inputs f n))) :
    ∃ m, R (advance a) (run next s (inputs f m)) ∧
      outputs next out s (inputs f m) = outputs next out s (inputs f n) ++ emit a := by
  -- by induction on how long the way is
  induction hm : measure a (run next s (inputs f n)) using WellFoundedLT.induction generalizing n with
  | ind x ih =>
    subst hm
    rcases w.step _ _ (f n) h goes with ⟨hR, hnone, less⟩ | ⟨hR, hemit⟩
    · have hnext : run next s (inputs f (n + 1)) = next (run next s (inputs f n)) (f n) :=
        run_inputs_succ f s n
      rw [← hnext] at hR less
      obtain ⟨m, hR', hout⟩ := ih _ less (n + 1) hR rfl
      refine ⟨m, hR', ?_⟩
      rw [hout, outputs_inputs_succ, hnone, List.append_nil]
    · refine ⟨n + 1, ?_, ?_⟩
      · rw [run_inputs_succ]
        exact hR
      · rw [outputs_inputs_succ, hemit]

/-- **Every abstract step is made**, as long as the abstract states go on. -/
theorem reach (w : Waits next out advance emit Goes R measure) {a : α} {s : σ} (h : R a s)
    (f : Nat → ι) (k : Nat) (goes : ∀ j < k, Goes (advance^[j] a)) :
    ∃ m, R (advance^[k] a) (run next s (inputs f m)) ∧
      outputs next out s (inputs f m) = emitted advance emit a k := by
  induction k with
  | zero => exact ⟨0, h, rfl⟩
  | succ k ih =>
    obtain ⟨n, hR, hout⟩ := ih fun j hj => goes j (by omega)
    obtain ⟨m, hR', hout'⟩ := w.arrives f (goes k (by omega)) n hR
    refine ⟨m, ?_, by rw [hout', hout]; rfl⟩
    rw [Function.iterate_succ_apply']
    exact hR'

end Waits

end Automata
