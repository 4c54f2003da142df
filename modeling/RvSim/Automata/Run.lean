import Mathlib.Data.List.Basic

/-!
# Runs of a deterministic system

A system is a state type `σ`, an input type `ι` and a step `next`. This module has the runs of such
a system over a list of inputs, what holds at every step of a run, and what a run outputs.

## Main definitions

* `run`: the state after a list of inputs
* `Along`: a property of every step of a run
* `outputs`: what the steps of a run output, in order

## Main results

* `Along.run_invariant`: the induction rule of an invariant
* `Along.of_invariant`: the steps of a run have every property an invariant gives
* `Along.outputs_invariant`: an invariant between the state and all outputs so far
* `Along.outputs_progress`: a measure that every step brings closer to a bound
-/

namespace Automata

universe u v w

variable {σ : Type u} {ι : Type v} {ω : Type w} (next : σ → ι → σ)

/-- The state after the inputs `is`. -/
def run : σ → List ι → σ
  | s, [] => s
  | s, i :: is => run (next s i) is

/-- Every step of the run on `is` has the property `P` of its state and input. -/
def Along (P : σ → ι → Prop) : σ → List ι → Prop
  | _, [] => True
  | s, i :: is => P s i ∧ Along P (next s i) is

/-- The outputs of the run on `is`, in order. -/
def outputs (out : σ → ι → List ω) : σ → List ι → List ω
  | _, [] => []
  | s, i :: is => out s i ++ outputs out (next s i) is

@[simp] theorem run_nil (s : σ) : run next s [] = s := rfl

@[simp] theorem run_cons (s : σ) (i : ι) (is : List ι) :
    run next s (i :: is) = run next (next s i) is := rfl

theorem run_append (s : σ) (is js : List ι) :
    run next s (is ++ js) = run next (run next s is) js := by
  induction is generalizing s with
  | nil => rfl
  | cons i is ih => exact ih (next s i)

@[simp] theorem along_nil (P : σ → ι → Prop) (s : σ) : Along next P s [] := trivial

@[simp] theorem along_cons (P : σ → ι → Prop) (s : σ) (i : ι) (is : List ι) :
    Along next P s (i :: is) ↔ P s i ∧ Along next P (next s i) is := Iff.rfl

theorem along_append (P : σ → ι → Prop) (s : σ) (is js : List ι) :
    Along next P s (is ++ js) ↔ Along next P s is ∧ Along next P (run next s is) js := by
  induction is generalizing s with
  | nil => simp
  | cons i is ih => simp [ih, and_assoc]

/-- A property of every step, step by step. -/
theorem along_iff_forall_prefix (P : σ → ι → Prop) (s : σ) (is : List ι) :
    Along next P s is ↔ ∀ js i, js ++ [i] <+: is → P (run next s js) i := by
  constructor
  · rintro h js i ⟨ks, rfl⟩
    rw [List.append_assoc, along_append] at h
    exact h.2.1
  · induction is generalizing s with
    | nil => exact fun _ => trivial
    | cons i is ih =>
      intro h
      refine ⟨h [] i ⟨is, rfl⟩, ih (next s i) fun js j hpre => ?_⟩
      exact h (i :: js) j ((List.cons_prefix_cons).mpr ⟨rfl, hpre⟩)

@[simp] theorem outputs_nil (out : σ → ι → List ω) (s : σ) : outputs next out s [] = [] := rfl

@[simp] theorem outputs_cons (out : σ → ι → List ω) (s : σ) (i : ι) (is : List ι) :
    outputs next out s (i :: is) = out s i ++ outputs next out (next s i) is := rfl

theorem outputs_append (out : σ → ι → List ω) (s : σ) (is js : List ι) :
    outputs next out s (is ++ js) =
      outputs next out s is ++ outputs next out (run next s is) js := by
  induction is generalizing s with
  | nil => rfl
  | cons i is ih => simp [ih]

instance decidableAlong (P : σ → ι → Prop) [∀ s i, Decidable (P s i)] :
    ∀ s is, Decidable (Along next P s is)
  | _, [] => isTrue trivial
  | s, i :: is =>
    have := decidableAlong P (next s i) is
    inferInstanceAs (Decidable (P s i ∧ Along next P (next s i) is))

namespace Along

variable {next} {P Q : σ → ι → Prop} {I : σ → Prop} {s : σ} {is : List ι}

theorem imp (hPQ : ∀ s i, P s i → Q s i) (h : Along next P s is) : Along next Q s is := by
  induction is generalizing s with
  | nil => trivial
  | cons i is ih => exact ⟨hPQ s i h.1, ih h.2⟩

theorem and (hP : Along next P s is) (hQ : Along next Q s is) :
    Along next (fun s i => P s i ∧ Q s i) s is := by
  induction is generalizing s with
  | nil => trivial
  | cons i is ih => exact ⟨⟨hP.1, hQ.1⟩, ih hP.2 hQ.2⟩

/-- An invariant that every step with `P` keeps, and in which such a step has `Q`, gives `Q` to
every step of a run with `P`. -/
theorem of_invariant (hstart : I s)
    (hstep : ∀ s i, I s → P s i → Q s i ∧ I (next s i)) (h : Along next P s is) :
    Along next Q s is := by
  induction is generalizing s with
  | nil => trivial
  | cons i is ih => exact ⟨(hstep s i hstart h.1).1, ih (hstep s i hstart h.1).2 h.2⟩

/-- **The invariant rule**: what holds at the start and is kept by every step with `P` holds at
the end of every run with `P`. -/
theorem run_invariant (hstart : I s) (hstep : ∀ s i, I s → P s i → I (next s i))
    (h : Along next P s is) : I (run next s is) := by
  induction is generalizing s with
  | nil => exact hstart
  | cons i is ih => exact ih (hstep s i hstart h.1) h.2

/-- Where an invariant is lost by exactly the steps without `Q`, and `R` with it, the steps of a run all
have `Q` if they all have `R`, and the other way round. -/
theorem iff_of_invariant {R : σ → ι → Prop} (hstart : I s)
    (hgood : ∀ s i, I s → P s i → Q s i → R s i ∧ I (next s i))
    (hbad : ∀ s i, I s → P s i → ¬ Q s i → ¬ R s i) (h : Along next P s is) :
    Along next R s is ↔ Along next Q s is := by
  induction is generalizing s with
  | nil => exact Iff.rfl
  | cons i is ih =>
    rw [along_cons, along_cons]
    by_cases hq : Q s i
    · obtain ⟨hr, hnext⟩ := hgood s i hstart h.1 hq
      rw [ih hnext h.2]
      exact ⟨fun hs => ⟨hq, hs.2⟩, fun hs => ⟨hr, hs.2⟩⟩
    · exact ⟨fun hs => absurd hs.1 (hbad s i hstart h.1 hq), fun hs => absurd hs.1 hq⟩

/-- An invariant between the state and the outputs so far. -/
theorem outputs_invariant {out : σ → ι → List ω} {I : List ω → σ → Prop} (past : List ω)
    (hstart : I past s)
    (hstep : ∀ past s i, I past s → P s i → I (past ++ out s i) (next s i))
    (h : Along next P s is) : I (past ++ outputs next out s is) (run next s is) := by
  induction is generalizing s past with
  | nil => simpa using hstart
  | cons i is ih =>
    have := ih (past ++ out s i) (hstep past s i hstart h.1) h.2
    rwa [List.append_assoc] at this

/-- **Progress**: if every step brings a measure of the state and the outputs so far closer to a bound, a run
takes it as far as it has steps. -/
theorem outputs_progress {out : σ → ι → List ω} {I : List ω → σ → Prop} {bound : Nat}
    (measure : List ω → σ → Nat) (past : List ω) (hstart : I past s)
    (hstep : ∀ past s i, I past s → P s i → I (past ++ out s i) (next s i) ∧
      min bound (measure past s + 1) ≤ measure (past ++ out s i) (next s i))
    (h : Along next P s is) :
    min bound (measure past s + is.length) ≤
      measure (past ++ outputs next out s is) (run next s is) := by
  induction is generalizing s past with
  | nil =>
    show min bound (measure past s) ≤ measure (past ++ []) s
    rw [List.append_nil]
    exact Nat.min_le_right _ _
  | cons i is ih =>
    obtain ⟨hnext, hmeasure⟩ := hstep past s i hstart h.1
    have hrest := ih (past ++ out s i) hnext h.2
    rw [List.append_assoc] at hrest
    rw [List.length_cons, outputs_cons, run_cons]
    omega

/-- A property that only the inputs decide. -/
theorem of_forall_mem (h : ∀ i ∈ is, ∀ s, P s i) : Along next P s is := by
  induction is generalizing s with
  | nil => trivial
  | cons i is ih =>
    exact ⟨h i List.mem_cons_self s, ih fun j hj => h j (List.mem_cons_of_mem _ hj)⟩

/-- The steps of a run without any condition. -/
theorem trivial_of (s : σ) (is : List ι) : Along next (fun _ _ => True) s is := by
  induction is generalizing s with
  | nil => trivial
  | cons i is ih => exact ⟨trivial, ih _⟩

end Along

end Automata
