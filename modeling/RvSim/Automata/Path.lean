import Mathlib.Data.List.Basic

/-!
# Paths

A list of edges that leads from one point to another. A queue of steps that have been planned ahead
is such a path: a step is taken at its front, and a new one is added where it ends.

## Main definitions

* `Leads`: a list of edges leads from a point to a point

## Main results

* `leads_append`: a path is cut at any of its points
* `Leads.start_eq`: a path starts at its first edge, or ends where it starts
-/

namespace Automata

universe u

variable {α : Type u}

/-- The edges lead from `a` to `b`: each starts where the one before it ends. -/
def Leads : α → List (α × α) → α → Prop
  | a, [], b => a = b
  | a, e :: es, b => e.1 = a ∧ Leads e.2 es b

@[simp] theorem leads_nil (a b : α) : Leads a [] b ↔ a = b := Iff.rfl

@[simp] theorem leads_cons (a b : α) (e : α × α) (es : List (α × α)) :
    Leads a (e :: es) b ↔ e.1 = a ∧ Leads e.2 es b := Iff.rfl

theorem leads_append (a c : α) (es fs : List (α × α)) :
    Leads a (es ++ fs) c ↔ ∃ b, Leads a es b ∧ Leads b fs c := by
  induction es generalizing a with
  | nil => simp
  | cons e es ih => simp [ih, and_assoc]

/-- A path can be lengthened where it ends. -/
theorem Leads.snoc {a b : α} {es : List (α × α)} (h : Leads a es b) (c : α) :
    Leads a (es ++ [(b, c)]) c :=
  (leads_append a c es [(b, c)]).mpr ⟨b, h, rfl, rfl⟩

/-- A path starts at its first edge, or ends where it starts. -/
theorem Leads.start_eq {a b : α} {es : List (α × α)} (h : Leads a es b) :
    (es.head?.map Prod.fst).getD b = a := by
  cases es with
  | nil => exact h.symm
  | cons e es => exact h.1

/-- What is left of a path without its first `n` edges can be lengthened, too. -/
theorem Leads.drop_snoc {a b : α} {es : List (α × α)} {n : Nat} (hn : n ≤ es.length)
    (h : Leads a (es.drop n) b) (c : α) : Leads a ((es ++ [(b, c)]).drop n) c := by
  rw [List.drop_append_of_le_length hn]
  exact h.snoc c

end Automata
