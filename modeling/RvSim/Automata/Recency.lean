import Mathlib.Data.List.Basic

/-!
# The order of last uses

Objects are used one at a time. A history lists the uses, the latest one first.

## Main definitions

* `lastUse`: when an object was last used

## Main results

* `lastUse_cons_self`, `lastUse_cons_of_ne`: what a use changes
* `lastUse_inj`: no two objects were last used at the same time
-/

namespace Automata

universe u

variable {α : Type u} [DecidableEq α] {history : List α} {a b : α}

/-- The number of uses up to the last one of the object, 0 if it was never used. -/
def lastUse (history : List α) (a : α) : Nat := history.length - history.idxOf a

@[simp] theorem lastUse_cons_self (history : List α) (a : α) :
    lastUse (a :: history) a = history.length + 1 := by
  simp [lastUse]

theorem lastUse_cons_of_ne (h : a ≠ b) (history : List α) :
    lastUse (b :: history) a = lastUse history a := by
  unfold lastUse
  rw [List.idxOf_cons_ne _ h.symm, List.length_cons, Nat.succ_eq_add_one, Nat.add_sub_add_right]

theorem lastUse_le (history : List α) (a : α) : lastUse history a ≤ history.length :=
  Nat.sub_le _ _

theorem lastUse_inj (ha : a ∈ history) (hb : b ∈ history)
    (h : lastUse history a = lastUse history b) : a = b := by
  have hlt := List.idxOf_lt_length_of_mem ha
  have hlt' := List.idxOf_lt_length_of_mem hb
  unfold lastUse at h
  exact (List.idxOf_inj ha).1 (by omega)

end Automata
