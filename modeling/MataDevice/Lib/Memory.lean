import Mathlib.Tactic

/-!
# Memory cells with addresses

Memory as the list of the cells in use, each with its address. What is read is found by `lookup`;
the lemmas say what writing and freeing do to a list that is known by its parts.
-/

namespace MataDevice.Memory

open List

variable {α : Type} {addr : ℕ} {m m' : List (ℕ × α)}

/-- Write to the cell at an address. -/
def modify (addr : ℕ) (f : α → α) (m : List (ℕ × α)) : List (ℕ × α) :=
  m.map fun p ↦ if p.1 = addr then (p.1, f p.2) else p

/-- Free the cell at an address. -/
def free (addr : ℕ) (m : List (ℕ × α)) : List (ℕ × α) := m.eraseP fun p ↦ p.1 = addr

theorem modify_cons_self (f : α → α) (x : α) (m : List (ℕ × α)) :
    modify addr f ((addr, x) :: m) = (addr, f x) :: modify addr f m := by
  rw [modify, map_cons, if_pos rfl, ← modify]

theorem modify_cons_of_ne {p : ℕ × α} (h : p.1 ≠ addr) (f : α → α) (m : List (ℕ × α)) :
    modify addr f (p :: m) = p :: modify addr f m := by
  rw [modify, map_cons, if_neg h, ← modify]

theorem modify_append (f : α → α) (m m' : List (ℕ × α)) :
    modify addr f (m ++ m') = modify addr f m ++ modify addr f m' := map_append

theorem modify_of_not_mem (h : addr ∉ m.map Prod.fst) (f : α → α) : modify addr f m = m := by
  have hne : ∀ p ∈ m, p.1 ≠ addr := by
    rintro p hp rfl
    exact h (mem_map_of_mem hp)
  rw [modify, map_congr_left (fun p hp ↦ if_neg (hne p hp)), map_id']

theorem free_cons_self (x : α) (m : List (ℕ × α)) : free addr ((addr, x) :: m) = m :=
  eraseP_cons_of_pos (by simp)

theorem free_cons_of_ne {p : ℕ × α} (h : p.1 ≠ addr) (m : List (ℕ × α)) :
    free addr (p :: m) = p :: free addr m :=
  eraseP_cons_of_neg (by simpa using h)

theorem free_append (h : addr ∉ m.map Prod.fst) (m' : List (ℕ × α)) :
    free addr (m ++ m') = m ++ free addr m' := by
  refine eraseP_append_right _ fun p hp hp' ↦ h ?_
  obtain rfl : p.1 = addr := by simpa using hp'
  exact mem_map_of_mem hp

theorem lookup_append_of_not_mem (h : addr ∉ m.map Prod.fst) (m' : List (ℕ × α)) :
    (m ++ m').lookup addr = m'.lookup addr := by
  have hnone : m.lookup addr = none := by
    refine lookup_eq_none_iff.mpr fun p hp ↦ ?_
    rw [bne_iff_ne]
    rintro rfl
    exact h (mem_map_of_mem hp)
  rw [lookup_append, hnone, Option.none_or]

end MataDevice.Memory
