import Mathlib.Data.List.Basic
import Mathlib.Tactic

/-!
# Texts with separators

The fields of a text are what `List.splitOn` makes of it. There is one more of them than there are
separators, and the separators and the last characters of the fields are found by counting.
-/

namespace MataDevice.Fields

open List

variable {α : Type} [BEq α] [LawfulBEq α] {c : α} {s a b : List α} {n : ℕ}

/-- A text with more than `n` separators, cut at the `n`-th of them, from 0 on -/
theorem exists_append_cons_of_lt_count (h : n < s.count c) :
    ∃ a b, s = a ++ c :: b ∧ a.count c = n := by
  induction s generalizing n with
  | nil => simp at h
  | cons x s ih =>
    by_cases hx : x = c
    · subst hx
      cases n with
      | zero => exact ⟨[], s, rfl, rfl⟩
      | succ n =>
        obtain ⟨a, b, rfl, hcount⟩ := ih (n := n) (by simpa using h)
        exact ⟨x :: a, b, rfl, by simp [hcount]⟩
    · rw [count_cons_of_ne hx] at h
      obtain ⟨a, b, rfl, hcount⟩ := ih h
      exact ⟨x :: a, b, rfl, by rw [count_cons_of_ne hx, hcount]⟩

theorem length_splitOn : (s.splitOn c).length = s.count c + 1 := by
  induction s with
  | nil => simp
  | cons x s ih =>
    by_cases hx : x = c
    · subst hx
      have happend := splitOn_append_cons_self (a := x) [] s
      rw [nil_append, splitOn_nil] at happend
      rw [happend, length_append, ih, count_cons_self]
      simp
      omega
    · rw [splitOn_cons_eq_if_modifyHead, if_neg (by simpa using hx), length_modifyHead,
        ih, count_cons_of_ne hx]

/-- What is before a separator ends in the field before it, or in a separator if that is empty. -/
theorem getLast?_of_splitOn (h : 0 < a.count c) :
    a.getLast? = (((a ++ c :: b).splitOn c)[a.count c]?.bind List.getLast?).or (some c) := by
  obtain ⟨u, q, rfl, hu⟩ :=
    exists_append_cons_of_lt_count (c := c) (s := a) (n := a.count c - 1) (by omega)
  have hq : c ∉ q := by
    rw [count_append, count_cons_self] at hu
    exact count_eq_zero.mp (by omega)
  have hlen : (u.splitOn c).length = (u ++ c :: q).count c := by
    rw [length_splitOn]
    omega
  rw [splitOn_append_cons_self, splitOn_append_cons_self, splitOn_eq_singleton hq,
    append_assoc, ← hlen, getElem?_append_right le_rfl, Nat.sub_self]
  rw [getLast?_append, getLast?_cons]
  cases hlast : q.getLast? <;> simp [hlast]

/-- Of pieces that each start with a separator, none is lost, whatever comes before the first. -/
theorem splitOn_append_flatMap_cons {field : List α} {ps : List (List α)} (hfield : c ∉ field)
    (h : ∀ p ∈ ps, c ∉ p) : (field ++ ps.flatMap (c :: ·)).splitOn c = field :: ps := by
  induction ps generalizing field with
  | nil => rw [flatMap_nil, append_nil, splitOn_eq_singleton hfield]
  | cons p ps ih =>
    rw [forall_mem_cons] at h
    rw [flatMap_cons, cons_append, splitOn_append_cons_self_of_not_mem hfield, ih h.1 h.2]

end MataDevice.Fields
