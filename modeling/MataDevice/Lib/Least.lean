import Mathlib.Order.Bounds.Basic
import Mathlib.Order.MinMax

/-!
# Least values over a list

The least value of a function over the items of a list, as a relation: `IsLeastOn f l b`. It depends
on the list only through its members, and the lemmas say what adding a member does to it.

`firstLeast f l` is the first item at which the least value is taken. A loop that keeps an item
until it meets one with a smaller value ends with it; `foldl_eq_firstLeast` says so for any loop of
this kind, whatever value stands for "nothing kept yet".
-/

namespace MataDevice

open List

variable {α β : Type} [LinearOrder β]

def IsLeastOn (f : α → β) (l : List α) (b : β) : Prop := IsLeast {y | ∃ x ∈ l, f x = y} b

namespace IsLeastOn

variable {f : α → β} {l l' : List α} {b c : β} {x : α}

theorem of_mem (hx : x ∈ l) (h : ∀ y ∈ l, f x ≤ f y) : IsLeastOn f l (f x) := by
  refine ⟨⟨x, hx, rfl⟩, ?_⟩
  rintro _ ⟨y, hy, rfl⟩
  exact h y hy

variable (h : IsLeastOn f l b)
include h

theorem le {y : α} (hy : y ∈ l) : b ≤ f y := h.2 ⟨y, hy, rfl⟩

theorem ne_nil : l ≠ [] := by
  obtain ⟨x, hx, -⟩ := h.1
  exact ne_nil_of_mem hx

theorem eq (h' : IsLeastOn f l c) : b = c := h.unique h'

/-- A value is below the least one iff it is below all of them. -/
theorem lt_iff : c < b ↔ ∀ x ∈ l, c < f x := by
  refine ⟨fun hc x hx ↦ hc.trans_le (h.le hx), fun hc ↦ ?_⟩
  obtain ⟨x, hx, rfl⟩ := h.1
  exact hc x hx

/-- One more member. -/
theorem insert (hl : ∀ y, y ∈ l' ↔ y = x ∨ y ∈ l) :
    IsLeastOn f l' (min (f x) b) := by
  constructor
  · rcases min_choice (f x) b with hmin | hmin
    · exact ⟨x, (hl x).mpr (Or.inl rfl), hmin.symm⟩
    · obtain ⟨y, hy, hb⟩ := h.1
      exact ⟨y, (hl y).mpr (Or.inr hy), hb.trans hmin.symm⟩
  · rintro _ ⟨y, hy, rfl⟩
    rcases (hl y).mp hy with rfl | hy
    · exact min_le_left _ _
    · exact (min_le_right _ _).trans (h.le hy)

/-- One member in the place of another one with the same value. -/
theorem replace {x' : α} {o : List α} (hx : f x = f x')
    (hl : ∀ y, y ∈ l ↔ y = x ∨ y ∈ o) (hl' : ∀ y, y ∈ l' ↔ y = x' ∨ y ∈ o) :
    IsLeastOn f l' b := by
  constructor
  · obtain ⟨y, hy, rfl⟩ := h.1
    rcases (hl y).mp hy with rfl | hy
    · exact ⟨x', (hl' x').mpr (Or.inl rfl), hx.symm⟩
    · exact ⟨y, (hl' y).mpr (Or.inr hy), rfl⟩
  · rintro _ ⟨y, hy, rfl⟩
    rcases (hl' y).mp hy with rfl | hy
    · exact hx ▸ h.le ((hl x).mpr (Or.inl rfl))
    · exact h.le ((hl y).mpr (Or.inr hy))

end IsLeastOn

/-- The first item with the least value. -/
def firstLeast (f : α → β) (l : List α) : Option α := l.find? fun x ↦ l.all fun y ↦ f x ≤ f y

section Loop

variable (f : α → β) (isSet : α → Prop) {step : α → α → α}
  (hstep : ∀ acc x, isSet acc → isSet x → step acc x = if f x < f acc then x else acc)

include hstep

/-- What a loop ends with that has kept an item already. -/
theorem foldl_keep {acc : α} {l : List α} (hacc : isSet acc) (hl : ∀ x ∈ l, isSet x) :
    ∃ pre r post, acc :: l = pre ++ r :: post ∧ l.foldl step acc = r ∧
      (∀ x ∈ pre, f r < f x) ∧ ∀ x ∈ post, f r ≤ f x := by
  induction l generalizing acc with
  | nil => exact ⟨[], acc, [], rfl, rfl, by simp, by simp⟩
  | cons x l ih =>
    rw [foldl_cons, hstep acc x hacc (hl x mem_cons_self)]
    have hl' : ∀ y ∈ l, isSet y := fun y hy ↦ hl y (mem_cons_of_mem _ hy)
    split
    · next hlt =>
      -- `acc` is given up for good
      obtain ⟨pre, r, post, heq, hr, hpre, hpost⟩ := ih (hl x mem_cons_self) hl'
      have hrx : f r ≤ f x := by
        have hx : x ∈ pre ++ r :: post := heq ▸ mem_cons_self
        rcases mem_append.mp hx with hx | hx
        · exact (hpre x hx).le
        · rcases mem_cons.mp hx with rfl | hx
          · exact le_rfl
          · exact hpost x hx
      refine ⟨acc :: pre, r, post, by rw [heq, cons_append], hr, ?_, hpost⟩
      intro y hy
      rcases mem_cons.mp hy with rfl | hy
      · exact hrx.trans_lt hlt
      · exact hpre y hy
    · next hle =>
      obtain ⟨pre, r, post, heq, hr, hpre, hpost⟩ := ih hacc hl'
      cases pre with
      | nil =>
        obtain ⟨rfl, rfl⟩ := cons_eq_cons.mp heq
        refine ⟨[], acc, x :: l, rfl, hr, by simp, ?_⟩
        intro y hy
        rcases mem_cons.mp hy with rfl | hy
        · exact not_lt.mp hle
        · exact hpost y hy
      | cons z pre =>
        obtain ⟨rfl, rfl⟩ := cons_eq_cons.mp heq
        refine ⟨acc :: x :: pre, r, post, rfl, hr, ?_, hpost⟩
        have hacc' := hpre acc mem_cons_self
        intro y hy
        rcases mem_cons.mp hy with rfl | hy
        · exact hacc'
        · rcases mem_cons.mp hy with rfl | hy
          · exact hacc'.trans_le (not_lt.mp hle)
          · exact hpre y (mem_cons_of_mem _ hy)

/-- A loop that keeps an item until it meets one with a smaller value ends with the first item of
the least value. -/
theorem foldl_eq_firstLeast {unset : α} {l : List α} (hunset : ∀ x, step unset x = x)
    (hl : ∀ x ∈ l, isSet x) (hne : l ≠ []) : firstLeast f l = some (l.foldl step unset) := by
  obtain ⟨x, l, rfl⟩ := exists_cons_of_ne_nil hne
  rw [foldl_cons, hunset]
  obtain ⟨pre, r, post, heq, hr, hpre, hpost⟩ := foldl_keep f isSet hstep (hl x mem_cons_self)
    fun y hy ↦ hl y (mem_cons_of_mem _ hy)
  rw [hr, firstLeast, heq, find?_append]
  have hnot : pre.find? (fun x ↦ (pre ++ r :: post).all fun y ↦ f x ≤ f y) = none := by
    refine List.find?_eq_none.mpr fun y hy hall ↦ ?_
    have hyr := all_eq_true.mp hall r (by simp)
    exact absurd (of_decide_eq_true hyr) (not_le.mpr (hpre y hy))
  rw [hnot, Option.none_or, find?_cons_of_pos]
  rw [all_eq_true]
  intro y hy
  refine decide_eq_true ?_
  rcases mem_append.mp hy with hy | hy
  · exact (hpre y hy).le
  · rcases mem_cons.mp hy with rfl | hy
    · exact le_rfl
    · exact hpost y hy

end Loop

theorem firstLeast_mem {f : α → β} {l : List α} {x : α} (h : firstLeast f l = some x) : x ∈ l :=
  mem_of_find?_eq_some h

theorem IsLeastOn.of_firstLeast {f : α → β} {l : List α} {x : α} (h : firstLeast f l = some x) :
    IsLeastOn f l (f x) := by
  refine IsLeastOn.of_mem (firstLeast_mem h) fun y hy ↦ ?_
  have hall := find?_some h
  exact of_decide_eq_true (all_eq_true.mp hall y hy)

end MataDevice
