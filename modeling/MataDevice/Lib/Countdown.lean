import Mathlib.Data.List.Basic
import Mathlib.Tactic

/-!
# Counting down along a list

A loop that handles the items of a list one after the other and stops as soon as a given number of
them have counted. `taken` is what it has handled and `left` is what it leaves for a next loop. The
items that count are never passed over, so that what is taken has as many of them as asked for, or
all.
-/

namespace MataDevice.Countdown

open List

variable {α : Type*} (counts : α → Bool)

/-- The items up to the `k`-th one that counts -/
def taken : ℕ → List α → List α
  | _, [] => []
  | k, a :: l => if k = 0 then [] else a :: taken (if counts a then k - 1 else k) l

/-- The items after the `k`-th one that counts -/
def left : ℕ → List α → List α
  | _, [] => []
  | k, a :: l => if k = 0 then a :: l else left (if counts a then k - 1 else k) l

/-- What `n` loops take one after the other, each of them `k` items that count -/
def windows (k : ℕ) : ℕ → List α → List (List α)
  | 0, _ => []
  | n + 1, l => taken counts k l :: windows k n (left counts k l)

variable {counts} {k : ℕ} {l l' : List α}

@[simp] theorem taken_zero (l : List α) : taken counts 0 l = [] := by
  cases l <;> rfl

@[simp] theorem left_zero (l : List α) : left counts 0 l = l := by
  cases l <;> rfl

theorem taken_append_left (k : ℕ) (l : List α) : taken counts k l ++ left counts k l = l := by
  induction l generalizing k with
  | nil => rfl
  | cons a l ih =>
    rw [taken, left]
    split_ifs
    · rfl
    · rw [cons_append, ih]
    · rw [cons_append, ih]

theorem mem_of_mem_taken {a : α} (h : a ∈ taken counts k l) : a ∈ l := by
  rw [← taken_append_left k l]
  exact mem_append_left _ h

theorem filter_taken_eq_take (k : ℕ) (l : List α) :
    (taken counts k l).filter counts = (l.filter counts).take k := by
  induction l generalizing k with
  | nil => rw [taken, filter_nil, take_nil]
  | cons a l ih =>
    rw [taken]
    split_ifs with hzero hcounts
    · rw [hzero, take_zero, filter_nil]
    · obtain ⟨k, rfl⟩ := Nat.exists_eq_succ_of_ne_zero hzero
      rw [filter_cons_of_pos hcounts, filter_cons_of_pos hcounts, ih, Nat.succ_sub_one,
        take_succ_cons]
    · rw [filter_cons_of_neg hcounts, filter_cons_of_neg hcounts, ih]

theorem filter_left_eq_drop (k : ℕ) (l : List α) :
    (left counts k l).filter counts = (l.filter counts).drop k := by
  have happend : (taken counts k l ++ left counts k l).filter counts = l.filter counts :=
    congrArg (List.filter counts) (taken_append_left k l)
  rw [filter_append, filter_taken_eq_take] at happend
  conv_rhs at happend => rw [← take_append_drop k (l.filter counts)]
  exact append_cancel_left happend

/-- If there are no more items that count, all of them are taken. -/
theorem filter_taken (h : l.countP counts ≤ k) :
    (taken counts k l).filter counts = l.filter counts := by
  rw [countP_eq_length_filter] at h
  rw [filter_taken_eq_take, take_of_length_le h]

/-- If every item counts, as many are taken as asked for. -/
theorem taken_eq_take (h : ∀ a ∈ l.take k, counts a = true) : taken counts k l = l.take k := by
  induction l generalizing k with
  | nil => rw [taken, take_nil]
  | cons a l ih =>
    rw [taken]
    cases k with
    | zero => rfl
    | succ k =>
      rw [take_succ_cons, forall_mem_cons] at h
      rw [if_neg (Nat.succ_ne_zero k), if_pos h.1, Nat.add_sub_cancel, ih h.2, take_succ_cons]

/-- If everything taken counts, it is as many items as asked for, or the whole list. -/
theorem taken_eq_take_of_all (h : ∀ a ∈ taken counts k l, counts a = true) :
    taken counts k l = l.take k := by
  induction l generalizing k with
  | nil => rw [taken, take_nil]
  | cons a l ih =>
    rw [taken] at h ⊢
    cases k with
    | zero => rfl
    | succ k =>
      rw [if_neg (Nat.succ_ne_zero k)] at h ⊢
      rw [forall_mem_cons] at h
      rw [if_pos h.1, Nat.add_sub_cancel] at h ⊢
      rw [ih h.2, take_succ_cons]

/-- What comes after a part with just as many items that count is left, and of that part only items
that do not count. -/
theorem exists_left_append (h : l.countP counts = k) (l' : List α) :
    ∃ rest, l = taken counts k (l ++ l') ++ rest ∧ left counts k (l ++ l') = rest ++ l' ∧
      ∀ a ∈ rest, counts a = false := by
  induction l generalizing k with
  | nil =>
    rw [countP_nil] at h
    subst h
    exact ⟨[], by rw [taken_zero]; rfl, left_zero _, fun a hmem ↦ absurd hmem not_mem_nil⟩
  | cons a l ih =>
    rw [cons_append, taken, left]
    by_cases hzero : k = 0
    · subst hzero
      rw [if_pos rfl, if_pos rfl]
      refine ⟨a :: l, rfl, rfl, fun b hmem ↦ ?_⟩
      exact Bool.not_eq_true _ |>.mp (countP_eq_zero.mp h b hmem)
    · rw [if_neg hzero, if_neg hzero]
      have hcount : l.countP counts = if counts a then k - 1 else k := by
        split_ifs with hcounts
        · rw [countP_cons_of_pos hcounts] at h
          omega
        · rwa [countP_cons_of_neg hcounts] at h
      obtain ⟨rest, htaken, hleft, hrest⟩ := ih hcount
      exact ⟨rest, by rw [cons_append, ← htaken], hleft, hrest⟩

/-! ## Loops one after the other -/

theorem length_windows (k n : ℕ) (l : List α) : (windows counts k n l).length = n := by
  induction n generalizing l with
  | zero => rfl
  | succ n ih => rw [windows, length_cons, ih]

theorem take_windows {m n : ℕ} (h : m ≤ n) (l : List α) :
    (windows counts k n l).take m = windows counts k m l := by
  induction m generalizing n l with
  | zero => rfl
  | succ m ih =>
    obtain ⟨n, rfl⟩ := Nat.exists_eq_add_one_of_ne_zero (Nat.ne_zero_of_lt h)
    rw [windows, windows, take_succ_cons, ih (Nat.le_of_succ_le_succ h)]

/-- All that the loops have taken of the items that count -/
theorem filter_flatten_windows (k n : ℕ) (l : List α) :
    (windows counts k n l).flatten.filter counts = (l.filter counts).take (n * k) := by
  induction n generalizing l with
  | zero => rw [windows, Nat.zero_mul, take_zero]; rfl
  | succ n ih =>
    rw [windows, flatten_cons, filter_append, ih, filter_taken_eq_take,
      filter_left_eq_drop, Nat.add_one_mul, Nat.add_comm, take_add]

variable {β : Type*} (f : β → α)

theorem taken_map (k : ℕ) (l : List β) :
    taken counts k (l.map f) = (taken (counts ∘ f) k l).map f := by
  induction l generalizing k with
  | nil => rfl
  | cons b l ih =>
    rw [map_cons, taken, taken, ih, Function.comp_apply]
    split_ifs with hzero hcounts
    · rfl
    · rw [map_cons]
    · rw [map_cons]

theorem left_map (k : ℕ) (l : List β) :
    left counts k (l.map f) = (left (counts ∘ f) k l).map f := by
  induction l generalizing k with
  | nil => rfl
  | cons b l ih =>
    rw [map_cons, left, left, ih, Function.comp_apply]
    split_ifs with hzero
    · rfl
    · rfl
    · rfl

theorem windows_map (k n : ℕ) (l : List β) :
    windows counts k n (l.map f) = (windows (counts ∘ f) k n l).map (List.map f) := by
  induction n generalizing l with
  | zero => rfl
  | succ n ih => rw [windows, windows, taken_map, left_map, ih, map_cons]

end MataDevice.Countdown
