import Mathlib.Tactic

/-!
# Lists whose order does not matter

An element of such a list is removed by putting the last one in its place: `moved` is what then
stands behind it. `sweep` removes all elements that are not to be kept in this way, in one loop that
swaps them with the last element that has not been looked at; what is left is what is to be kept, in
some order. `put` keeps at most one element of a key.
-/

namespace MataDevice.Unordered

open List

variable {α : Type}

/-- The last element comes to the front. -/
def moved (l : List α) : List α := l.getLast?.toList ++ l.dropLast

@[simp] theorem moved_nil : moved ([] : List α) = [] := rfl

theorem moved_concat (l : List α) (x : α) : moved (l ++ [x]) = x :: l := by
  rw [moved, getLast?_concat, dropLast_concat]
  rfl

theorem moved_perm (l : List α) : (moved l).Perm l := by
  cases l using List.reverseRecOn with
  | nil => rfl
  | append_singleton l x =>
    rw [moved_concat]
    exact (perm_append_singleton x l).symm

def swapAt (l : List α) (i j : ℕ) : List α :=
  match l[i]?, l[j]? with
  | some x, some y => (l.set i y).set j x
  | _, _ => l

/-- The loop of `sweep`, which still has to look at `n` elements from `front` on -/
def sweepFrom (keep : α → Bool) : (n front : ℕ) → List α → List α
  | 0, front, l => l.take front
  | n + 1, front, l =>
    match l[front]? with
    | none => l
    | some x =>
      if keep x then sweepFrom keep n (front + 1) l
      else sweepFrom keep n front (swapAt l front (front + n))

def sweep (keep : α → Bool) (l : List α) : List α := sweepFrom keep l.length 0 l

/-- An element is swapped with the last one of those behind it. -/
theorem swapAt_append_cons (front behind dropped : List α) (x : α) :
    swapAt (front ++ x :: behind ++ dropped) front.length (front.length + behind.length)
      = front ++ moved behind ++ x :: dropped := by
  have hx : (front ++ x :: behind ++ dropped)[front.length]? = some x := by
    rw [append_assoc, getElem?_append_right (Nat.le_refl _), Nat.sub_self]
    rfl
  cases behind using List.reverseRecOn with
  | nil =>
    rw [length_nil, Nat.add_zero, swapAt, hx]
    simp
  | append_singleton behind y =>
    have hy : (front ++ x :: (behind ++ [y]) ++ dropped)[front.length + (behind ++ [y]).length]?
        = some y := by
      rw [append_assoc, getElem?_append_right (Nat.le_add_right _ _),
        Nat.add_sub_cancel_left, length_append]
      simp
    rw [swapAt, hx, hy, moved_concat]
    simp

theorem sweepFrom_perm (keep : α → Bool) (front rest dropped : List α) :
    (sweepFrom keep rest.length front.length (front ++ rest ++ dropped)).Perm
      (front ++ rest.filter keep) := by
  induction hn : rest.length generalizing front rest dropped with
  | zero =>
    obtain rfl := length_eq_zero_iff.mp hn
    simp [sweepFrom]
  | succ n ih =>
    cases rest with
    | nil => cases hn
    | cons x rest =>
      have hlen : rest.length = n := Nat.succ.inj hn
      have hx : (front ++ x :: rest ++ dropped)[front.length]? = some x := by
        rw [append_assoc, getElem?_append_right (Nat.le_refl _), Nat.sub_self]
        rfl
      rw [sweepFrom, hx]
      dsimp only
      by_cases hkeep : keep x = true
      · have hrest := ih (front ++ [x]) rest dropped hlen
        rw [length_append, length_singleton, ← append_cons] at hrest
        rw [if_pos hkeep, filter_cons_of_pos hkeep]
        exact hrest.trans (by rw [← append_cons])
      · have hrest := ih front (moved rest) (x :: dropped)
          ((moved_perm rest).length_eq.trans hlen)
        rw [if_neg hkeep, filter_cons_of_neg hkeep, ← hlen, swapAt_append_cons, hlen]
        exact hrest.trans (((moved_perm rest).filter keep).append_left front)

theorem sweep_perm (keep : α → Bool) (l : List α) : (sweep keep l).Perm (l.filter keep) := by
  have h := sweepFrom_perm keep [] l []
  rwa [nil_append, List.append_nil] at h

variable {κ : Type} [DecidableEq κ]

/-- An element takes the place of the first one with its key, or is added. -/
def put (key : α → κ) (new : α) (l : List α) : List α :=
  if l.any (key · = key new) then l.replaceF fun x ↦ if key x = key new then some new else none
  else l ++ [new]

theorem put_perm {key : α → κ} (new : α) {l : List α} (h : (l.map key).Nodup) :
    (put key new l).Perm (new :: l.filter (key · ≠ key new)) := by
  unfold put
  induction l with
  | nil => rfl
  | cons x l ih =>
    obtain ⟨hx, hl⟩ := nodup_cons.mp h
    by_cases hkey : key x = key new
    · have hrest : l.filter (key · ≠ key new) = l := filter_eq_self.mpr fun y hy ↦
        decide_eq_true fun hy' ↦ hx (mem_map.mpr ⟨y, hy, hy'.trans hkey.symm⟩)
      simpa [hkey] using List.Perm.of_eq hrest.symm
    · have hswap := ((ih hl).cons x).trans (List.Perm.swap new x _)
      simp only [any_cons, hkey, decide_false, Bool.false_or, replaceF_cons, if_false,
        cons_append, ne_eq, not_false_eq_true, decide_true, filter_cons_of_pos]
      split at hswap <;> simpa [*] using hswap

end MataDevice.Unordered
