import Mathlib.Data.Option.Basic
import Mathlib.Tactic.Common

/-!
# Loops over arrays of fixed size

A loop reads the elements of a list by their indices and changes the elements of an array at the
same indices. What lies outside of the list or the array is neither read nor changed: such an access
has no result, and neither has the loop. So a loop has a result exactly when all its accesses are
within their bounds. A loop that collects a list from the elements has them in order.
-/

namespace MataDevice.Bounded

variable {α β σ : Type} {n : ℕ}

/-- Change the element at an index of an array. -/
def change (dst : Vector β n) (i : ℕ) (f : β → β) : Option (Vector β n) :=
  if h : i < n then some (dst.set i (f dst[i])) else none

/-- `for (i = 0; i < count; i++)` -/
def forUpTo (body : ℕ → σ → Option σ) : ℕ → σ → Option σ
  | 0, s => some s
  | count + 1, s => (forUpTo body count s).bind (body count)

/-- The loop that changes the elements of `dst` by those of `src`. -/
def copy (f : α → β → β) (src : List α) (count : ℕ) (dst : Vector β n) : Option (Vector β n) :=
  forUpTo (fun i dst ↦ src[i]?.bind fun x ↦ change dst i (f x)) count dst

/-- The loop that makes a list of the elements of `src`. -/
def collect (f : α → β) (src : List α) (count : ℕ) : Option (List β) :=
  forUpTo (fun i dst ↦ src[i]?.map fun x ↦ dst ++ [f x]) count []

section Change

variable {dst : Vector β n} {i : ℕ} {f : β → β}

theorem isSome_change : (change dst i f).isSome ↔ i < n := by
  unfold change
  split <;> simp_all

theorem change_singleton {dst : Vector β 1} {f : β → β} :
    change dst 0 f = some #v[f dst[0]] := by
  have hset : dst.set 0 (f dst[0]) = #v[f dst[0]] := by
    ext i hi
    obtain rfl : i = 0 := by omega
    simp
  exact congrArg some hset

end Change

section ForUpTo

variable {body : ℕ → σ → Option σ} {count : ℕ} {s : σ}

/-- A loop whose accesses depend on the index alone has a result when all of them have. -/
theorem isSome_forUpTo (ok : ℕ → Prop) (h : ∀ i s, (body i s).isSome ↔ ok i) :
    (forUpTo body count s).isSome ↔ ∀ i < count, ok i := by
  induction count with
  | zero => simp [forUpTo]
  | succ count ih =>
    rw [forUpTo, Nat.forall_lt_succ_right, ← ih]
    cases forUpTo body count s with
    | none => simp
    | some s => simp [h]

/-- A loop that goes through known states -/
theorem forUpTo_eq_some (state : ℕ → σ) (h : ∀ i < count, body i (state i) = some (state (i + 1))) :
    forUpTo body count (state 0) = some (state count) := by
  induction count with
  | zero => rfl
  | succ count ih =>
    rw [forUpTo, ih fun i hi ↦ h i (Nat.lt_succ_of_lt hi)]
    exact h count (Nat.lt_succ_self count)

end ForUpTo

section Copy

variable {f : α → β → β} {src : List α} {count : ℕ} {dst : Vector β n}

theorem isSome_copy : (copy f src count dst).isSome ↔ count ≤ src.length ∧ count ≤ n := by
  have hbody : ∀ i (dst : Vector β n),
      (src[i]?.bind fun x ↦ change dst i (f x)).isSome ↔ i < src.length ∧ i < n := by
    intro i dst
    by_cases hi : i < src.length
    · rw [List.getElem?_eq_getElem hi]
      simp [isSome_change, hi]
    · rw [List.getElem?_eq_none (by omega)]
      simp [hi]
  rw [copy, isSome_forUpTo (fun i ↦ i < src.length ∧ i < n) hbody]
  constructor
  · intro h
    constructor
    · by_contra hlt
      exact Nat.lt_irrefl _ (h src.length (by omega)).1
    · by_contra hlt
      exact Nat.lt_irrefl _ (h n (by omega)).2
  · rintro ⟨hsrc, hn⟩ i hi
    omega

/-- A list that is longer than the array does not fit. -/
theorem copy_eq_none (h : n < src.length) : copy f src src.length dst = none := by
  rw [← Option.not_isSome_iff_eq_none, isSome_copy]
  omega

theorem copy_singleton {x : α} {dst : Vector β 1} :
    copy f [x] 1 dst = some #v[f x dst[0]] :=
  change_singleton

theorem collect_take {f : α → β} {src : List α} {count : ℕ} (h : count ≤ src.length) :
    collect f src count = some ((src.take count).map f) := by
  induction count with
  | zero => rfl
  | succ count ih =>
    have hcount := ih (by omega)
    rw [collect] at hcount ⊢
    rw [forUpTo, hcount, Option.bind_some, List.getElem?_eq_getElem h, Option.map_some,
      List.take_succ_eq_append_getElem h, List.map_append, List.map_singleton]

theorem collect_length {f : α → β} {src : List α} :
    collect f src src.length = some (src.map f) := by
  rw [collect_take (Nat.le_refl _), List.take_length]

end Copy

end MataDevice.Bounded
