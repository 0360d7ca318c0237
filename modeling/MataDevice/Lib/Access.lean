import Mathlib.Tactic

/-!
# Computations that touch buffers

A computation that reads and writes bytes of buffers is described by the accesses it makes and by
its result. After an access that lies outside its buffer nothing is defined any more, so such an
access is the last one, and there is no result. Every computation carries the proof that this is the
only way to lose the result: all accesses are in bounds exactly when there is one. So whether the
accesses of a composed computation are in bounds can be read off the results of its parts.
-/

namespace MataDevice

variable {α β : Type}

/-- The access to one byte of a buffer -/
structure Access where
  index : ℕ
  size : ℕ
  deriving DecidableEq, Repr

/-- The access lies inside its buffer. -/
def Access.InBounds (a : Access) : Prop := a.index < a.size

/-- A computation with the accesses it makes -/
structure Traced (α : Type) where
  accesses : List Access
  result : Option α
  isSome_iff : result.isSome = true ↔ ∀ a ∈ accesses, a.InBounds

namespace Traced

/-- Every byte that is read or written lies inside its buffer. -/
def Safe (p : Traced α) : Prop := ∀ a ∈ p.accesses, a.InBounds

theorem safe_iff {p : Traced α} : p.Safe ↔ ∃ a, p.result = some a := by
  rw [Safe, ← p.isSome_iff, Option.isSome_iff_exists]

def ret (a : α) : Traced α where
  accesses := []
  result := some a
  isSome_iff := by simp

/-- The accesses to some bytes of a buffer -/
def touch (size : ℕ) (indices : List ℕ) : Traced Unit where
  accesses := indices.map fun index ↦ ⟨index, size⟩
  result := if ∀ index ∈ indices, index < size then some () else none
  isSome_iff := by
    rw [List.forall_mem_map]
    split_ifs with h
    · exact iff_of_true rfl h
    · exact iff_of_false Bool.false_ne_true h

def andThen (p : Traced α) (f : α → Traced β) : Traced β where
  accesses := p.accesses ++ (p.result.map fun a ↦ (f a).accesses).getD []
  result := p.result.bind fun a ↦ (f a).result
  isSome_iff := by
    rw [List.forall_mem_append, ← p.isSome_iff]
    cases p.result with
    | none => simp
    | some a => simpa using (f a).isSome_iff

instance : Monad Traced where
  pure := ret
  bind := andThen

@[simp] theorem result_pure (a : α) : (pure a : Traced α).result = some a := rfl

@[simp] theorem result_bind (p : Traced α) (f : α → Traced β) :
    (p >>= f).result = p.result.bind fun a ↦ (f a).result := rfl

theorem result_touch (size : ℕ) (indices : List ℕ) :
    (touch size indices).result =
      if ∀ index ∈ indices, index < size then some () else none := rfl

theorem result_touch_range' (size off n : ℕ) :
    (touch size (List.range' off n)).result =
      if n = 0 ∨ off + n ≤ size then some () else none := by
  rw [result_touch]
  refine if_congr ⟨fun h ↦ ?_, fun h index hindex ↦ ?_⟩ rfl rfl
  · rcases Nat.eq_zero_or_pos n with hzero | hpos
    · exact Or.inl hzero
    · have hlast := h (off + (n - 1)) (List.mem_range'_1.mpr (by omega))
      exact Or.inr (by omega)
  · have hmem := List.mem_range'_1.mp hindex
    omega

/-- A part of the buffer that fits is touched without losing the result. -/
theorem result_touch_range'_of_le {size off n : ℕ} (h : off + n ≤ size) :
    (touch size (List.range' off n)).result = some () := by
  rw [result_touch_range', if_pos (Or.inr h)]

end Traced

end MataDevice
