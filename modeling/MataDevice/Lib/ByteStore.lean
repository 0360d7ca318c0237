import Mathlib.Data.List.Basic
import Mathlib.Tactic

/-!
# Fixed-size stores

A store is a list that is only ever read and overwritten in place: `slice` reads a window of it and
`splice` overwrites one. Overwriting is clipped at the end of the store, so the size of a store
never changes, whatever is written to it and wherever.

Everything below is derived from `getElem?_splice`, which says what one cell holds after one
overwrite. The read-over-write laws come in the two usual forms: the window just written reads back
what was written, and a window disjoint from it reads back what was there before.
-/

namespace MataDevice

open List

variable {α : Type*}

/-- The window of length `n` that starts at `off`, clipped at the end of the store. -/
def slice (d : List α) (off n : ℕ) : List α := (d.drop off).take n

/-- Overwrite the window that starts at `off` with `buf`, clipped at the end of the store. -/
def splice (d : List α) (off : ℕ) (buf : List α) : List α :=
  d.take off ++ buf.take (d.length - off) ++ d.drop (off + buf.length)

/-- Two windows, each given by its start and its length, share no cell. -/
def Apart (a n b m : ℕ) : Prop := a + n ≤ b ∨ b + m ≤ a

instance (a n b m : ℕ) : Decidable (Apart a n b m) := inferInstanceAs (Decidable (_ ∨ _))

theorem Apart.symm {a n b m : ℕ} (h : Apart a n b m) : Apart b m a n := Or.symm h

/-- A window within one of the two is apart from the other as well. -/
theorem Apart.mono {a n b m b' m' : ℕ} (h : Apart a n b m) (hb : b ≤ b') (hm : b' + m' ≤ b + m) :
    Apart a n b' m' := by
  rcases h with h | h
  · exact Or.inl (h.trans hb)
  · exact Or.inr (hm.trans h)

@[simp] theorem length_splice (d : List α) (off : ℕ) (buf : List α) :
    (splice d off buf).length = d.length := by
  simp only [splice, length_append, length_take, length_drop]
  omega

theorem length_slice {d : List α} {off n : ℕ} (h : off + n ≤ d.length) :
    (slice d off n).length = n := by
  rw [slice, length_take, length_drop]
  omega

theorem getElem?_slice (d : List α) (off n i : ℕ) :
    (slice d off n)[i]? = if i < n then d[off + i]? else none := by
  rw [slice, getElem?_take]
  split
  · rw [getElem?_drop]
  · rfl

/-- The middle one of three parts. -/
theorem slice_append {a b c : List α} {off n : ℕ} (ha : a.length = off) (hb : b.length = n) :
    slice (a ++ (b ++ c)) off n = b := by
  rw [slice, drop_left' ha, take_left' hb]

/-- One cell after one overwrite. -/
theorem getElem?_splice (d : List α) (off : ℕ) (buf : List α) (i : ℕ) :
    (splice d off buf)[i]?
      = if off ≤ i ∧ i < off + buf.length ∧ i < d.length then buf[i - off]? else d[i]? := by
  rcases lt_or_ge i d.length with hd | hd
  · rw [splice, append_assoc]
    rcases lt_or_ge i off with hi | hi
    · -- below the window
      rw [getElem?_append_left (by rw [length_take]; omega), getElem?_take_of_lt hi,
        if_neg (by omega)]
    · have hlen : (d.take off).length = off := by rw [length_take]; omega
      rw [getElem?_append_right (by omega), hlen]
      rcases lt_or_ge i (off + buf.length) with hb | hb
      · -- inside the window
        rw [getElem?_append_left (by rw [length_take]; omega),
          getElem?_take_of_lt (by omega), if_pos (by omega)]
      · -- above the window
        rw [getElem?_append_right (by rw [length_take]; omega), getElem?_drop,
          if_neg (by omega), length_take]
        congr 1
        omega
  · rw [if_neg (by omega), getElem?_eq_none hd, getElem?_eq_none (by simpa using hd)]

/-- The window just written reads back what was written. -/
theorem slice_splice_same {d buf : List α} {off : ℕ} (h : off + buf.length ≤ d.length) :
    slice (splice d off buf) off buf.length = buf := by
  apply ext_getElem?
  intro i
  rw [getElem?_slice, getElem?_splice]
  by_cases hi : i < buf.length
  · rw [if_pos hi, if_pos (by omega)]
    congr 1
    omega
  · rw [if_neg hi, getElem?_eq_none (by omega)]

/-- A window disjoint from the one written reads back what was there before. -/
theorem slice_splice_apart {d buf : List α} {off a n : ℕ} (h : Apart off buf.length a n) :
    slice (splice d off buf) a n = slice d a n := by
  apply ext_getElem?
  intro i
  rw [getElem?_slice, getElem?_slice]
  by_cases hi : i < n
  · rw [if_pos hi, if_pos hi, getElem?_splice, if_neg]
    rcases h with h | h <;> omega
  · rw [if_neg hi, if_neg hi]

/-- Writing back what is already there changes nothing. -/
theorem splice_slice_self (d : List α) {off n : ℕ} (h : off + n ≤ d.length) :
    splice d off (slice d off n) = d := by
  apply ext_getElem?
  intro i
  rw [getElem?_splice, length_slice h, getElem?_slice]
  split_ifs
  · congr 1
    omega
  · omega
  · rfl

/-- Of two writes to the same window, the second one stays. -/
theorem splice_splice_same (d : List α) {off : ℕ} {b c : List α} (h : b.length = c.length) :
    splice (splice d off b) off c = splice d off c := by
  apply ext_getElem?
  intro i
  simp only [getElem?_splice, length_splice, h]
  split_ifs <;> rfl

/-- Writes to disjoint windows commute. -/
theorem splice_comm (d : List α) {a b : ℕ} {u v : List α} (h : Apart a u.length b v.length) :
    splice (splice d a u) b v = splice (splice d b v) a u := by
  apply ext_getElem?
  intro i
  simp only [getElem?_splice, length_splice]
  rcases h with h | h <;> split_ifs <;> first | rfl | omega

end MataDevice
