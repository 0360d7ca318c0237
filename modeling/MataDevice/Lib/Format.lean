import MataDevice.Lib.Decimal

/-!
# Formatted numbers

What `printf` makes of a number: decimal numbers with a sign and a least width, padded with zeros,
and hexadecimal numbers. No such text contains a separator, so a text that is made of numbers with
separators between them can be taken apart again.
-/

namespace MataDevice.Format

open MataDevice.Decimal List

/-- The ASCII codes of characters. -/
def bytes (cs : List Char) : List UInt8 := cs.map fun c ↦ c.toNat.toUInt8

/-- A text with zeros before it, up to a width. -/
def pad (width : ℕ) (text : List UInt8) : List UInt8 :=
  List.replicate (width - text.length) 48 ++ text

/-- A number after `%0wd`, where `w` is the width; the sign is a part of it. -/
def signed (width : ℕ) (n : ℤ) : List UInt8 :=
  if n < 0 then 45 :: pad (width - 1) (toText n.natAbs) else pad width (toText n.natAbs)

/-- A number after `%0wX`, where `w` is the width. -/
def hex (width n : ℕ) : List UInt8 :=
  pad width (bytes ((Nat.toDigits 16 n).map Char.toUpper))

/-- What `snprintf` writes into a buffer of a size, without the end of the text. -/
def snprintf (size : ℕ) (text : List UInt8) : List UInt8 := text.take (size - 1)

variable {w : ℕ}

theorem snprintf_of_lt {size : ℕ} {text : List UInt8} (h : text.length < size) :
    snprintf size text = text :=
  take_of_length_le (by omega)

/-! ## Lengths -/

@[simp] theorem length_pad (text : List UInt8) :
    (pad w text).length = max w text.length := by
  rw [pad, length_append, length_replicate]
  omega

theorem length_signed_natCast_le {n k : ℕ} (hk : 0 < k) (h : n < 10 ^ k) :
    (signed w n).length ≤ max w k := by
  have hlength := (length_toText_le_iff hk).mpr h
  rw [signed, if_neg (by omega), length_pad, Int.natAbs_natCast]
  omega

theorem length_signed_le {n : ℤ} {k : ℕ} (hk : 0 < k) (h : n.natAbs < 10 ^ k) :
    (signed w n).length ≤ max w (k + 1) := by
  have hlength := (length_toText_le_iff hk).mpr h
  rw [signed]
  split_ifs
  · rw [length_cons, length_pad]
    omega
  · rw [length_pad]
    omega

theorem length_hex_two {n : ℕ} (h : n < 256) : (hex 2 n).length = 2 := by
  have hlength : (Nat.toDigits 16 n).length ≤ 2 :=
    (Nat.length_toDigits_le_iff (by omega) (by omega)).mpr h
  rw [hex, length_pad, bytes, length_map, length_map]
  omega

/-! ## Separators -/

theorem isDigit_of_mem_pad {n : ℕ} {b : UInt8} (h : b ∈ pad w (toText n)) : isDigit b = true := by
  rcases mem_append.mp h with h | h
  · rw [eq_of_mem_replicate h]
    rfl
  · exact isDigit_of_mem_toText h

theorem not_mem_signed {n : ℤ} {b : UInt8} (hsign : b ≠ 45) (hdigit : isDigit b = false) :
    b ∉ signed w n := by
  have hpad : ∀ w, b ∉ pad w (toText n.natAbs) := by
    intro w hmem
    rw [isDigit_of_mem_pad hmem] at hdigit
    cases hdigit
  rw [signed]
  split_ifs
  · rw [mem_cons, not_or]
    exact ⟨hsign, hpad _⟩
  · exact hpad _

theorem value_pad (text : List UInt8) : value (pad w text) = value text := by
  have hzeros : ∀ k, value (List.replicate k 48) = 0 := by
    intro k
    induction k with
    | zero => rfl
    | succ k ih =>
      rw [replicate_succ', value_append_singleton, ih]
      rfl
  rw [pad, value_append, hzeros, Nat.zero_mul, Nat.zero_add]

theorem signed_natCast_inj {n m : ℕ} (h : signed w n = signed w m) : n = m := by
  rw [signed, signed, if_neg (by omega), if_neg (by omega), Int.natAbs_natCast,
    Int.natAbs_natCast] at h
  have hvalue := congrArg value h
  rwa [value_pad, value_pad, value_toText, value_toText] at hvalue

/-- The first separator ends the first field. -/
theorem append_cons_inj {α : Type} {sep : α} {field field' rest rest' : List α}
    (hfield : sep ∉ field) (hfield' : sep ∉ field')
    (h : field ++ sep :: rest = field' ++ sep :: rest') : field = field' ∧ rest = rest' := by
  induction field generalizing field' with
  | nil =>
    cases field' with
    | nil => exact ⟨rfl, (cons_eq_cons.mp h).2⟩
    | cons b field' =>
      obtain ⟨rfl, -⟩ := cons_eq_cons.mp h
      exact absurd mem_cons_self hfield'
  | cons a field ih =>
    cases field' with
    | nil =>
      obtain ⟨rfl, -⟩ := cons_eq_cons.mp h
      exact absurd mem_cons_self hfield
    | cons b field' =>
      obtain ⟨rfl, htail⟩ := cons_eq_cons.mp h
      rw [mem_cons, not_or] at hfield hfield'
      obtain ⟨rfl, rfl⟩ := ih hfield.2 hfield'.2 htail
      exact ⟨rfl, rfl⟩

end MataDevice.Format
