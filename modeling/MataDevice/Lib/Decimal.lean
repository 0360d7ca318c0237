import Mathlib.Tactic

/-!
# Decimal numbers in text

A number as text, one byte for each digit, and the value of such a text. What is printed is read
back as it was, a text is not longer than it has to be, and its value is bounded by its length.
-/

namespace MataDevice.Decimal

open List

/-- A decimal digit in ASCII. -/
def isDigit (b : UInt8) : Bool := 48 ≤ b && b ≤ 57

/-- The value of a text of digits. -/
def value (text : List UInt8) : ℕ := text.foldl (fun v b ↦ v * 10 + (b.toNat - 48)) 0

/-- A number as text. -/
def toText (n : ℕ) : List UInt8 := (Nat.toDigits 10 n).map fun c ↦ c.toNat.toUInt8

theorem value_append_singleton (text : List UInt8) (b : UInt8) :
    value (text ++ [b]) = value text * 10 + (b.toNat - 48) := by
  rw [value, foldl_append]
  rfl

theorem value_append (text text' : List UInt8) :
    value (text ++ text') = value text * 10 ^ text'.length + value text' := by
  induction text' using List.reverseRecOn with
  | nil => simp [value]
  | append_singleton text' b ih =>
    rw [← append_assoc, value_append_singleton, ih, value_append_singleton,
      length_append, length_singleton, pow_succ]
    ring

theorem isDigit_iff {b : UInt8} : isDigit b = true ↔ 48 ≤ b.toNat ∧ b.toNat ≤ 57 := by
  rw [isDigit, Bool.and_eq_true, decide_eq_true_iff, decide_eq_true_iff, UInt8.le_iff_toNat_le,
    UInt8.le_iff_toNat_le]
  rfl

theorem value_lt {text : List UInt8} (h : ∀ b ∈ text, isDigit b = true) :
    value text < 10 ^ text.length := by
  induction text using List.reverseRecOn with
  | nil => simp [value]
  | append_singleton text b ih =>
    have hb := isDigit_iff.mp (h b (by simp))
    have htext := ih fun b' hb' ↦ h b' (by simp [hb'])
    rw [value_append_singleton, length_append, length_singleton, pow_succ]
    omega

/-- The byte of a digit. -/
theorem toNat_digit {d : ℕ} (h : d < 10) : (d.digitChar.toNat.toUInt8).toNat = 48 + d := by
  rw [Nat.toNat_digitChar_of_lt_ten h, UInt8.toNat_ofNat', Nat.mod_eq_of_lt (by omega)]

theorem value_toText (n : ℕ) : value (toText n) = n := by
  induction n using Nat.strong_induction_on with
  | _ n ih =>
    by_cases hn : n < 10
    · rw [toText, Nat.toDigits_of_lt_base hn]
      have hd := toNat_digit hn
      simp only [map_cons, map_nil, value, foldl_cons, foldl_nil, hd]
      omega
    · have hrest : value (toText (n / 10)) = n / 10 := ih (n / 10) (by omega)
      have hd := toNat_digit (Nat.mod_lt n (by omega : 10 > 0))
      rw [toText, Nat.toDigits_of_base_le (by omega) (by omega), map_append, ← toText,
        map_cons, map_nil, value_append_singleton, hrest, hd]
      omega

theorem isDigit_of_mem_toText {n : ℕ} {b : UInt8} (h : b ∈ toText n) : isDigit b = true := by
  obtain ⟨c, hc, rfl⟩ := mem_map.mp h
  have hdigit := Nat.isDigit_of_mem_toDigits (by omega) (le_refl 10) hc
  rw [Char.isDigit, Bool.and_eq_true, decide_eq_true_iff, decide_eq_true_iff] at hdigit
  have h0 : 48 ≤ c.toNat := hdigit.1
  have h1 : c.toNat ≤ 57 := hdigit.2
  rw [isDigit_iff, UInt8.toNat_ofNat', Nat.mod_eq_of_lt (by omega)]
  exact ⟨h0, h1⟩

theorem length_toText_le_iff {n k : ℕ} (h : 0 < k) : (toText n).length ≤ k ↔ n < 10 ^ k := by
  rw [toText, length_map]
  exact Nat.length_toDigits_le_iff (by omega) h

end MataDevice.Decimal
