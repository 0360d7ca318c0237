import Mathlib.Tactic

/-!
# Reading numbers in text

The functions of the C library that read a number from the beginning of a text: spaces, a sign, the
prefix of a hexadecimal number, and the digits up to the first byte that is none. What is too large
for the type gives its greatest or least value, which for the signed type is half as large. A text
without digits gives zero.

A numeral is a text of digits only. It is read as its value, unless that is too large.
-/

namespace MataDevice.Numerals

/-! ## Digits -/

/-- The value of `0` to `9`, and of `a` to `z` in either case -/
def digitValue (b : UInt8) : Option ℕ :=
  if 48 ≤ b && b ≤ 57 then some (b.toNat - 48)
  else if 97 ≤ b && b ≤ 122 then some (b.toNat - 87)
  else if 65 ≤ b && b ≤ 90 then some (b.toNat - 55)
  else none

def digit? (base : ℕ) (b : UInt8) : Option ℕ := (digitValue b).filter fun d ↦ d < base

/-- The value of digits -/
def value (base : ℕ) (digits : List ℕ) : ℕ := digits.foldl (fun v d ↦ v * base + d) 0

/-- The digits at the beginning of a text -/
def leading (base : ℕ) : List UInt8 → List ℕ
  | [] => []
  | b :: text =>
    match digit? base b with
    | some d => d :: leading base text
    | none => []

/-! ## Functions -/

def isSpace (b : UInt8) : Bool := b == 32 || (9 ≤ b && b ≤ 13)

/-- The sign, `true` for minus, and what comes after it -/
def sign : List UInt8 → Bool × List UInt8
  | 45 :: text => (true, text)
  | 43 :: text => (false, text)
  | text => (false, text)

/-- `0x` is skipped before a hexadecimal digit. -/
def skipPrefix (base : ℕ) (text : List UInt8) : List UInt8 :=
  match text with
  | 48 :: x :: b :: rest =>
    if base = 16 && (x == 120 || x == 88) && (digit? 16 b).isSome then b :: rest else text
  | _ => text

/-- The sign and the magnitude of the number at the beginning of a text -/
def number (base : ℕ) (text : List UInt8) : Bool × ℕ :=
  let (negative, text) := sign (text.dropWhile isSpace)
  (negative, value base (leading base (skipPrefix base text)))

/-- `strtol` with a `long` of 64 bits -/
def strtol (base : ℕ) (text : List UInt8) : ℤ :=
  let (negative, magnitude) := number base text
  max (-2 ^ 63) (min (2 ^ 63 - 1) (if negative then -(magnitude : ℤ) else magnitude))

/-- A negative number is taken modulo `2 ^ 64`. -/
def strtoull (base : ℕ) (text : List UInt8) : UInt64 :=
  let (negative, magnitude) := number base text
  if 2 ^ 64 ≤ magnitude then UInt64.ofNat (2 ^ 64 - 1)
  else if negative then -UInt64.ofNat magnitude else UInt64.ofNat magnitude

/-- `atoi`, which is `strtol` converted to an `int` -/
def atoi (text : List UInt8) : Int32 := Int32.ofInt (strtol 10 text)

/-! ## Numerals -/

/-- A text of digits with a value -/
structure IsNumeral (base : ℕ) (text : List UInt8) (n : ℕ) : Prop where
  ne_nil : text ≠ []
  digits : ∀ b ∈ text, (digit? base b).isSome = true
  value : value base (leading base text) = n

section Numerals

variable {base n : ℕ} {text : List UInt8} {b : UInt8}

/-- A numeral can be checked. -/
theorem IsNumeral.of_all (hne : text ≠ [])
    (hdigits : (text.all fun b ↦ (digit? base b).isSome) = true)
    (hvalue : Numerals.value base (leading base text) = n) : IsNumeral base text n :=
  ⟨hne, List.all_eq_true.mp hdigits, hvalue⟩

theorem digitValue_of_digit? {d : ℕ} (h : digit? base b = some d) :
    digitValue b = some d ∧ d < base := by
  rw [digit?, Option.filter_eq_some_iff] at h
  exact ⟨h.1, of_decide_eq_true h.2⟩

theorem digitValue_of_isSpace (h : isSpace b = true) : digitValue b = none := by
  have hall : ∀ n : Fin 256, isSpace (UInt8.ofNat n) = true → digitValue (UInt8.ofNat n) = none := by
    decide +kernel
  have hb := hall ⟨b.toNat, b.toNat_lt⟩
  rw [UInt8.ofNat_toNat] at hb
  exact hb h

/-- A digit is no space, no sign, and if it is hexadecimal, not the letter of the prefix. -/
theorem not_of_isSome_digit? (h : (digit? base b).isSome = true) :
    isSpace b = false ∧ b ≠ 45 ∧ b ≠ 43 ∧ (base = 16 → (b == 120 || b == 88) = false) := by
  obtain ⟨d, hd⟩ := Option.isSome_iff_exists.mp h
  obtain ⟨hvalue, hlt⟩ := digitValue_of_digit? hd
  have hnone : ∀ b' : UInt8, digitValue b' = none → b ≠ b' := by
    rintro _ hb' rfl
    rw [hvalue] at hb'
    cases hb'
  refine ⟨?_, hnone 45 (by decide), hnone 43 (by decide), ?_⟩
  · refine Bool.eq_false_iff.mpr fun hspace ↦ ?_
    rw [digitValue_of_isSpace hspace] at hvalue
    cases hvalue
  · rintro rfl
    rw [Bool.or_eq_false_iff, beq_eq_false_iff_ne, beq_eq_false_iff_ne]
    constructor
    · rintro rfl
      have h120 : digitValue 120 = some 33 := by decide
      rw [h120, Option.some_inj] at hvalue
      omega
    · rintro rfl
      have h88 : digitValue 88 = some 33 := by decide
      rw [h88, Option.some_inj] at hvalue
      omega

theorem sign_of_ne (h45 : b ≠ 45) (h43 : b ≠ 43) : sign (b :: text) = (false, b :: text) := by
  unfold sign
  split
  · next heq => exact absurd (List.cons.inj heq).1 h45
  · next heq => exact absurd (List.cons.inj heq).1 h43
  · rfl

theorem skipPrefix_of_digits (h : ∀ b ∈ text, (digit? base b).isSome = true) :
    skipPrefix base text = text := by
  unfold skipPrefix
  split
  · next x b rest =>
    rw [if_neg]
    rw [Bool.and_eq_true, Bool.and_eq_true, decide_eq_true_iff]
    rintro ⟨⟨hbase, hx⟩, -⟩
    have hdigit := (not_of_isSome_digit? (h x (by simp))).2.2.2 hbase
    rw [hdigit] at hx
    cases hx
  · rfl

/-- Nothing is skipped before the digits of a numeral. -/
theorem IsNumeral.number_eq (h : IsNumeral base text n) : number base text = (false, n) := by
  cases htext : text with
  | nil => exact absurd htext h.ne_nil
  | cons b rest =>
    rw [← htext]
    obtain ⟨hspace, h45, h43, -⟩ := not_of_isSome_digit? (h.digits b (by rw [htext]; simp))
    have hdrop : text.dropWhile isSpace = text := by
      rw [htext, List.dropWhile_cons_of_neg (by rw [hspace]; exact Bool.false_ne_true)]
    have hsign : sign text = (false, text) := by rw [htext, sign_of_ne h45 h43]
    rw [number, hdrop, hsign]
    dsimp only
    rw [skipPrefix_of_digits h.digits, h.value]

/-- A minus before a numeral -/
theorem IsNumeral.number_neg_eq (h : IsNumeral base text n) :
    number base (45 :: text) = (true, n) := by
  have hdrop : (45 :: text).dropWhile isSpace = 45 :: text :=
    List.dropWhile_cons_of_neg (by decide)
  rw [number, hdrop]
  change (true, Numerals.value base (leading base (skipPrefix base text))) = _
  rw [skipPrefix_of_digits h.digits, h.value]

/-- A numeral is read as its value up to the greatest one of the type. -/
theorem IsNumeral.strtol_eq (h : IsNumeral base text n) :
    strtol base text = min (2 ^ 63 - 1) (n : ℤ) := by
  rw [strtol, h.number_eq]
  dsimp only
  rw [if_neg Bool.false_ne_true, max_eq_right (by omega)]

theorem IsNumeral.strtol_neg_eq (h : IsNumeral base text n) :
    strtol base (45 :: text) = max (-2 ^ 63) (-(n : ℤ)) := by
  rw [strtol, h.number_neg_eq]
  dsimp only
  rw [if_pos rfl, min_eq_right (by omega)]

end Numerals

/-! ## Values of the unsigned types -/

section Values

variable {base : ℕ} {text : List UInt8}

theorem uint8_ofInt_toNat (v : UInt8) : UInt8.ofInt v.toNat = v := by
  have hmod : ((v.toNat : ℤ) % 2 ^ 8).toNat = v.toNat := by
    have hlt := v.toNat_lt
    omega
  rw [UInt8.ofInt, hmod, UInt8.ofNat_toNat]

theorem uint32_ofInt_toNat (v : UInt32) : UInt32.ofInt v.toNat = v := by
  have hmod : ((v.toNat : ℤ) % 2 ^ 32).toNat = v.toNat := by
    have hlt := v.toNat_lt
    omega
  rw [UInt32.ofInt, hmod, UInt32.ofNat_toNat]

theorem uint64_ofInt_toNat (v : UInt64) : UInt64.ofInt v.toNat = v := by
  have hmod : ((v.toNat : ℤ) % 2 ^ 64).toNat = v.toNat := by
    have hlt := v.toNat_lt
    omega
  rw [UInt64.ofInt, hmod, UInt64.ofNat_toNat]

theorem strtol_uint8 {v : UInt8} (h : IsNumeral base text v.toNat) :
    UInt8.ofInt (strtol base text) = v := by
  have hlt := v.toNat_lt
  rw [h.strtol_eq, min_eq_right (by omega), uint8_ofInt_toNat]

theorem strtol_uint32 {v : UInt32} (h : IsNumeral base text v.toNat) :
    UInt32.ofInt (strtol base text) = v := by
  have hlt := v.toNat_lt
  rw [h.strtol_eq, min_eq_right (by omega), uint32_ofInt_toNat]

/-- The signed type does not have the values of half of the unsigned one. -/
theorem strtol_uint64_iff {v : UInt64} (h : IsNumeral base text v.toNat) :
    UInt64.ofInt (strtol base text) = v ↔ v.toNat < 2 ^ 63 := by
  rw [h.strtol_eq]
  by_cases hlt : v.toNat < 2 ^ 63
  · rw [min_eq_right (by omega), uint64_ofInt_toNat]
    exact iff_of_true rfl hlt
  · rw [min_eq_left (by omega)]
    refine iff_of_false (fun heq ↦ hlt ?_) hlt
    rw [← heq]
    decide

/-- An `int` that wrapped is right again when it is converted back. -/
theorem atoi_uint32 {v : UInt32} (h : IsNumeral 10 text v.toNat) : (atoi text).toUInt32 = v := by
  have hlt := v.toNat_lt
  rw [atoi, h.strtol_eq, min_eq_right (by omega), Int32.ofInt_eq_ofNat]
  refine UInt32.toBitVec_inj.mp ?_
  change BitVec.ofNat 32 v.toNat = v.toBitVec
  exact BitVec.ofNat_toNat 32 v.toBitVec |>.trans (BitVec.setWidth_eq _)

/-- A number as it is printed, with a minus if it is negative -/
def IsDecimal (text : List UInt8) (z : ℤ) : Prop :=
  IsNumeral 10 text z.toNat ∧ 0 ≤ z ∨ ∃ rest, text = 45 :: rest ∧ IsNumeral 10 rest (-z).toNat ∧ z < 0

theorem IsDecimal.isNumeral {n : ℕ} (h : IsDecimal text n) : IsNumeral 10 text n := by
  rcases h with ⟨hnum, -⟩ | ⟨rest, -, -, hneg⟩
  · exact hnum
  · exact absurd hneg (Int.not_lt.mpr (Int.natCast_nonneg n))

/-- There are only digits and the minus in it. -/
theorem IsDecimal.mem {z : ℤ} (h : IsDecimal text z) {b : UInt8} (hb : b ∈ text) :
    (digit? 10 b).isSome = true ∨ b = 45 := by
  rcases h with ⟨hnum, -⟩ | ⟨rest, rfl, hnum, -⟩
  · exact Or.inl (hnum.digits b hb)
  · rcases List.mem_cons.mp hb with rfl | hb
    · exact Or.inr rfl
    · exact Or.inl (hnum.digits b hb)

theorem atoi_int32 {v : Int32} (h : IsDecimal text v.toInt) : atoi text = v := by
  have hle := v.toInt_lt
  have hge := v.le_toInt
  rw [atoi]
  rcases h with ⟨hnum, hpos⟩ | ⟨rest, rfl, hnum, hneg⟩
  · rw [hnum.strtol_eq, Int.toNat_of_nonneg hpos, min_eq_right (by omega), Int32.ofInt_toInt]
  · rw [hnum.strtol_neg_eq, Int.toNat_of_nonneg (by omega), neg_neg, max_eq_right (by omega),
      Int32.ofInt_toInt]

end Values

end MataDevice.Numerals
