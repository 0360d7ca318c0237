import MataDevice.SystemStatus.DebugReports
import Mathlib.Data.List.TakeWhile

/-!
# Decoding masks and tables

A sentence is printed as its type, the time, and its numbers, with commas between them, and then an
asterisk and a checksum. Masks are printed in hexadecimal, everything else in decimal. What is
printed should be what the parser reads.

The masks of BeiDou and Galileo have 64 bits and are read as signed numbers, so that one with the
highest bit set is too large, and is read as the greatest signed number. Everything else is read as
it was printed: the ages, because a signed number that wrapped is converted back, and the tables with
or without the satellites of NavIC.
-/

namespace MataDevice.SystemStatus

open List
open Numerals (IsNumeral IsDecimal strtol atoi)

/-! ## Sentences -/

/-- A number that is printed -/
inductive Cell
  | hex (n : ℕ)
  | dec (z : ℤ)
  deriving DecidableEq

/-- A text of the number -/
def Cell.Prints : Cell → List UInt8 → Prop
  | hex n, text => IsNumeral 16 text n
  | dec z, text => IsDecimal text z

/-- A sentence of a type with numbers -/
structure IsSentence (type : List UInt8) (cells : List Cell) (str_in : List UInt8) : Prop where
  printed : ∃ utcTime texts checksum,
    List.Forall₂ Cell.Prints cells texts ∧
      str_in = List.intercalate [44] (type :: utcTime :: texts) ++ 42 :: checksum ∧
      (∀ b ∈ utcTime, b ≠ 44 ∧ b ≠ 42) ∧ ∀ b ∈ checksum, b ≠ 44
  no_zero : ∀ b ∈ str_in, b ≠ 0
  length_le : str_in.length ≤ DEBUG_NMEA_MAXSIZE.toNat

/-! ## The fields of a sentence -/

section Fields

variable {text parser str : List UInt8}

theorem tokenize_of_not_mem (h : ∀ b ∈ parser, b ≠ 44) : tokenize parser str = [] := by
  induction parser generalizing str with
  | nil => rfl
  | cons b parser ih =>
    rw [tokenize, if_neg (h b mem_cons_self)]
    exact ih fun b' hb' ↦ h b' (mem_cons_of_mem _ hb')

theorem tokenize_append (h : ∀ b ∈ text, b ≠ 44) :
    tokenize (text ++ 44 :: parser) str = (str ++ text) :: tokenize parser [] := by
  induction text generalizing str with
  | nil => rw [nil_append, List.append_nil, tokenize, if_pos rfl]
  | cons b text ih =>
    rw [cons_append, tokenize, if_neg (h b mem_cons_self),
      ih fun b' hb' ↦ h b' (mem_cons_of_mem _ hb'), append_assoc, singleton_append]

variable {texts : List (List UInt8)}

/-- What is behind the last comma is no field. -/
theorem tokenize_intercalate {checksum : List UInt8}
    (hne : texts ≠ []) (h : ∀ text ∈ texts, ∀ b ∈ text, b ≠ 44)
    (hchecksum : ∀ b ∈ checksum, b ≠ 44) :
    tokenize (List.intercalate [44] texts ++ 44 :: checksum) [] = texts := by
  induction texts with
  | nil => exact absurd rfl hne
  | cons text texts ih =>
    have htext := h text mem_cons_self
    cases texts with
    | nil =>
      rw [intercalate_singleton, tokenize_append htext, nil_append,
        tokenize_of_not_mem hchecksum]
    | cons text' texts =>
      rw [intercalate_cons_cons, append_assoc, append_assoc, singleton_append,
        tokenize_append htext, nil_append,
        ih (by simp) fun text hmem ↦ h text (mem_cons_of_mem _ hmem)]

/-- The text of a number has no comma and no asterisk. -/
theorem Cell.Prints.ne {cell : Cell} (h : cell.Prints text) {b : UInt8} (hb : b ∈ text) :
    b ≠ 44 ∧ b ≠ 42 := by
  have hdigit : ∀ base, (Numerals.digit? base b).isSome = true → b ≠ 44 ∧ b ≠ 42 := by
    intro base hsome
    constructor
    · rintro rfl
      cases hsome
    · rintro rfl
      cases hsome
  cases cell with
  | hex n => exact hdigit 16 (IsNumeral.digits h b hb)
  | dec z =>
    rcases IsDecimal.mem h hb with hsome | rfl
    · exact hdigit 10 hsome
    · decide

theorem mem_intercalate {b : UInt8}
    (h : b ∈ List.intercalate [44] texts) : b = 44 ∨ ∃ text ∈ texts, b ∈ text := by
  induction texts with
  | nil => cases h
  | cons text texts ih =>
    cases texts with
    | nil =>
      rw [intercalate_singleton] at h
      exact Or.inr ⟨text, mem_cons_self, h⟩
    | cons text' texts =>
      rw [intercalate_cons_cons, mem_append, mem_append] at h
      rcases h with (h | h) | h
      · exact Or.inr ⟨text, mem_cons_self, h⟩
      · exact Or.inl (mem_singleton.mp h)
      · refine (ih h).imp id fun ⟨text'', hmem, hb⟩ ↦ ⟨text'', mem_cons_of_mem _ hmem, hb⟩

theorem exists_prints {cells : List Cell}
    (h : List.Forall₂ Cell.Prints cells texts) (hmem : text ∈ texts) :
    ∃ cell : Cell, cell.Prints text := by
  induction h with
  | nil => cases hmem
  | cons hprints _ ih =>
    rcases mem_cons.mp hmem with rfl | hmem
    · exact ⟨_, hprints⟩
    · exact ih hmem

/-- The asterisk is found behind the last number. -/
theorem idxOf?_append_cons {l l' : List UInt8} (h : 42 ∉ l) :
    (l ++ 42 :: l').idxOf? 42 = some l.length := by
  induction l with
  | nil => rfl
  | cons b l ih =>
    rw [mem_cons, not_or] at h
    rw [cons_append, idxOf?_cons, if_neg (by simpa using Ne.symm h.1), ih h.2]
    rfl

/-- The fields of a sentence are its type, the time and its numbers. -/
theorem IsSentence.fields_eq {type : DebugType} {cells : List Cell} {str_in : List UInt8}
    (h : IsSentence type.text cells str_in) :
    ∃ utcTime texts, List.Forall₂ Cell.Prints cells texts ∧
      fields str_in (UInt32.ofNat str_in.length) = type.text :: utcTime :: texts := by
  obtain ⟨⟨utcTime, texts, checksum, hprints, hstr, hutc, hchecksum⟩, hzero, hlength⟩ := h
  refine ⟨utcTime, texts, hprints, ?_⟩
  have hall : ∀ text ∈ type.text :: utcTime :: texts, ∀ b ∈ text, b ≠ 44 ∧ b ≠ 42 := by
    intro text hmem b hb
    rcases mem_cons.mp hmem with rfl | hmem
    · have htext : (type.text.all fun b ↦ b ≠ 44 && b ≠ 42) = true := by cases type <;> decide
      have hne := all_eq_true.mp htext b hb
      rwa [Bool.and_eq_true, decide_eq_true_iff, decide_eq_true_iff] at hne
    · rcases mem_cons.mp hmem with rfl | hmem
      · exact hutc b hb
      · obtain ⟨cell, hcell⟩ := exists_prints hprints hmem
        exact hcell.ne hb
  have hstar : 42 ∉ List.intercalate [44] (type.text :: utcTime :: texts) := fun hmem ↦ by
    rcases mem_intercalate hmem with heq | ⟨text, htext, hb⟩
    · cases heq
    · exact (hall text htext 42 hb).2 rfl
  have hcString : cString str_in = str_in :=
    takeWhile_eq_self_iff.mpr fun b hb ↦ decide_eq_true (hzero b hb)
  have hdebug : loc_nmea_is_debug str_in (UInt32.ofNat str_in.length) = true := by
    obtain ⟨rest, hrest⟩ : ∃ rest, str_in = type.text ++ rest :=
      ⟨_, by rw [hstr, intercalate_cons_cons, append_assoc, append_assoc]⟩
    have hmin : 6 ≤ str_in.length := by
      rw [hrest, length_append]
      have htext : type.text.length = 6 := by cases type <;> rfl
      omega
    have hmax : str_in.length ≤ 4096 := hlength
    have hlen : (UInt32.ofNat str_in.length).toNat = str_in.length := by
      rw [UInt32.toNat_ofNat', Nat.mod_eq_of_lt (by omega)]
    rw [loc_nmea_is_debug, hcString, hrest, Bool.and_eq_true, Bool.and_eq_true, decide_eq_true_iff,
      decide_eq_true_iff, ← hrest, UInt32.le_iff_toNat_le, UInt32.le_iff_toNat_le, hlen, hrest]
    refine ⟨⟨?_, ?_⟩, ?_⟩
    · rw [← hrest]
      exact hmin
    · rw [← hrest]
      exact hmax
    · cases type <;> rfl
  rw [fields, hdebug, hcString, Bool.not_true, if_neg Bool.false_ne_true]
  dsimp only
  rw [hstr, idxOf?_append_cons hstar]
  dsimp only
  rw [set_append_right _ _ (Nat.le_refl _), Nat.sub_self, set_cons_zero,
    tokenize_intercalate (by simp) (fun text hmem b hb ↦ (hall text hmem b hb).1) hchecksum]

end Fields

/-! ## The numbers of a sentence -/

def SystemStatusPQWP3.cells (v : SystemStatusPQWP3) : List Cell :=
  [.hex v.mXtraValidMask.toNat, .dec v.mGpsXtraAge.toNat, .dec v.mGloXtraAge.toNat,
    .dec v.mBdsXtraAge.toNat, .dec v.mGalXtraAge.toNat, .dec v.mQzssXtraAge.toNat,
    .hex v.mGpsXtraValid.toNat, .hex v.mGloXtraValid.toNat, .hex v.mBdsXtraValid.toNat,
    .hex v.mGalXtraValid.toNat, .hex v.mQzssXtraValid.toNat]

def SystemStatusPQWP4.cells (v : SystemStatusPQWP4) : List Cell :=
  [.hex v.mGpsEpheValid.toNat, .hex v.mGloEpheValid.toNat, .hex v.mBdsEpheValid.toNat,
    .hex v.mGalEpheValid.toNat, .hex v.mQzssEpheValid.toNat]

def SvMasks.cells (v : SvMasks) : List Cell :=
  [.hex v.gps.toNat, .hex v.glo.toNat, .hex v.bds.toNat, .hex v.gal.toNat, .hex v.qzss.toNat]

def SystemStatusPQWP5.cells (v : SystemStatusPQWP5) : List Cell :=
  v.unknownMask.cells ++ v.goodMask.cells ++ v.badMask.cells

def SystemStatusNav.cells (v : SystemStatusNav) : List Cell :=
  [.dec v.mType.toInt, .dec v.mSource.toInt, .dec v.mAgeSec.toInt]

/-- The table of the first `n` satellites -/
def SystemStatusPQWP7.cells (v : SystemStatusPQWP7) (n : ℕ) : List Cell :=
  (v.mNav.toList.take n).flatMap SystemStatusNav.cells

/-- The masks have values of the signed type. -/
def SvMasks.Fit (v : SvMasks) : Prop := v.bds.toNat < 2 ^ 63 ∧ v.gal.toNat < 2 ^ 63

instance (v : SvMasks) : Decidable v.Fit := inferInstanceAs (Decidable (_ ∧ _))

/-! ## Decoding -/

section Decoding

variable {type utcTime : List UInt8} {texts : List (List UInt8)} {cells : List Cell}

theorem prints_field (h : List.Forall₂ Cell.Prints cells texts) {i : ℕ} {cell : Cell}
    (hcell : cells[i]? = some cell) : cell.Prints (field (type :: utcTime :: texts) (i + 2)) := by
  change cell.Prints (texts.getD i [])
  induction h generalizing i with
  | nil => cases hcell
  | cons hprints _ ih =>
    cases i with
    | zero =>
      obtain rfl := Option.some_inj.mp hcell
      exact hprints
    | succ i => exact ih hcell

theorem decodePQWP3_eq_iff (v : SystemStatusPQWP3) (h : List.Forall₂ Cell.Prints v.cells texts) :
    decodePQWP3 (type :: utcTime :: texts) = { v with mNavicXtraAge := 0, mNavicXtraValid := 0 } ↔
      v.mBdsXtraValid.toNat < 2 ^ 63 ∧ v.mGalXtraValid.toNat < 2 ^ 63 := by
  have hcell : ∀ (i : ℕ) (cell : Cell), v.cells[i]? = some cell →
      cell.Prints (field (type :: utcTime :: texts) (i + 2)) := fun _ _ ↦ prints_field h
  rw [decodePQWP3, SystemStatusPQWP3.mk.injEq]
  simp only [Numerals.strtol_uint8 (hcell 0 _ rfl), Numerals.atoi_uint32 (hcell 1 _ rfl).isNumeral,
    Numerals.atoi_uint32 (hcell 2 _ rfl).isNumeral, Numerals.atoi_uint32 (hcell 3 _ rfl).isNumeral,
    Numerals.atoi_uint32 (hcell 4 _ rfl).isNumeral, Numerals.atoi_uint32 (hcell 5 _ rfl).isNumeral,
    Numerals.strtol_uint32 (hcell 6 _ rfl), Numerals.strtol_uint32 (hcell 7 _ rfl),
    Numerals.strtol_uint64_iff (hcell 8 _ rfl), Numerals.strtol_uint64_iff (hcell 9 _ rfl),
    Numerals.strtol_uint8 (hcell 10 _ rfl), true_and, and_true]

theorem decodePQWP4_eq_iff (v : SystemStatusPQWP4) (h : List.Forall₂ Cell.Prints v.cells texts) :
    decodePQWP4 (type :: utcTime :: texts) = v ↔
      v.mBdsEpheValid.toNat < 2 ^ 63 ∧ v.mGalEpheValid.toNat < 2 ^ 63 := by
  have hcell : ∀ (i : ℕ) (cell : Cell), v.cells[i]? = some cell →
      cell.Prints (field (type :: utcTime :: texts) (i + 2)) := fun _ _ ↦ prints_field h
  obtain ⟨gps, glo, bds, gal, qzss⟩ := v
  rw [decodePQWP4, SystemStatusPQWP4.mk.injEq]
  simp only [Numerals.strtol_uint32 (hcell 0 _ rfl), Numerals.strtol_uint32 (hcell 1 _ rfl),
    Numerals.strtol_uint64_iff (hcell 2 _ rfl), Numerals.strtol_uint64_iff (hcell 3 _ rfl),
    Numerals.strtol_uint8 (hcell 4 _ rfl), true_and, and_true]

/-- The masks in five fields -/
theorem decodeMasks_eq_iff (v : SvMasks) {mField : List (List UInt8)} {first : ℕ}
    (h : ∀ (i : ℕ) (cell : Cell), v.cells[i]? = some cell → cell.Prints (field mField (first + i))) :
    decodeMasks mField first = { v with navic := 0 } ↔ v.Fit := by
  have hgps : UInt32.ofInt (strtol 16 (field mField first)) = v.gps :=
    Numerals.strtol_uint32 (h 0 _ rfl)
  rw [decodeMasks, SvMasks.mk.injEq, SvMasks.Fit, hgps]
  simp only [Numerals.strtol_uint32 (h 1 _ rfl),
    Numerals.strtol_uint64_iff (h 2 _ rfl), Numerals.strtol_uint64_iff (h 3 _ rfl),
    Numerals.strtol_uint8 (h 4 _ rfl), true_and, and_true]

theorem getElem?_append_of_some {l l' : List Cell} {i : ℕ} {cell : Cell}
    (h : l[i]? = some cell) : (l ++ l')[i]? = some cell := by
  rw [getElem?_append_left (List.getElem?_eq_some_iff.mp h).1, h]

theorem getElem?_append_add (l l' : List Cell) (i : ℕ) : (l ++ l')[l.length + i]? = l'[i]? := by
  rw [getElem?_append_right (Nat.le_add_right _ _), Nat.add_sub_cancel_left]

theorem decodePQWP5_eq_iff (v : SystemStatusPQWP5) (h : List.Forall₂ Cell.Prints v.cells texts) :
    decodePQWP5 (type :: utcTime :: texts) =
        ⟨{ v.unknownMask with navic := 0 }, { v.goodMask with navic := 0 },
          { v.badMask with navic := 0 }⟩ ↔
      v.unknownMask.Fit ∧ v.goodMask.Fit ∧ v.badMask.Fit := by
  have hcell : ∀ (i : ℕ) (cell : Cell), v.cells[i]? = some cell →
      cell.Prints (field (type :: utcTime :: texts) (2 + i)) := by
    intro i cell hi
    rw [Nat.add_comm 2 i]
    exact prints_field h hi
  have hunknown : ∀ (i : ℕ) (cell : Cell), v.unknownMask.cells[i]? = some cell →
      v.cells[i]? = some cell := by
    intro i cell hi
    rw [SystemStatusPQWP5.cells, append_assoc, getElem?_append_of_some hi]
  have hgood : ∀ (i : ℕ) (cell : Cell), v.goodMask.cells[i]? = some cell →
      v.cells[5 + i]? = some cell := by
    intro i cell hi
    rw [SystemStatusPQWP5.cells, append_assoc]
    exact (getElem?_append_add v.unknownMask.cells _ i).trans (getElem?_append_of_some hi)
  have hbad : ∀ (i : ℕ) (cell : Cell), v.badMask.cells[i]? = some cell →
      v.cells[10 + i]? = some cell := by
    intro i cell hi
    rw [SystemStatusPQWP5.cells]
    exact (getElem?_append_add (v.unknownMask.cells ++ v.goodMask.cells) _ i).trans hi
  have hgood' : ∀ (i : ℕ) (cell : Cell), v.goodMask.cells[i]? = some cell →
      cell.Prints (field (type :: utcTime :: texts) (7 + i)) := by
    intro i cell hi
    have hfield := hcell (5 + i) cell (hgood i cell hi)
    rwa [← Nat.add_assoc] at hfield
  have hbad' : ∀ (i : ℕ) (cell : Cell), v.badMask.cells[i]? = some cell →
      cell.Prints (field (type :: utcTime :: texts) (12 + i)) := by
    intro i cell hi
    have hfield := hcell (10 + i) cell (hbad i cell hi)
    rwa [← Nat.add_assoc] at hfield
  rw [decodePQWP5, SystemStatusPQWP5.mk.injEq,
    decodeMasks_eq_iff v.unknownMask fun i cell hi ↦ hcell i cell (hunknown i cell hi),
    decodeMasks_eq_iff v.goodMask hgood', decodeMasks_eq_iff v.badMask hbad']

/-- The cells of the satellite with an index -/
theorem getElem?_flatMap_cells {l : List SystemStatusNav} {i : ℕ} {nav : SystemStatusNav}
    (h : l[i]? = some nav) {k : ℕ} {cell : Cell} (hcell : nav.cells[k]? = some cell) :
    (l.flatMap SystemStatusNav.cells)[i * 3 + k]? = some cell := by
  induction l generalizing i with
  | nil => cases h
  | cons nav' l ih =>
    rw [flatMap_cons]
    cases i with
    | zero =>
      obtain rfl := Option.some_inj.mp h
      rw [Nat.zero_mul, Nat.zero_add, getElem?_append_of_some hcell]
    | succ i =>
      have hindex : (i + 1) * 3 + k = nav'.cells.length + (i * 3 + k) := by
        change _ = 3 + (i * 3 + k)
        omega
      rw [hindex, getElem?_append_add]
      exact ih h

theorem length_flatMap_cells (l : List SystemStatusNav) :
    (l.flatMap SystemStatusNav.cells).length = l.length * 3 := by
  induction l with
  | nil => rfl
  | cons nav l ih =>
    rw [flatMap_cons, length_append, ih, length_cons]
    change 3 + l.length * 3 = _
    omega

/-- A table of either length is read, and what is not in it is zero. -/
theorem decodePQWP7_eq {v : SystemStatusPQWP7} {n : ℕ} (hn : n = SV_ALL_NUM_MIN ∨ n = SV_ALL_NUM)
    (hrest : ∀ i (hi : i < SV_ALL_NUM), n ≤ i → v.mNav[i] = ⟨0, 0, 0⟩)
    (h : List.Forall₂ Cell.Prints (v.cells n) texts) :
    decodePQWP7 (type :: utcTime :: texts) = v := by
  have hle : n ≤ SV_ALL_NUM := by
    rcases hn with rfl | rfl
    · decide
    · exact Nat.le_refl _
  have hlength : texts.length = n * 3 := by
    rw [← h.length_eq, SystemStatusPQWP7.cells, length_flatMap_cells, length_take,
      Vector.length_toList, Nat.min_eq_left hle]
  have hlimit : (if (type :: utcTime :: texts).length < 2 + SV_ALL_NUM * 3 then SV_ALL_NUM_MIN
      else SV_ALL_NUM) = n := by
    rw [length_cons, length_cons, hlength]
    rcases hn with rfl | rfl <;> rfl
  have hentry : ∀ i (hi : i < SV_ALL_NUM), i < n → ∀ k (cell : Cell),
      (v.mNav[i]).cells[k]? = some cell →
        cell.Prints (field (type :: utcTime :: texts) (i * 3 + k + 2)) := by
    intro i hi hlt k cell hcell
    have hnav : (v.mNav.toList.take n)[i]? = some v.mNav[i] := by
      rw [getElem?_take_of_lt hlt, Vector.getElem?_toList, Vector.getElem?_eq_getElem hi]
    exact prints_field h (getElem?_flatMap_cells hnav hcell)
  obtain ⟨mNav⟩ := v
  rw [decodePQWP7, SystemStatusPQWP7.mk.injEq]
  refine Vector.ext fun i hi ↦ ?_
  rw [Vector.getElem_ofFn, hlimit]
  by_cases hlt : i < n
  · rw [if_pos hlt]
    have hentry' := hentry i hi hlt
    have htype : atoi (field (type :: utcTime :: texts) (i * 3 + 2)) = mNav[i].mType :=
      Numerals.atoi_int32 (hentry' 0 _ rfl)
    have hsource : atoi (field (type :: utcTime :: texts) (i * 3 + 3)) = mNav[i].mSource :=
      Numerals.atoi_int32 (hentry' 1 _ rfl)
    have hage : atoi (field (type :: utcTime :: texts) (i * 3 + 4)) = mNav[i].mAgeSec :=
      Numerals.atoi_int32 (hentry' 2 _ rfl)
    rw [htype, hsource, hage]
  · rw [if_neg hlt]
    exact (hrest i hi (Nat.le_of_not_lt hlt)).symm

theorem parser_of_forall₂ {α : Type} {eMax : ℕ} {decode : List (List UInt8) → α} {uninit : α}
    (h : List.Forall₂ Cell.Prints cells texts) (hle : eMax ≤ cells.length + 2) :
    parser (type :: utcTime :: texts) eMax decode uninit = decode (type :: utcTime :: texts) := by
  rw [parser, if_neg]
  rw [length_cons, length_cons, ← h.length_eq]
  exact Nat.not_lt.mpr hle

end Decoding

/-! ## Parsing a sentence -/

section Parsing

variable {str_in : List UInt8}

/-- What a parser gets of a sentence -/
def parsed (str_in : List UInt8) : List (List UInt8) := fields str_in (UInt32.ofNat str_in.length)

theorem parsedPQWP3_eq_iff (v uninit : SystemStatusPQWP3)
    (h : IsSentence DebugType.pqwp3.text v.cells str_in) :
    SystemStatusPQWP3parser (parsed str_in) uninit =
        { v with mNavicXtraAge := 0, mNavicXtraValid := 0 } ↔
      v.mBdsXtraValid.toNat < 2 ^ 63 ∧ v.mGalXtraValid.toNat < 2 ^ 63 := by
  obtain ⟨utcTime, texts, hprints, hfields⟩ := h.fields_eq
  rw [parsed, hfields, SystemStatusPQWP3parser, parser_of_forall₂ hprints (Nat.le_refl 13)]
  exact decodePQWP3_eq_iff v hprints

theorem parsedPQWP4_eq_iff (v uninit : SystemStatusPQWP4)
    (h : IsSentence DebugType.pqwp4.text v.cells str_in) :
    SystemStatusPQWP4parser (parsed str_in) uninit = v ↔
      v.mBdsEpheValid.toNat < 2 ^ 63 ∧ v.mGalEpheValid.toNat < 2 ^ 63 := by
  obtain ⟨utcTime, texts, hprints, hfields⟩ := h.fields_eq
  rw [parsed, hfields, SystemStatusPQWP4parser, parser_of_forall₂ hprints (Nat.le_refl 7)]
  exact decodePQWP4_eq_iff v hprints

theorem parsedPQWP5_eq_iff (v uninit : SystemStatusPQWP5)
    (h : IsSentence DebugType.pqwp5.text v.cells str_in) :
    SystemStatusPQWP5parser (parsed str_in) uninit =
        ⟨{ v.unknownMask with navic := 0 }, { v.goodMask with navic := 0 },
          { v.badMask with navic := 0 }⟩ ↔
      v.unknownMask.Fit ∧ v.goodMask.Fit ∧ v.badMask.Fit := by
  obtain ⟨utcTime, texts, hprints, hfields⟩ := h.fields_eq
  rw [parsed, hfields, SystemStatusPQWP5parser, parser_of_forall₂ hprints (Nat.le_refl 17)]
  exact decodePQWP5_eq_iff v hprints

theorem parsedPQWP7_eq (v uninit : SystemStatusPQWP7) {n : ℕ}
    (hn : n = SV_ALL_NUM_MIN ∨ n = SV_ALL_NUM)
    (hrest : ∀ i (hi : i < SV_ALL_NUM), n ≤ i → v.mNav[i] = ⟨0, 0, 0⟩)
    (h : IsSentence DebugType.pqwp7.text (v.cells n) str_in) :
    SystemStatusPQWP7parser (parsed str_in) uninit = v := by
  obtain ⟨utcTime, texts, hprints, hfields⟩ := h.fields_eq
  have hle : 2 + SV_ALL_NUM_MIN * 3 ≤ (v.cells n).length + 2 := by
    rw [SystemStatusPQWP7.cells, length_flatMap_cells, length_take, Vector.length_toList]
    rcases hn with rfl | rfl <;> decide
  rw [parsed, hfields, SystemStatusPQWP7parser, parser_of_forall₂ hprints hle]
  exact decodePQWP7_eq hn hrest hprints

/-- The tables are read as they were printed, and the masks are if those of BeiDou and Galileo are
values of the signed type. -/
theorem parsed_sentence_iff (str_in : List UInt8) :
    (∀ v uninit : SystemStatusPQWP3, IsSentence DebugType.pqwp3.text v.cells str_in →
      (SystemStatusPQWP3parser (parsed str_in) uninit =
          { v with mNavicXtraAge := 0, mNavicXtraValid := 0 } ↔
        v.mBdsXtraValid.toNat < 2 ^ 63 ∧ v.mGalXtraValid.toNat < 2 ^ 63)) ∧
    (∀ v uninit : SystemStatusPQWP4, IsSentence DebugType.pqwp4.text v.cells str_in →
      (SystemStatusPQWP4parser (parsed str_in) uninit = v ↔
        v.mBdsEpheValid.toNat < 2 ^ 63 ∧ v.mGalEpheValid.toNat < 2 ^ 63)) ∧
    (∀ v uninit : SystemStatusPQWP5, IsSentence DebugType.pqwp5.text v.cells str_in →
      (SystemStatusPQWP5parser (parsed str_in) uninit =
          ⟨{ v.unknownMask with navic := 0 }, { v.goodMask with navic := 0 },
            { v.badMask with navic := 0 }⟩ ↔
        v.unknownMask.Fit ∧ v.goodMask.Fit ∧ v.badMask.Fit)) ∧
    ∀ (v uninit : SystemStatusPQWP7) (n : ℕ), n = SV_ALL_NUM_MIN ∨ n = SV_ALL_NUM →
      (∀ i (hi : i < SV_ALL_NUM), n ≤ i → v.mNav[i] = ⟨0, 0, 0⟩) →
      IsSentence DebugType.pqwp7.text (v.cells n) str_in →
      SystemStatusPQWP7parser (parsed str_in) uninit = v :=
  ⟨fun v uninit h ↦ parsedPQWP3_eq_iff v uninit h, fun v uninit h ↦ parsedPQWP4_eq_iff v uninit h,
    fun v uninit h ↦ parsedPQWP5_eq_iff v uninit h,
    fun v uninit _ hn hrest h ↦ parsedPQWP7_eq v uninit hn hrest h⟩

/-- A sentence with so many zeros -/
def zeros (type : DebugType) (n : ℕ) : List UInt8 :=
  List.intercalate [44] (type.text :: [] :: List.replicate n [48]) ++ [42, 48]

theorem isSentence_zeros {type : DebugType} {cells : List Cell}
    (h : ∀ cell ∈ cells, cell = .hex 0 ∨ cell = .dec 0)
    (hzero : ((zeros type cells.length).all fun b ↦ b ≠ 0) = true)
    (hle : (zeros type cells.length).length ≤ DEBUG_NMEA_MAXSIZE.toNat) :
    IsSentence type.text cells (zeros type cells.length) where
  printed := by
    refine ⟨[], List.replicate cells.length [48], [48], ?_, rfl, by simp, by simp⟩
    clear hzero hle
    induction cells with
    | nil => exact .nil
    | cons cell cells ih =>
      refine .cons ?_ (ih fun cell' hmem ↦ h cell' (mem_cons_of_mem _ hmem))
      rcases h cell mem_cons_self with rfl | rfl
      · exact .of_all (by decide) (by decide) (by decide)
      · exact Or.inl ⟨.of_all (by decide) (by decide) (by decide), Int.le_refl 0⟩
  no_zero := fun b hb ↦ of_decide_eq_true (all_eq_true.mp hzero b hb)
  length_le := hle

def zeroMasks : SvMasks := ⟨0, 0, 0, 0, 0, 0⟩

def zeroTable : SystemStatusPQWP7 := ⟨Vector.replicate SV_ALL_NUM ⟨0, 0, 0⟩⟩

theorem zeroTable_cells {cell : Cell} (h : cell ∈ zeroTable.cells SV_ALL_NUM_MIN) :
    cell = .hex 0 ∨ cell = .dec 0 := by
  obtain ⟨nav, hnav, hcell⟩ := mem_flatMap.mp h
  rw [zeroTable, Vector.toList_replicate, take_replicate] at hnav
  obtain rfl := eq_of_mem_replicate hnav
  have hall : ∀ cell ∈ [Cell.dec 0, .dec 0, .dec 0], cell = .dec 0 := by simp
  exact Or.inr (hall cell hcell)

theorem parsed_sentence_iff_zeros :
    SystemStatusPQWP3parser (parsed (zeros .pqwp3 11)) ⟨1, 1, 1, 1, 1, 1, 1, 1, 1, 1, 1, 1, 1⟩ =
        ⟨0, 0, 0, 0, 0, 0, 0, 0, 0, 0, 0, 0, 0⟩ ∧
      SystemStatusPQWP4parser (parsed (zeros .pqwp4 5)) ⟨1, 1, 1, 1, 1⟩ = ⟨0, 0, 0, 0, 0⟩ ∧
      SystemStatusPQWP5parser (parsed (zeros .pqwp5 15)) ⟨⟨1, 1, 1, 1, 1, 1⟩, zeroMasks, zeroMasks⟩ =
        ⟨zeroMasks, zeroMasks, zeroMasks⟩ ∧
      SystemStatusPQWP7parser (parsed (zeros .pqwp7 402)) ⟨Vector.replicate SV_ALL_NUM ⟨1, 1, 1⟩⟩ =
        zeroTable := by
  refine ⟨?_, ?_, ?_, ?_⟩
  · exact ((parsed_sentence_iff _).1 ⟨0, 0, 0, 0, 0, 0, 0, 0, 0, 0, 0, 0, 0⟩ _ (isSentence_zeros
      (by decide) (by decide +kernel) (by decide +kernel))).mpr ⟨by decide, by decide⟩
  · exact ((parsed_sentence_iff _).2.1 ⟨0, 0, 0, 0, 0⟩ _ (isSentence_zeros (by decide)
      (by decide +kernel) (by decide +kernel))).mpr ⟨by decide, by decide⟩
  · exact ((parsed_sentence_iff _).2.2.1 ⟨zeroMasks, zeroMasks, zeroMasks⟩ _ (isSentence_zeros
      (by decide) (by decide +kernel) (by decide +kernel))).mpr ⟨by decide, by decide, by decide⟩
  · have hlength : (zeroTable.cells SV_ALL_NUM_MIN).length = 402 := by decide +kernel
    have hsentence : IsSentence DebugType.pqwp7.text (zeroTable.cells SV_ALL_NUM_MIN)
        (zeros .pqwp7 402) := by
      rw [← hlength]
      refine isSentence_zeros (fun _ h ↦ zeroTable_cells h) ?_ ?_
      · rw [hlength]
        decide +kernel
      · rw [hlength]
        decide +kernel
    refine (parsed_sentence_iff _).2.2.2 zeroTable _ SV_ALL_NUM_MIN (Or.inl rfl) ?_ hsentence
    intro i hi _
    exact Vector.getElem_replicate hi

/-- `$PQWP4,,0,0,8000000000000000,0,0*0` -/
def highSentence : List UInt8 :=
  [36, 80, 81, 87, 80, 52, 44, 44, 48, 44, 48, 44, 56, 48, 48, 48, 48, 48, 48, 48, 48, 48, 48, 48,
    48, 48, 48, 48, 44, 48, 44, 48, 42, 48]

/-- The highest bit of the mask of BeiDou -/
def highMasks : SystemStatusPQWP4 := ⟨0, 0, 0x8000000000000000, 0, 0⟩

theorem isSentence_high : IsSentence DebugType.pqwp4.text highMasks.cells highSentence where
  printed := by
    refine ⟨[], [[48], [48], 56 :: List.replicate 15 48, [48], [48]], [48], ?_, rfl, by simp,
      by simp⟩
    have hzero : IsNumeral 16 [48] 0 := .of_all (by decide) (by decide) (by decide)
    have hhigh : IsNumeral 16 (56 :: List.replicate 15 48) (2 ^ 63) :=
      .of_all (by decide) (by decide) (by decide)
    exact .cons hzero (.cons hzero (.cons hhigh (.cons hzero (.cons hzero .nil))))
  no_zero := by
    have hall : (highSentence.all fun b ↦ b ≠ 0) = true := by decide
    exact fun b hb ↦ of_decide_eq_true (all_eq_true.mp hall b hb)
  length_le := by decide

/-- The mask is read as the greatest signed number. -/
theorem not_parsed_sentence :
    ¬∀ (v uninit : SystemStatusPQWP4) (str_in : List UInt8),
      IsSentence DebugType.pqwp4.text v.cells str_in →
        SystemStatusPQWP4parser (parsed str_in) uninit = v := by
  intro h
  have heq := h highMasks highMasks highSentence isSentence_high
  revert heq
  decide +kernel

end Parsing

end MataDevice.SystemStatus
