import MataDevice.Config.Processes
import MataDevice.Lib.Fields
import MataDevice.MiscUtils.TrimSpace

/-!
# Splitting a string in place

`loc_util_split_string` ends the string at each delimiter and stores a pointer to what comes after
it, until the string is at its end or enough pointers are stored. The fields are those of the string,
empty ones included.

The number of bytes is kept in an `int`. A string of `2 ^ 31 - 1` characters or more is looked at in
its first part only or not at all, and its fields come out right if they are all in that part.
-/

namespace MataDevice.MiscUtils

open Fields List
open MataDevice.Config (cString locUtilSplitString)

/-! ## The loop -/

/-- The pointers are offsets in the string. -/
structure SplitState where
  rawString : List UInt8
  /-- What has been stored through `split_strings_ptr` -/
  splitStringsPtr : ℕ → Option ℕ
  numSplitStrings : ℕ

/-- The loop, for as many bytes as there are rounds -/
def splitLoop (delimiter : UInt8) (maxNumSubstrings : ℕ) :
    (rounds rawStringIndex : ℕ) → SplitState → Option SplitState
  | 0, _, t => some t
  | rounds + 1, rawStringIndex, t =>
    match t.rawString[rawStringIndex]? with
    | none => none
    | some c =>
      let endString := c == 0
      if c == delimiter || endString then
        let t := { t with
          rawString := t.rawString.set rawStringIndex 0
          numSplitStrings := t.numSplitStrings + 1 }
        if rounds ≠ 0 ∧ t.numSplitStrings < maxNumSubstrings then
          let t := { t with
            splitStringsPtr :=
              Function.update t.splitStringsPtr t.numSplitStrings (some (rawStringIndex + 1)) }
          if endString then some t
          else splitLoop delimiter maxNumSubstrings rounds (rawStringIndex + 1) t
        else some t
      else splitLoop delimiter maxNumSubstrings rounds (rawStringIndex + 1) t

/-- `raw_string_length` -/
def rawStringLength (str : List UInt8) : Int32 := Int32.ofNat (str.length + 1)

/-- `loc_util_split_string` on a buffer, with nothing stored through the pointers before -/
def splitInPlace (buf : List UInt8) (maxNumSubstrings : Int32) (delimiter : UInt8) :
    Option SplitState :=
  splitLoop delimiter maxNumSubstrings.toInt.toNat (rawStringLength (cString buf)).toInt.toNat 0
    ⟨buf, Function.update (fun _ ↦ none) 0 (some 0), 0⟩

/-! ## What has been cut off -/

/-- A pointer to a string in the buffer -/
def Denotes (t : SplitState) (k : ℕ) (field : List UInt8) : Prop :=
  ∃ before after, t.rawString = before ++ (field ++ 0 :: after) ∧
    t.splitStringsPtr k = some before.length

/-- The number of strings that end in a text -/
def ends (delimiter : UInt8) (text : List UInt8) : ℕ :=
  text.countP fun c ↦ c == delimiter || c == 0

/-- What the loop leaves, where the field that begins behind `before` is the next one to end -/
structure Cut (delimiter : UInt8) (maxNumSubstrings : ℕ) (before fieldsText seen : List UInt8)
    (t t' : SplitState) : Prop where
  numSplitStrings : t'.numSplitStrings =
    t.numSplitStrings + min (maxNumSubstrings - t.numSplitStrings) (ends delimiter seen)
  before : before <+: t'.rawString
  old : ∀ k ≤ t.numSplitStrings, t'.splitStringsPtr k = t.splitStringsPtr k
  outside : ∀ k, maxNumSubstrings ≤ k → t'.splitStringsPtr k = t.splitStringsPtr k
  new : ∀ k field, k < min (maxNumSubstrings - t.numSplitStrings) (ends delimiter seen) →
    (fieldsText.splitOn delimiter)[k]? = some field → Denotes t' (t.numSplitStrings + k) field

section

variable {delimiter : UInt8} {maxNumSubstrings rounds : ℕ} {before cur todo rest : List UInt8}
  {t : SplitState} {c : UInt8}

theorem ends_cons_of_ends (h : c = delimiter ∨ c = 0) (text : List UInt8) :
    ends delimiter (c :: text) = ends delimiter text + 1 :=
  countP_cons_of_pos (by simpa using h)

theorem ends_cons_of_not (h : c ≠ delimiter) (h0 : c ≠ 0) (text : List UInt8) :
    ends delimiter (c :: text) = ends delimiter text :=
  countP_cons_of_neg (by simp [h, h0])

/-- Nothing has been looked at. -/
theorem Cut.refl (hbefore : before <+: t.rawString) (text : List UInt8) :
    Cut delimiter maxNumSubstrings before text [] t t :=
  ⟨by simp [ends], hbefore, fun _ _ ↦ rfl, fun _ _ ↦ rfl, fun k _ hk ↦ absurd hk (by simp [ends])⟩

/-- The string is ended behind the text `cur`. -/
def endAt (t : SplitState) (index : ℕ) : SplitState :=
  { t with rawString := t.rawString.set index 0, numSplitStrings := t.numSplitStrings + 1 }

theorem rawString_endAt (hraw : t.rawString = before ++ (cur ++ c :: rest)) :
    (endAt t (before.length + cur.length)).rawString = before ++ (cur ++ 0 :: rest) := by
  rw [endAt, hraw, ← length_append, ← append_assoc, set_append_right _ _ le_rfl,
    Nat.sub_self, set_cons_zero, append_assoc]

/-- The first field of a text that is cut behind it -/
theorem splitOn_zero {field : List UInt8} {seen : List UInt8} (hcur : delimiter ∉ cur)
    (hseen : seen = [] ∨ seen.head? = some delimiter)
    (h : ((cur ++ seen).splitOn delimiter)[0]? = some field) : field = cur := by
  cases seen with
  | nil =>
    rw [List.append_nil, splitOn_eq_singleton hcur] at h
    exact (Option.some.inj h).symm
  | cons c seen =>
    obtain rfl : c = delimiter := by simpa using hseen
    rw [splitOn_append_cons_self_of_not_mem hcur] at h
    exact (Option.some.inj h).symm

/-- One field has been ended, and the loop stops there. -/
theorem Cut.stop {text seen : List UInt8} (hraw : t.rawString = before ++ (cur ++ c :: rest))
    (hptr : t.splitStringsPtr t.numSplitStrings = some before.length) (hcur : delimiter ∉ cur)
    (htext : text = [] ∨ text.head? = some delimiter)
    (hone : min (maxNumSubstrings - t.numSplitStrings) (ends delimiter seen) = 1) :
    Cut delimiter maxNumSubstrings before (cur ++ text) seen t
      (endAt t (before.length + cur.length)) := by
  have hend := rawString_endAt hraw
  refine ⟨?_, ⟨_, hend.symm⟩, fun _ _ ↦ rfl, fun _ _ ↦ rfl, fun k field hk hfield ↦ ?_⟩
  · rw [hone]
    rfl
  · rw [hone, Nat.lt_one_iff] at hk
    subst hk
    obtain rfl := splitOn_zero hcur htext hfield
    exact ⟨before, rest, hend, hptr⟩

/-- The loop goes on behind a delimiter. -/
theorem Cut.next {seen : List UInt8} {t' : SplitState}
    (hptr : t.splitStringsPtr t.numSplitStrings = some before.length) (hcur : delimiter ∉ cur)
    (hnum : t.numSplitStrings + 1 < maxNumSubstrings)
    (h : Cut delimiter maxNumSubstrings (before ++ (cur ++ [0])) todo seen
      { endAt t (before.length + cur.length) with
        splitStringsPtr := Function.update t.splitStringsPtr (t.numSplitStrings + 1)
          (some (before.length + cur.length + 1)) } t') :
    Cut delimiter maxNumSubstrings before (cur ++ delimiter :: todo) (delimiter :: seen) t t' := by
  obtain ⟨hnum', ⟨after, hafter⟩, hold, houtside, hnew⟩ := h
  have hK : min (maxNumSubstrings - t.numSplitStrings) (ends delimiter (delimiter :: seen)) =
      min (maxNumSubstrings - (t.numSplitStrings + 1)) (ends delimiter seen) + 1 := by
    rw [ends_cons_of_ends (.inl rfl)]
    omega
  have hkeep : ∀ k ≤ t.numSplitStrings, t'.splitStringsPtr k = t.splitStringsPtr k :=
    fun k hk ↦ (hold k (Nat.le_succ_of_le hk)).trans (Function.update_of_ne (by omega) _ _)
  refine ⟨?_, ⟨_, by rw [← hafter, append_assoc]⟩, hkeep, fun k hk ↦ ?_,
    fun k field hk hfield ↦ ?_⟩
  · rw [hnum', hK]
    exact Nat.add_right_comm _ _ _
  · exact (houtside k hk).trans (Function.update_of_ne (by omega) _ _)
  · rw [splitOn_append_cons_self_of_not_mem hcur] at hfield
    cases k with
    | zero =>
      obtain rfl : cur = field := Option.some.inj hfield
      refine ⟨before, after, ?_, (hkeep _ le_rfl).trans hptr⟩
      rw [← hafter]
      simp
    | succ k =>
      rw [hK] at hk
      have := hnew k field (Nat.lt_of_succ_lt_succ hk) hfield
      rwa [Nat.add_comm k 1, ← Nat.add_assoc]

theorem getElem?_rawString (hraw : t.rawString = before ++ (cur ++ c :: rest)) :
    t.rawString[before.length + cur.length]? = some c := by
  rw [hraw, ← length_append, ← append_assoc, getElem?_append_right le_rfl,
    Nat.sub_self]
  rfl

theorem splitLoop_cut (hdelim : delimiter ≠ 0)
    (hraw : t.rawString = before ++ (cur ++ (todo ++ 0 :: rest)))
    (hptr : t.splitStringsPtr t.numSplitStrings = some before.length)
    (hnum : t.numSplitStrings < maxNumSubstrings) (hcur : delimiter ∉ cur)
    (htodo : 0 ∉ todo) (hrounds : rounds ≤ todo.length + 1) :
    ∃ t', splitLoop delimiter maxNumSubstrings rounds (before.length + cur.length) t = some t' ∧
      Cut delimiter maxNumSubstrings before (cur ++ todo) ((todo ++ [0]).take rounds) t t' := by
  induction todo generalizing rounds before cur t with
  | nil =>
    cases rounds with
    | zero => exact ⟨t, rfl, .refl ⟨_, hraw.symm⟩ _⟩
    | succ rounds =>
      obtain rfl : rounds = 0 := Nat.le_zero.mp (Nat.le_of_succ_le_succ hrounds)
      refine ⟨endAt t (before.length + cur.length), ?_, Cut.stop hraw hptr hcur (.inl rfl) ?_⟩
      · rw [splitLoop, getElem?_rawString hraw]
        simp [endAt]
      · have hone : ends delimiter (([] ++ [(0 : UInt8)]).take 1) = 1 := ends_cons_of_ends (.inr rfl) []
        rw [hone]
        omega
  | cons c todo ih =>
    obtain ⟨hc0, htodo⟩ := not_or.mp fun h ↦ htodo (mem_cons.mpr h)
    cases rounds with
    | zero => exact ⟨t, rfl, .refl ⟨_, hraw.symm⟩ _⟩
    | succ rounds =>
      have hrounds : rounds ≤ todo.length + 1 := Nat.le_of_succ_le_succ hrounds
      rw [cons_append, take_succ_cons, splitLoop, getElem?_rawString hraw]
      dsimp only
      by_cases hc : c = delimiter
      · subst hc
        rw [if_pos (by simp)]
        by_cases hgo : rounds ≠ 0 ∧ t.numSplitStrings + 1 < maxNumSubstrings
        · rw [if_pos hgo, if_neg (by simpa using Ne.symm hc0)]
          have hlen : before.length + cur.length + 1 = (before ++ (cur ++ [0])).length := by
            simp [Nat.add_assoc]
          have hraw' : { endAt t (before.length + cur.length) with
              splitStringsPtr := Function.update t.splitStringsPtr (t.numSplitStrings + 1)
                (some (before.length + cur.length + 1)) }.rawString =
              (before ++ (cur ++ [0])) ++ ([] ++ (todo ++ 0 :: rest)) := by
            rw [rawString_endAt hraw]
            simp
          obtain ⟨t', hloop, hcut⟩ := ih hraw' (by simp [endAt, Nat.add_assoc]) hgo.2
            not_mem_nil htodo hrounds
          refine ⟨t', ?_, hcut.next hptr hcur hgo.2⟩
          rw [← hloop, length_nil, Nat.add_zero, ← hlen]
          rfl
        · rw [if_neg hgo]
          refine ⟨_, rfl, Cut.stop hraw hptr hcur (.inr rfl) ?_⟩
          rw [ends_cons_of_ends (.inl rfl)]
          rcases not_and_or.mp hgo with hzero | hmax
          · obtain rfl := not_not.mp hzero
            rw [take_zero]
            have : ends c [] = 0 := rfl
            omega
          · omega
      · rw [if_neg (by simp [hc, Ne.symm hc0])]
        have hlen : before.length + cur.length + 1 = before.length + (cur ++ [c]).length := by
          simp [Nat.add_assoc]
        have hraw' : t.rawString = before ++ ((cur ++ [c]) ++ (todo ++ 0 :: rest)) := by
          rw [hraw]
          simp
        have hcur' : delimiter ∉ cur ++ [c] := by simpa [hcur] using Ne.symm hc
        obtain ⟨t', hloop, hcut⟩ := ih hraw' hptr hnum hcur' htodo hrounds
        refine ⟨t', hlen ▸ hloop, ?_⟩
        obtain ⟨hnum', hbefore, hold, houtside, hnew⟩ := hcut
        have hends := ends_cons_of_not hc (Ne.symm hc0) ((todo ++ [0]).take rounds)
        rw [append_assoc, singleton_append] at hnew
        exact ⟨hends ▸ hnum', hbefore, hold, houtside, hends ▸ hnew⟩

end

/-! ## When the fields come out right -/

/-- As many fields as there are, up to the maximum, and nothing is written behind the pointers. -/
structure SplitsExactly (str : List UInt8) (maxNumSubstrings : ℕ) (delimiter : UInt8)
    (t : SplitState) : Prop where
  numSplitStrings : t.numSplitStrings = min maxNumSubstrings (str.splitOn delimiter).length
  fields : ∀ k field, (locUtilSplitString str maxNumSubstrings delimiter)[k]? = some field →
    Denotes t k field
  outside : ∀ k, maxNumSubstrings ≤ k → t.splitStringsPtr k = none

theorem ends_of_not_mem {delimiter : UInt8} {text : List UInt8} (h : 0 ∉ text) :
    ends delimiter text = text.count delimiter :=
  countP_congr fun c hc ↦ by
    have : c ≠ 0 := fun h0 ↦ h (h0 ▸ hc)
    simp [this]

theorem toNat_rawStringLength (str : List UInt8) :
    (rawStringLength str).toInt.toNat ≤ str.length + 1 ∧
      ((rawStringLength str).toInt.toNat = str.length + 1 ↔ str.length + 1 < 2 ^ 31) := by
  rw [rawStringLength, Int32.toInt_ofNat', Int.bmod_def]
  simp only [Int32.size]
  split <;> omega

/-- The fields come out right in a string of less than `2 ^ 31 - 1` characters, and in a longer one
if as many as are asked for end in the part that is looked at. -/
theorem splitInPlace_iff (buf : CBuffer) {maxNumSubstrings : Int32} {delimiter : UInt8}
    (hmax : 1 ≤ maxNumSubstrings.toInt) (hdelim : delimiter ≠ 0) :
    (∃ t, splitInPlace buf.bytes maxNumSubstrings delimiter = some t ∧
      SplitsExactly (cString buf.bytes) maxNumSubstrings.toInt.toNat delimiter t) ↔
    ((cString buf.bytes).length + 1 < 2 ^ 31 ∨
      maxNumSubstrings.toInt.toNat ≤
        ((cString buf.bytes).take (rawStringLength (cString buf.bytes)).toInt.toNat).count
          delimiter) := by
  obtain ⟨hstr, rest, hbytes⟩ := buf.bytes_eq
  rw [splitInPlace]
  generalize cString buf.bytes = str at hstr hbytes ⊢
  obtain ⟨hle, hlt⟩ := toNat_rawStringLength str
  rw [← hlt]
  generalize (rawStringLength str).toInt.toNat = rounds at hle ⊢
  have hpos : 0 < maxNumSubstrings.toInt.toNat := by omega
  generalize maxNumSubstrings.toInt.toNat = max at hpos ⊢
  have hraw : (SplitState.mk buf.bytes (Function.update (fun _ ↦ none) 0 (some 0)) 0).rawString =
      [] ++ ([] ++ (str ++ 0 :: rest)) := hbytes
  obtain ⟨t, hloop, hnum, -, -, houtside, hnew⟩ :=
    splitLoop_cut hdelim hraw rfl hpos not_mem_nil hstr hle
  have hloop : splitLoop delimiter max rounds 0
      ⟨buf.bytes, Function.update (fun _ ↦ none) 0 (some 0), 0⟩ = some t := hloop
  simp only [Nat.zero_add, Nat.sub_zero, nil_append] at hnum hnew
  have hm := length_splitOn (s := str) (c := delimiter)
  -- all strings end in the part that is looked at, or those that are asked for do
  have hiff : min max (ends delimiter ((str ++ [0]).take rounds)) =
        min max (str.splitOn delimiter).length ↔
      rounds = str.length + 1 ∨ max ≤ (str.take rounds).count delimiter := by
    rw [hm]
    by_cases hall : rounds = str.length + 1
    · rw [take_of_length_le (by simp [hall])]
      refine iff_of_true ?_ (.inl hall)
      rw [ends, countP_append, ← ends, ends_of_not_mem hstr]
      exact congrArg (min max) (congrArg (str.count delimiter + ·) (ends_cons_of_ends (.inr rfl) []))
    · have hshort : rounds ≤ str.length := by omega
      have htake : 0 ∉ str.take rounds := fun hmem ↦ hstr (mem_of_mem_take hmem)
      have hcount : (str.take rounds).count delimiter ≤ str.count delimiter :=
        (take_sublist rounds str).count_le delimiter
      rw [take_append_of_le_length hshort, ends_of_not_mem htake, or_iff_right hall]
      omega
  rw [← hiff]
  constructor
  · rintro ⟨t', hrun, hexact⟩
    obtain rfl : t = t' := Option.some.inj (hloop.symm.trans hrun)
    exact hnum.symm.trans hexact.numSplitStrings
  · intro hmin
    refine ⟨t, hloop, hnum.trans hmin, fun k field hfield ↦ ?_, fun k hk ↦ ?_⟩
    · rw [locUtilSplitString] at hfield
      obtain ⟨hlt, -⟩ := List.getElem?_eq_some_iff.mp hfield
      rw [length_take, ← hmin] at hlt
      rw [getElem?_take_of_lt (hlt.trans_le (min_le_left _ _))] at hfield
      exact hnew k field hlt hfield
    · have hne : k ≠ 0 := by omega
      rw [houtside k hk]
      dsimp only
      rw [Function.update_of_ne hne]

theorem splitInPlace_iff_twoFields :
    (∃ t, splitInPlace [97, 32, 98, 0] 2 32 = some t ∧
      SplitsExactly (cString [97, 32, 98, 0]) (2 : Int32).toInt.toNat 32 t) ↔
    ((cString [97, 32, 98, 0]).length + 1 < 2 ^ 31 ∨
      (2 : Int32).toInt.toNat ≤
        ((cString [97, 32, 98, 0]).take
          (rawStringLength (cString [97, 32, 98, 0])).toInt.toNat).count 32) :=
  splitInPlace_iff ⟨[97, 32, 98, 0], by decide⟩ (by decide) (by decide)

/-- Nothing is looked at of a string of `2 ^ 31 - 1` characters. -/
theorem not_splitInPlace_long :
    ¬ ∀ (buf : CBuffer) (maxNumSubstrings : Int32) (delimiter : UInt8),
      1 ≤ maxNumSubstrings.toInt → delimiter ≠ 0 →
      ∃ t, splitInPlace buf.bytes maxNumSubstrings delimiter = some t ∧
        SplitsExactly (cString buf.bytes) maxNumSubstrings.toInt.toNat delimiter t := by
  intro h
  obtain ⟨n, hn⟩ : ∃ n, n + 1 = 2 ^ 31 := ⟨2147483647, rfl⟩
  have hstr : cString (List.replicate n 97 ++ [0]) = List.replicate n 97 :=
    cString_append (fun hmem ↦ absurd (eq_of_mem_replicate hmem) (by decide)) []
  have hlen : (rawStringLength (List.replicate n 97)).toInt.toNat = 0 := by
    rw [rawStringLength, length_replicate, hn]
    decide
  obtain ⟨t, hrun, hexact⟩ :=
    h ⟨List.replicate n 97 ++ [0], mem_append_right _ mem_cons_self⟩ 1 32 (by decide)
      (by decide)
  dsimp only at hrun hexact
  rw [splitInPlace, hstr, hlen, splitLoop] at hrun
  obtain rfl := Option.some.inj hrun
  have hnum : 0 = min (1 : Int32).toInt.toNat _ := hexact.numSplitStrings
  have hone : (1 : Int32).toInt.toNat = 1 := by decide
  rw [length_splitOn, hone] at hnum
  omega

end MataDevice.MiscUtils
