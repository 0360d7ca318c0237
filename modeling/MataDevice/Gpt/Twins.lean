import MataDevice.Gpt.BootChain
import MataDevice.Lib.Twins

/-!
# The boot chain in an array of whole entries

With entries of the size that the source assumes, the scan looks at one entry after the other, and
the exchange moves whole entries. An entry belongs to at most one partition of the swap list: no
name of the list is another one of them with or without the backup extension, although some are the
beginnings of others. So the partitions are swapped independently of each other.
-/

namespace MataDevice.Gpt

open MataDevice.Twins List

/-! ## Arrays of entries -/

/-- An entries array with `n` entries -/
structure Entries (n : ℕ) where
  bytes : Bytes
  length_eq : bytes.length = ptnEntrySize * n

/-- The bytes of the name field that are looked at -/
def nameField (entry : Bytes) : Bytes :=
  (List.range (maxGptNameSize / 2)).map fun i ↦ entry.getD (partitionNameOffset + i * 2) 0

/-- The name in an entry: what comes before the first zero. -/
def partitionName (entry : Bytes) : Bytes := (nameField entry).takeWhile (· ≠ 0)

/-- An entry has the name of a partition, or this name with the backup extension. -/
def BelongsTo (ptnName entry : Bytes) : Prop :=
  partitionName entry = ptnName ∨ partitionName entry = ptnName ++ chars "bak"

namespace Entries

variable {n : ℕ} (pentries : Entries n)

def entry (i : Fin n) : Bytes := slice pentries.bytes (ptnEntrySize * i) ptnEntrySize

theorem length_entry (i : Fin n) : (pentries.entry i).length = ptnEntrySize := by
  refine length_slice ?_
  rw [pentries.length_eq, ptnEntrySize]
  omega

variable {pentries}

theorem getElem?_entry (i : Fin n) {k : ℕ} (hk : k < ptnEntrySize) :
    (pentries.entry i)[k]? = pentries.bytes[ptnEntrySize * i + k]? := by
  rw [entry, getElem?_slice, if_pos hk]

/-- An array is made of its entries. -/
theorem ext_entry {out : Entries n} (h : ∀ i, pentries.entry i = out.entry i) : pentries = out := by
  have hbytes : pentries.bytes = out.bytes := by
    apply ext_getElem?
    intro p
    by_cases hp : p < ptnEntrySize * n
    · rw [ptnEntrySize] at hp
      have hi : p / 128 < n := by omega
      have hk : p % 128 < ptnEntrySize := Nat.mod_lt _ (by decide)
      have hplace : ptnEntrySize * (p / 128) + p % 128 = p := Nat.div_add_mod p 128
      have hcell := congrArg (fun l ↦ l[p % 128]?) (h ⟨p / 128, hi⟩)
      simp only [getElem?_entry _ hk, hplace] at hcell
      exact hcell
    · rw [getElem?_eq_none (by rw [pentries.length_eq]; omega),
        getElem?_eq_none (by rw [out.length_eq]; omega)]
  obtain ⟨bytes, length_eq⟩ := pentries
  obtain ⟨bytes', length_eq'⟩ := out
  obtain rfl : bytes = bytes' := hbytes
  rfl

/-- The name field that the scan reads at an entry -/
theorem name8_eq (i : Fin n) :
    name8 pentries.bytes (ptnEntrySize * i + partitionNameOffset) =
      some (nameField (pentries.entry i)) := by
  rw [name8, if_pos]
  · refine congrArg some (map_congr_left fun k hk ↦ ?_)
    have hk' : partitionNameOffset + k * 2 < ptnEntrySize := by
      have hlt := mem_range.mp hk
      rw [maxGptNameSize] at hlt
      rw [partitionNameOffset, ptnEntrySize]
      omega
    rw [getD_eq_getElem?_getD, getD_eq_getElem?_getD, getElem?_entry i hk',
      Nat.add_assoc]
  · rw [pentries.length_eq, ptnEntrySize, partitionNameOffset, maxGptNameSize]
    omega

end Entries

/-! ## Names -/

theorem length_nameField (entry : Bytes) : (nameField entry).length = 36 := by
  rw [nameField, length_map, length_range]
  rfl

/-- Which text comes before the first zero can be seen from one byte more. -/
theorem takeWhile_ne_zero_eq_iff {name text : Bytes} (htext : 0 ∉ text)
    (hlength : text.length < name.length) :
    name.takeWhile (· ≠ 0) = text ↔ name.take (text.length + 1) = text ++ [0] := by
  induction text generalizing name with
  | nil =>
    cases name with
    | nil => cases hlength
    | cons b name => by_cases hb : b = 0 <;> simp [hb]
  | cons a text ih =>
    cases name with
    | nil => cases hlength
    | cons b name =>
      rw [mem_cons, not_or] at htext
      rw [length_cons, length_cons, Nat.add_lt_add_iff_right] at hlength
      rw [length_cons, take_succ_cons, cons_append, cons_eq_cons,
        ← ih htext.2 hlength]
      by_cases hb : b = 0
      · rw [takeWhile_cons_of_neg (by simp [hb])]
        refine iff_of_false (cons_ne_nil a text).symm fun h ↦ htext.1 ?_
        rw [← h.1, hb]
      · rw [takeWhile_cons_of_pos (by simp [hb]), cons_eq_cons]

/-- The test of the scan asks whether the name is that of the partition or of its backup. -/
theorem nameMatches_iff {ptnName name : Bytes} (hzero : 0 ∉ ptnName)
    (hlength : ptnName.length + 3 < name.length) :
    nameMatches ptnName name = true ↔ name.takeWhile (· ≠ 0) = ptnName ∨
      name.takeWhile (· ≠ 0) = ptnName ++ chars "bak" := by
  have htake : ∀ {m} {rest : Bytes}, name.take (ptnName.length + m) = ptnName ++ rest ↔
      name.take ptnName.length = ptnName ∧ (name.drop ptnName.length).take m = rest := by
    intro m rest
    rw [take_add]
    constructor
    · intro h
      exact append_inj h (by rw [length_take]; omega)
    · rintro ⟨hname, hrest⟩
      rw [hname, hrest]
  have hbak : 0 ∉ ptnName ++ chars "bak" := by
    rw [mem_append, not_or]
    exact ⟨hzero, by decide⟩
  have hlength' : (ptnName ++ chars "bak").length = ptnName.length + 3 := length_append
  have hfirst : (name.drop ptnName.length).take 1 = [0] ↔ name.getD ptnName.length 0 = 0 := by
    rw [drop_eq_getElem_cons (by omega), take_succ_cons, take_zero,
      getD_eq_getElem?_getD, getElem?_eq_getElem (by omega), Option.getD_some,
      cons_eq_cons, and_iff_left rfl]
  rw [takeWhile_ne_zero_eq_iff hzero (by omega), takeWhile_ne_zero_eq_iff hbak (by omega), hlength',
    htake, append_assoc, Nat.add_assoc, htake, hfirst, nameMatches, Bool.and_eq_true,
    Bool.or_eq_true, beq_iff_eq, beq_iff_eq, beq_iff_eq, ← and_or_left]
  rfl

theorem nameMatches_iff_of_mem {ptnName name : Bytes} (h : ptnName ∈ ptnSwapList)
    (hlength : name.length = 36) :
    nameMatches ptnName name = true ↔ name.takeWhile (· ≠ 0) = ptnName ∨
      name.takeWhile (· ≠ 0) = ptnName ++ chars "bak" := by
  have hlist : ∀ ptnName ∈ ptnSwapList, 0 ∉ ptnName ∧ ptnName.length + 3 < 36 := by decide
  refine nameMatches_iff (hlist ptnName h).1 ?_
  rw [hlength]
  exact (hlist ptnName h).2

theorem nameMatches_nameField_iff {ptnName : Bytes} (h : ptnName ∈ ptnSwapList) (entry : Bytes) :
    nameMatches ptnName (nameField entry) = true ↔ BelongsTo ptnName entry :=
  nameMatches_iff_of_mem h (length_nameField entry)

/-- A name is that of one partition of the list at most. -/
theorem eq_of_nameMatches {ptnName ptnName' name : Bytes} (h : ptnName ∈ ptnSwapList)
    (h' : ptnName' ∈ ptnSwapList) (hlength : name.length = 36)
    (hmatches : nameMatches ptnName name = true) (hmatches' : nameMatches ptnName' name = true) :
    ptnName = ptnName' := by
  have hlist : ∀ ptnName ∈ ptnSwapList, ∀ ptnName' ∈ ptnSwapList,
      ptnName = ptnName' ++ chars "bak" ∨ ptnName ++ chars "bak" = ptnName' ∨
        ptnName ++ chars "bak" = ptnName' ++ chars "bak" → ptnName = ptnName' := by
    decide +kernel
  rcases (nameMatches_iff_of_mem h hlength).mp hmatches with hname | hname <;>
    rcases (nameMatches_iff_of_mem h' hlength).mp hmatches' with hname' | hname'
  · exact hname.symm.trans hname'
  · exact hlist _ h _ h' (Or.inl (hname.symm.trans hname'))
  · exact hlist _ h _ h' (Or.inr (Or.inl (hname.symm.trans hname')))
  · exact hlist _ h _ h' (Or.inr (Or.inr (hname.symm.trans hname')))

/-- The partition of the list to which an entry belongs -/
def partitionOf (entry : Bytes) : Option Bytes :=
  ptnSwapList.find? fun ptnName ↦ nameMatches ptnName (nameField entry)

theorem partitionOf_eq_some_iff {ptnName : Bytes} (h : ptnName ∈ ptnSwapList) (entry : Bytes) :
    partitionOf entry = some ptnName ↔ BelongsTo ptnName entry := by
  rw [← nameMatches_nameField_iff h]
  constructor
  · intro hfind
    rw [partitionOf] at hfind
    have hmatches := find?_some hfind
    exact hmatches
  · intro hmatches
    have hsome : (partitionOf entry).isSome = true :=
      find?_isSome.mpr ⟨ptnName, h, hmatches⟩
    obtain ⟨ptnName', hfind⟩ := Option.isSome_iff_exists.mp hsome
    rw [partitionOf] at hfind
    have hmem : ptnName' ∈ ptnSwapList := mem_of_find?_eq_some hfind
    have hmatches' := find?_some hfind
    rw [partitionOf, hfind,
      eq_of_nameMatches hmem h (length_nameField entry) hmatches' hmatches]

/-! ## The scan -/

section

variable {n : ℕ} {pentries : Entries n} {ptnName : Bytes}

/-- What the scan finds from the entry `start` on -/
inductive Seeks (pentries : Entries n) (ptnName : Bytes) (start : ℕ) : Option ℕ → Prop
  | found (i : Fin n) (hstart : start ≤ i) (h : BelongsTo ptnName (pentries.entry i))
      (hbefore : ∀ l : Fin n, start ≤ l → l < i → ¬BelongsTo ptnName (pentries.entry l)) :
      Seeks pentries ptnName start (some (ptnEntrySize * i))
  | none (h : ∀ l : Fin n, start ≤ l → ¬BelongsTo ptnName (pentries.entry l)) :
      Seeks pentries ptnName start none

/-- The scan goes from entry to entry. -/
theorem exists_pentrySeekLoop (h : ptnName ∈ ptnSwapList) {fuel start : ℕ} (hle : start ≤ n)
    (hfuel : n < start + fuel) :
    ∃ result, pentrySeekLoop ptnName pentries.bytes ptnEntrySize fuel (ptnEntrySize * start) =
      some result ∧ Seeks pentries ptnName start result := by
  induction fuel generalizing start with
  | zero => omega
  | succ fuel ih =>
    rw [pentrySeekLoop]
    by_cases hstart : start < n
    · have hplace : ptnEntrySize * start + partitionNameOffset < pentries.bytes.length := by
        rw [pentries.length_eq, ptnEntrySize, partitionNameOffset]
        omega
      have hname : name8 pentries.bytes (ptnEntrySize * start + partitionNameOffset) =
          some (nameField (pentries.entry ⟨start, hstart⟩)) := Entries.name8_eq ⟨start, hstart⟩
      rw [if_pos hplace, hname]
      dsimp only
      split_ifs with hmatches
      · exact ⟨_, rfl, .found ⟨start, hstart⟩ le_rfl
          ((nameMatches_nameField_iff h _).mp hmatches) fun l hle hlt ↦ absurd hle (not_le.mpr hlt)⟩
      · have hnot : ¬BelongsTo ptnName (pentries.entry ⟨start, hstart⟩) :=
          mt (nameMatches_nameField_iff h _).mpr hmatches
        have hfirst : ∀ l : Fin n, start ≤ l → ¬start + 1 ≤ l →
            ¬BelongsTo ptnName (pentries.entry l) := by
          intro l hle hlt
          obtain rfl : l = ⟨start, hstart⟩ := Fin.ext (by simp only; omega)
          exact hnot
        have hnext : ptnEntrySize * start + ptnEntrySize = ptnEntrySize * (start + 1) := by ring
        obtain ⟨result, hloop, hseeks⟩ := ih hstart (by omega)
        rw [hnext]
        refine ⟨result, hloop, ?_⟩
        cases hseeks with
        | found i hi hbelongs hbefore =>
          refine .found i (by omega) hbelongs fun l hle hlt ↦ ?_
          by_cases hl : start + 1 ≤ l
          · exact hbefore l hl hlt
          · exact hfirst l hle hl
        | none hno =>
          refine .none fun l hle ↦ ?_
          by_cases hl : start + 1 ≤ l
          · exact hno l hl
          · exact hfirst l hle hl
    · have hplace : ¬ptnEntrySize * start + partitionNameOffset < pentries.bytes.length := by
        rw [pentries.length_eq, ptnEntrySize, partitionNameOffset]
        omega
      rw [if_neg hplace]
      exact ⟨none, rfl, .none fun l hle ↦ absurd l.isLt (by omega)⟩

theorem exists_gptPentrySeek (h : ptnName ∈ ptnSwapList) {start : ℕ} (hle : start ≤ n) :
    ∃ result, gptPentrySeek ptnName pentries.bytes (ptnEntrySize * start) ptnEntrySize =
      some result ∧ Seeks pentries ptnName start result := by
  refine exists_pentrySeekLoop h hle ?_
  rw [pentries.length_eq, ptnEntrySize]
  omega

/-! ## The exchange -/

/-- Two whole entries are exchanged. -/
theorem exists_swapEntries {i j : Fin n} (h : i < j) :
    ∃ out : Entries n,
      swapEntries pentries.bytes (ptnEntrySize * i) (ptnEntrySize * j) = some out.bytes ∧
      out.entry i = pentries.entry j ∧ out.entry j = pentries.entry i ∧
      ∀ l, l ≠ i → l ≠ j → out.entry l = pentries.entry l := by
  have hfits : ptnEntrySize * i + ptnEntrySize ≤ ptnEntrySize * j ∧
      ptnEntrySize * j + ptnEntrySize ≤ pentries.bytes.length := by
    rw [pentries.length_eq, ptnEntrySize]
    omega
  have hread : ∀ {d : Bytes} {l a : Fin n}, d.length = ptnEntrySize * n →
      slice (splice d (ptnEntrySize * a) (pentries.entry l)) (ptnEntrySize * a) ptnEntrySize =
        pentries.entry l := by
    intro d l a hd
    have hfit : ptnEntrySize * a + (pentries.entry l).length ≤ d.length := by
      rw [pentries.length_entry, hd, ptnEntrySize]
      omega
    have hsame := slice_splice_same hfit
    rwa [pentries.length_entry] at hsame
  have hkeep : ∀ {d : Bytes} {l a b : Fin n}, b ≠ a →
      slice (splice d (ptnEntrySize * a) (pentries.entry l)) (ptnEntrySize * b) ptnEntrySize =
        slice d (ptnEntrySize * b) ptnEntrySize := by
    intro d l a b hne
    refine slice_splice_apart ?_
    rw [pentries.length_entry, Apart, ptnEntrySize]
    omega
  let first := splice pentries.bytes (ptnEntrySize * i) (pentries.entry j)
  have hfirst : first.length = ptnEntrySize * n := by rw [length_splice, pentries.length_eq]
  refine ⟨⟨splice first (ptnEntrySize * j) (pentries.entry i), by rw [length_splice, hfirst]⟩,
    ?_, ?_, hread hfirst, ?_⟩
  · rw [swapEntries, if_pos hfits]
    rfl
  · exact (hkeep h.ne).trans (hread pentries.length_eq)
  · intro l hi hj
    exact (hkeep hj).trans (hkeep hi)

/-- A partition is left out: on UFS devices xbl is handled separately. -/
def isSkipped (isUfs : Bool) (ptnName : Bytes) : Bool :=
  isUfs && ptnName.take ptnXbl.length == ptnXbl

/-- The partitions that are swapped -/
def processed (isUfs : Bool) (names : List Bytes) : List Bytes :=
  names.filter fun ptnName ↦ !isSkipped isUfs ptnName

/-- The first two entries of a partition -/
def IsPair (pentries : Entries n) (ptnName : Bytes) (i j : Fin n) : Prop :=
  FirstTwo (fun l ↦ partitionOf (pentries.entry l) = some ptnName) i j

/-- One turn exchanges the first two entries of the partition, if it has two. -/
theorem exists_swapOne (h : ptnName ∈ ptnSwapList) {isUfs : Bool}
    (hskip : isSkipped isUfs ptnName = false) (flag : ℤ) :
    ∃ (flag' : ℤ) (out : Entries n),
      swapOne isUfs ptnEntrySize ptnName (flag, pentries.bytes) = some (flag', out.bytes) ∧
      Exchanged partitionOf [ptnName] pentries.entry out.entry ∧
      ((flag' = 0 ∧ ∃ i j, IsPair pentries ptnName i j) ∨
        (flag' = flag ∧ ∀ i j, ¬IsPair pentries ptnName i j)) := by
  have hbelongs : ∀ l, partitionOf (pentries.entry l) = some ptnName ↔
      BelongsTo ptnName (pentries.entry l) := fun l ↦ partitionOf_eq_some_iff h _
  have hskip' : ¬(isUfs && ptnName.take ptnXbl.length == ptnXbl) = true := by
    rw [← isSkipped, hskip]
    exact Bool.false_ne_true
  have hnone : (∀ i j, ¬IsPair pentries ptnName i j) →
      Exchanged partitionOf [ptnName] pentries.entry pentries.entry := by
    refine fun hno ↦ .refl_of_not_firstTwo fun ptnName' hmem ↦ ?_
    rw [mem_singleton.mp hmem]
    exact hno
  obtain ⟨result, hseek, hseeks⟩ := @exists_gptPentrySeek n pentries ptnName h 0 (Nat.zero_le n)
  rw [Nat.mul_zero] at hseek
  rw [swapOne, if_neg hskip']
  dsimp only
  rw [hseek]
  cases hseeks with
  | none hno =>
    have hno' : ∀ i j, ¬IsPair pentries ptnName i j := fun i j hpair ↦
      hno i (Nat.zero_le _) ((hbelongs i).mp hpair.left)
    exact ⟨flag, pentries, rfl, hnone hno', Or.inr ⟨rfl, hno'⟩⟩
  | found i _ hi hbefore =>
    have hnext : ptnEntrySize * (i : ℕ) + ptnEntrySize = ptnEntrySize * (i + 1) := by ring
    obtain ⟨result, hseek', hseeks'⟩ := @exists_gptPentrySeek n pentries ptnName h (i + 1) i.isLt
    dsimp only
    rw [hnext, hseek']
    cases hseeks' with
    | none hno =>
      have hno' : ∀ i j, ¬IsPair pentries ptnName i j := by
        intro a b hpair
        have ha : ¬a < i := fun hlt ↦ hbefore a (Nat.zero_le _) hlt ((hbelongs a).mp hpair.left)
        have hlt := hpair.lt
        exact hno b (by omega) ((hbelongs b).mp hpair.right)
      exact ⟨flag, pentries, rfl, hnone hno', Or.inr ⟨rfl, hno'⟩⟩
    | found j hij hj hbefore' =>
      have hpair : IsPair pentries ptnName i j := by
        refine ⟨hij, (hbelongs i).mpr hi, (hbelongs j).mpr hj, fun l hl ↦ ?_⟩
        by_contra hnot
        rw [not_or, not_le] at hnot
        rcases lt_or_gt_of_ne hnot.1 with hlt | hgt
        · exact hbefore l (Nat.zero_le _) hlt ((hbelongs l).mp hl)
        · exact hbefore' l hgt hnot.2 ((hbelongs l).mp hl)
      obtain ⟨out, hswap, hout, hout', hothers⟩ := exists_swapEntries hpair.lt
      refine ⟨0, out, ?_, .of_firstTwo hpair hout hout' hothers, Or.inl ⟨rfl, i, j, hpair⟩⟩
      dsimp only
      rw [hswap, Option.map_some]

theorem isPair_congr {out : Entries n} {ks : List Bytes}
    (h : Exchanged partitionOf ks pentries.entry out.entry) {i j : Fin n} :
    IsPair out ptnName i j ↔ IsPair pentries ptnName i j := by
  simp only [IsPair, h.kind_eq]

/-- The whole loop is one exchange. -/
theorem exists_foldlM_swapOne (isUfs : Bool) {names : List Bytes}
    (hnames : ∀ ptnName ∈ names, ptnName ∈ ptnSwapList) (hnodup : names.Nodup) (flag : ℤ)
    (pentries : Entries n) :
    ∃ (flag' : ℤ) (out : Entries n),
      names.foldlM (fun acc ptnName ↦ swapOne isUfs ptnEntrySize ptnName acc)
        (flag, pentries.bytes) = some (flag', out.bytes) ∧
      Exchanged partitionOf (processed isUfs names) pentries.entry out.entry ∧
      ((flag' = 0 ∧ ∃ ptnName ∈ processed isUfs names, ∃ i j, IsPair pentries ptnName i j) ∨
        (flag' = flag ∧ ∀ ptnName ∈ processed isUfs names, ∀ i j, ¬IsPair pentries ptnName i j)) := by
  induction names generalizing flag pentries with
  | nil =>
    have hno : ∀ ptnName ∈ processed isUfs [], ∀ i j, ¬IsPair pentries ptnName i j :=
      fun _ hmem ↦ absurd hmem not_mem_nil
    exact ⟨flag, pentries, rfl, .refl_of_not_firstTwo hno, Or.inr ⟨rfl, hno⟩⟩
  | cons ptnName names ih =>
    rw [forall_mem_cons] at hnames
    rw [nodup_cons] at hnodup
    rw [foldlM_cons]
    cases hskip : isSkipped isUfs ptnName with
    | true =>
      have hturn : swapOne isUfs ptnEntrySize ptnName (flag, pentries.bytes) =
          some (flag, pentries.bytes) := by
        rw [swapOne, ← isSkipped, if_pos hskip]
      have hprocessed : processed isUfs (ptnName :: names) = processed isUfs names :=
        filter_cons_of_neg (by simp [hskip])
      rw [hturn, hprocessed]
      exact ih hnames.2 hnodup.2 flag pentries
    | false =>
      have hprocessed : processed isUfs (ptnName :: names) = ptnName :: processed isUfs names :=
        filter_cons_of_pos (by simp [hskip])
      have hnot : ptnName ∉ processed isUfs names := fun hmem ↦
        hnodup.1 (mem_of_mem_filter hmem)
      obtain ⟨flag', mid, hturn, hexchanged, hflag⟩ := exists_swapOne hnames.1 hskip flag
      obtain ⟨flag'', out, hrun, hexchanged', hflag'⟩ := ih hnames.2 hnodup.2 flag' mid
      have hpairs : ∀ {ptnName' i j}, IsPair mid ptnName' i j ↔ IsPair pentries ptnName' i j :=
        isPair_congr hexchanged
      simp only [hpairs] at hflag'
      rw [hturn, hprocessed]
      refine ⟨flag'', out, hrun, hexchanged.cons hnot hexchanged', ?_⟩
      rcases hflag' with ⟨rfl, ptnName', hmem, hpair⟩ | ⟨rfl, hno⟩
      · exact Or.inl ⟨rfl, ptnName', mem_cons_of_mem _ hmem, hpair⟩
      · rcases hflag with ⟨rfl, hpair⟩ | ⟨rfl, hno'⟩
        · exact Or.inl ⟨rfl, ptnName, mem_cons_self, hpair⟩
        · exact Or.inr ⟨rfl, forall_mem_cons.mpr ⟨hno', hno⟩⟩

/-! ## The swap -/

/-- What one swap of the boot chain does, and that a second one undoes it -/
structure Swaps (isUfs : Bool) (pentries out : Entries n) (backupNotFound : ℤ) : Prop where
  again : gptBootChainSwap isUfs ptnEntrySize out.bytes = some (backupNotFound, pentries.bytes)
  permutes : ∃ σ : Equiv.Perm (Fin n), ∀ i, out.entry i = pentries.entry (σ i)
  others : ∀ i, (∀ ptnName ∈ ptnSwapList, ¬BelongsTo ptnName (pentries.entry i)) →
    out.entry i = pentries.entry i
  exchanges : ∀ ptnName ∈ processed isUfs ptnSwapList, ∀ i j,
    FirstTwo (fun l ↦ BelongsTo ptnName (pentries.entry l)) i j →
      out.entry i = pentries.entry j ∧ out.entry j = pentries.entry i
  flag : backupNotFound = 0 ∨ backupNotFound = 1
  notFound : backupNotFound = 1 ↔ ∀ ptnName ∈ processed isUfs ptnSwapList,
    ¬∃ i j, i < j ∧ BelongsTo ptnName (pentries.entry i) ∧ BelongsTo ptnName (pentries.entry j)
  unchanged : backupNotFound = 1 → out = pentries

theorem isPair_iff (h : ptnName ∈ ptnSwapList) {i j : Fin n} : IsPair pentries ptnName i j ↔
    FirstTwo (fun l ↦ BelongsTo ptnName (pentries.entry l)) i j := by
  simp only [IsPair, partitionOf_eq_some_iff h]

/-- For every array of whole entries, the swap of the boot chain is defined, undoes itself, moves
only entries of partitions of the list, and exchanges the first two of each of them. -/
theorem gpt_boot_chain_swap_spec (isUfs : Bool) {n : ℕ} (pentries : Entries n) :
    ∃ (backupNotFound : ℤ) (out : Entries n),
      gptBootChainSwap isUfs ptnEntrySize pentries.bytes = some (backupNotFound, out.bytes) ∧
      Swaps isUfs pentries out backupNotFound := by
  have hnodup : ptnSwapList.Nodup := by decide +kernel
  have hpair : ∀ {ptnName}, ptnName ∈ processed isUfs ptnSwapList →
      ptnName ∈ ptnSwapList := mem_of_mem_filter
  obtain ⟨flag, out, hswap, hexchanged, hflag⟩ :=
    exists_foldlM_swapOne isUfs (fun _ h ↦ h) hnodup 1 pentries
  obtain ⟨flag', back, hswap', hexchanged', hflag'⟩ :=
    exists_foldlM_swapOne isUfs (fun _ h ↦ h) hnodup 1 out
  -- the second run sees the same pairs, and puts everything back
  have hback : back = pentries :=
    Entries.ext_entry fun i ↦ congrFun (hexchanged'.unique hexchanged.symm) i
  simp only [isPair_congr hexchanged] at hflag'
  have hsame : flag' = flag := by
    rcases hflag with ⟨rfl, ptnName, hmem, i, j, hp⟩ | ⟨rfl, hno⟩ <;>
      rcases hflag' with ⟨rfl, ptnName', hmem', i', j', hp'⟩ | ⟨rfl, hno'⟩
    · rfl
    · exact absurd hp (hno' ptnName hmem i j)
    · exact absurd hp' (hno ptnName' hmem' i' j')
    · rfl
  refine ⟨flag, out, hswap, ⟨?_, hexchanged.exists_perm, ?_, ?_, ?_, ?_, ?_⟩⟩
  · rw [← hsame, ← hback]
    exact hswap'
  · intro i hno
    refine hexchanged.others i fun j htwins ↦ ?_
    obtain ⟨ptnName, hmem, hi, -⟩ := htwins.exists_kind
    exact hno ptnName (hpair hmem) ((partitionOf_eq_some_iff (hpair hmem) _).mp hi)
  · intro ptnName hmem i j hfirst
    have hfirst' : IsPair pentries ptnName i j := (isPair_iff (hpair hmem)).mpr hfirst
    exact ⟨hexchanged.twins i j ⟨ptnName, hmem, Or.inl hfirst'⟩,
      hexchanged.twins j i ⟨ptnName, hmem, Or.inr hfirst'⟩⟩
  · exact hflag.imp And.left And.left
  · have htwo : ∀ ptnName ∈ processed isUfs ptnSwapList, (∃ i j, IsPair pentries ptnName i j) ↔
        ∃ i j, i < j ∧ BelongsTo ptnName (pentries.entry i) ∧
          BelongsTo ptnName (pentries.entry j) := by
      intro ptnName hmem
      simp only [isPair_iff (hpair hmem)]
      exact FirstTwo.exists_iff
    rcases hflag with ⟨rfl, ptnName, hmem, hp⟩ | ⟨rfl, hno⟩
    · exact iff_of_false (by decide) fun hnone ↦ hnone ptnName hmem ((htwo ptnName hmem).mp hp)
    · refine iff_of_true rfl fun ptnName hmem hex ↦ ?_
      obtain ⟨i, j, hp⟩ := (htwo ptnName hmem).mpr hex
      exact hno ptnName hmem i j hp
  · intro hone
    rcases hflag with ⟨rfl, -⟩ | ⟨-, hno⟩
    · cases hone
    · refine Entries.ext_entry fun i ↦ ?_
      exact congrFun (hexchanged.unique (.refl_of_not_firstTwo hno)) i

end

end MataDevice.Gpt
