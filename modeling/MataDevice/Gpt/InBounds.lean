import MataDevice.Gpt.Accesses
import MataDevice.Gpt.CrashSafety

/-!
# When the accesses stay in their buffers

The size of a header is taken from the disk and bounds the CRC, so it has to fit into the block. The
scan for an entry goes on while the name field starts inside the array, and reads 71 bytes of it; an
exchange copies 128 bytes. Near the end of the array this is too much: a scan must have found its
entry before it comes to such a start, and so must the second scan of a partition. An exchange
changes the array for the partitions that come after. With entries of at least 128 bytes it does
not change where their entries are, so that one can see from the array on the disk whether the
accesses stay inside.
-/

namespace MataDevice.Gpt

open MataDevice.Twins List

/-! ## The starts of entries -/

section

variable (pentrySize : ℕ) (ptnName pentries : Bytes)

/-- An entry of a partition starts here, and its name field lies in the array. -/
structure IsEntry (start : ℕ) : Prop where
  dvd : pentrySize ∣ start
  fits : start + partitionNameOffset + (maxGptNameSize - 2) < pentries.length
  nameMatches : nameMatches ptnName (nameAt pentries (start + partitionNameOffset)) = true

/-- The name field starts inside the array and reaches past its end. -/
structure IsShort (start : ℕ) : Prop where
  dvd : pentrySize ∣ start
  lt : start + partitionNameOffset < pentries.length
  le : pentries.length ≤ start + partitionNameOffset + (maxGptNameSize - 2)

/-- The turn of a partition stays inside the array: two entries are found before a start where the
name field does not fit, and if two are found, both fit with their 128 bytes. -/
structure TurnFits : Prop where
  short : ∀ start, IsShort pentrySize pentries start →
    ∃ i j, FirstTwo (IsEntry pentrySize ptnName pentries) i j ∧ j < start
  last : ∀ i j, FirstTwo (IsEntry pentrySize ptnName pentries) i j →
    j + ptnEntrySize ≤ pentries.length

end

variable {pentrySize : ℕ} {ptnName pentries : Bytes}

/-- The starts of entries are at least one entry apart. -/
theorem add_le_of_dvd {start t : ℕ} (hstart : pentrySize ∣ start) (ht : pentrySize ∣ t)
    (h : start < t) : start + pentrySize ≤ t := by
  have hle := Nat.le_of_dvd (Nat.sub_pos_of_lt h) (Nat.dvd_sub ht hstart)
  omega

/-! ## The scan -/

/-- What a scan from a start on does; `none` when it reads past the end. -/
inductive Scans (pentrySize : ℕ) (ptnName pentries : Bytes) (start : ℕ) : Option (Option ℕ) → Prop
  | found (i : ℕ) (hle : start ≤ i) (h : IsEntry pentrySize ptnName pentries i)
      (hbefore : ∀ t, start ≤ t → t < i →
        ¬IsEntry pentrySize ptnName pentries t ∧ ¬IsShort pentrySize pentries t) :
      Scans pentrySize ptnName pentries start (some (some i))
  | none (h : ∀ t, start ≤ t →
        ¬IsEntry pentrySize ptnName pentries t ∧ ¬IsShort pentrySize pentries t) :
      Scans pentrySize ptnName pentries start (some none)
  | past (i : ℕ) (hle : start ≤ i) (h : IsShort pentrySize pentries i)
      (hbefore : ∀ t, start ≤ t → t < i → ¬IsEntry pentrySize ptnName pentries t) :
      Scans pentrySize ptnName pentries start none

theorem scans_seekLoop (hsize : 0 < pentrySize ∨ pentries.length = 0) {fuel start : ℕ}
    (hdvd : pentrySize ∣ start) (hfuel : pentries.length < start + fuel) :
    Scans pentrySize ptnName pentries start
      (seekLoopAccesses ptnName pentries pentrySize fuel start).result := by
  have hend : ∀ {start}, pentries.length ≤ start + partitionNameOffset →
      Scans pentrySize ptnName pentries start (some none) := by
    refine fun {start} hle ↦ .none fun t ht ↦ ⟨fun hentry ↦ ?_, fun hshort ↦ ?_⟩
    · have hfits := hentry.fits
      omega
    · have hlt := hshort.lt
      omega
  induction fuel generalizing start with
  | zero => exact hend (by omega)
  | succ fuel ih =>
    rw [seekLoopAccesses]
    by_cases hstart : start + partitionNameOffset < pentries.length
    · rw [if_pos hstart, Traced.result_bind, result_touch_nameField]
      by_cases hfits : start + partitionNameOffset + (maxGptNameSize - 2) < pentries.length
      · rw [if_pos hfits, Option.bind_some]
        split_ifs with hmatches
        · exact .found start le_rfl ⟨hdvd, hfits, hmatches⟩ fun t hle hlt ↦ by omega
        · -- this start is neither, and the next one is an entry further on
          have hself : ¬IsEntry pentrySize ptnName pentries start ∧
              ¬IsShort pentrySize pentries start :=
            ⟨fun hentry ↦ hmatches hentry.nameMatches, fun hshort ↦ by have := hshort.le; omega⟩
          have hnext := ih (hdvd.add (dvd_refl pentrySize)) (by omega)
          have hsplit : ∀ {t}, start ≤ t → pentrySize ∣ t → t = start ∨ start + pentrySize ≤ t := by
            intro t hle ht
            rcases hle.eq_or_lt with heq | hlt
            · exact Or.inl heq.symm
            · exact Or.inr (add_le_of_dvd hdvd ht hlt)
          have hentry : ∀ t, start ≤ t → (start + pentrySize ≤ t →
              ¬IsEntry pentrySize ptnName pentries t) → ¬IsEntry pentrySize ptnName pentries t := by
            intro t hle hrest hentry
            rcases hsplit hle hentry.dvd with rfl | hge
            · exact hself.1 hentry
            · exact hrest hge hentry
          have hshort : ∀ t, start ≤ t → (start + pentrySize ≤ t →
              ¬IsShort pentrySize pentries t) → ¬IsShort pentrySize pentries t := by
            intro t hle hrest hshort
            rcases hsplit hle hshort.dvd with rfl | hge
            · exact hself.2 hshort
            · exact hrest hge hshort
          generalize (seekLoopAccesses ptnName pentries pentrySize fuel
            (start + pentrySize)).result = result at hnext
          cases hnext with
          | found i hle h hbefore =>
            exact .found i (by omega) h fun t hle hlt ↦
              ⟨hentry t hle fun hge ↦ (hbefore t hge hlt).1,
                hshort t hle fun hge ↦ (hbefore t hge hlt).2⟩
          | none h =>
            exact .none fun t hle ↦
              ⟨hentry t hle fun hge ↦ (h t hge).1, hshort t hle fun hge ↦ (h t hge).2⟩
          | past i hle h hbefore =>
            exact .past i (by omega) h fun t hle hlt ↦
              hentry t hle fun hge ↦ hbefore t hge hlt
      · rw [if_neg hfits]
        exact .past start le_rfl ⟨hdvd, hstart, not_lt.mp hfits⟩ fun t hle hlt ↦ by omega
    · rw [if_neg hstart]
      exact hend (not_lt.mp hstart)

theorem scans_gptPentrySeek (hsize : 0 < pentrySize ∨ pentries.length = 0) {start : ℕ}
    (hdvd : pentrySize ∣ start) :
    Scans pentrySize ptnName pentries start
      (gptPentrySeekAccesses ptnName pentries start pentrySize).result :=
  scans_seekLoop hsize hdvd (by omega)

/-! ## One turn -/

section

variable (memcpy : EntryCopy)

/-- What the turn of a partition does; `none` when it leaves the array. -/
inductive Turns (pentrySize : ℕ) (ptnName : Bytes) (acc : ℤ × Bytes) : Option (ℤ × Bytes) → Prop
  | swapped (i j : ℕ) (hpair : FirstTwo (IsEntry pentrySize ptnName acc.2) i j)
      (hfits : TurnFits pentrySize ptnName acc.2) :
      Turns pentrySize ptnName acc (some (0, exchanged memcpy acc.2 i j))
  | kept (hno : ∀ i j, ¬FirstTwo (IsEntry pentrySize ptnName acc.2) i j)
      (hfits : TurnFits pentrySize ptnName acc.2) : Turns pentrySize ptnName acc (some acc)
  | past (h : ¬TurnFits pentrySize ptnName acc.2) : Turns pentrySize ptnName acc none

end

variable {memcpy : EntryCopy}

theorem turns_swapOne {isUfs : Bool} (hskip : isSkipped isUfs ptnName = false) (acc : ℤ × Bytes)
    (hsize : 0 < pentrySize ∨ acc.2.length = 0) :
    Turns memcpy pentrySize ptnName acc
      (swapOneAccesses memcpy isUfs pentrySize ptnName acc).result := by
  have hskip' : ¬isSkipped isUfs ptnName = true := by
    rw [hskip]
    exact Bool.false_ne_true
  rw [swapOneAccesses, if_neg hskip', Traced.result_bind]
  have hfirst : Scans pentrySize ptnName acc.2 0 _ := scans_gptPentrySeek hsize (dvd_zero _)
  generalize (gptPentrySeekAccesses ptnName acc.2 0 pentrySize).result = first at hfirst
  cases hfirst with
  | past i _ h hbefore =>
    refine .past fun hfits ↦ ?_
    obtain ⟨a, b, hpair, hlt⟩ := hfits.short i h
    exact hbefore a (Nat.zero_le a) (hpair.lt.trans hlt) hpair.left
  | none h =>
    have hno : ∀ i j, ¬FirstTwo (IsEntry pentrySize ptnName acc.2) i j :=
      fun i j hpair ↦ (h i (Nat.zero_le i)).1 hpair.left
    exact .kept hno ⟨fun start hshort ↦ absurd hshort (h start (Nat.zero_le start)).2,
      fun i j hpair ↦ absurd hpair (hno i j)⟩
  | found i _ hi hbefore =>
    rw [Option.bind_some, Traced.result_bind]
    have hsecond : Scans pentrySize ptnName acc.2 (i + pentrySize) _ :=
      scans_gptPentrySeek hsize (hi.dvd.add (dvd_refl pentrySize))
    generalize (gptPentrySeekAccesses ptnName acc.2 (i + pentrySize) pentrySize).result =
      second at hsecond
    -- what comes after the first entry is at least one entry further on
    have hentry : ∀ {t}, IsEntry pentrySize ptnName acc.2 t → t = i ∨ i + pentrySize ≤ t := by
      intro t ht
      rcases lt_trichotomy t i with hlt | heq | hgt
      · exact absurd ht (hbefore t (Nat.zero_le t) hlt).1
      · exact Or.inl heq
      · exact Or.inr (add_le_of_dvd hi.dvd ht.dvd hgt)
    have hshort : ∀ {t}, IsShort pentrySize acc.2 t → i + pentrySize ≤ t := by
      intro t ht
      rcases lt_trichotomy t i with hlt | rfl | hgt
      · exact absurd ht (hbefore t (Nat.zero_le t) hlt).2
      · exact absurd hi.fits (not_lt.mpr ht.le)
      · exact add_le_of_dvd hi.dvd ht.dvd hgt
    have hright : ∀ {a b}, FirstTwo (IsEntry pentrySize ptnName acc.2) a b →
        i + pentrySize ≤ b := by
      intro a b hpair
      have hlt := hpair.lt
      have ha := hentry hpair.left
      have hb := hentry hpair.right
      omega
    cases hsecond with
    | past s _ h hbefore' =>
      refine .past fun hfits ↦ ?_
      obtain ⟨a, b, hpair, hlt⟩ := hfits.short s h
      exact hbefore' b (hright hpair) hlt hpair.right
    | none h =>
      have hno : ∀ a b, ¬FirstTwo (IsEntry pentrySize ptnName acc.2) a b :=
        fun a b hpair ↦ (h b (hright hpair)).1 hpair.right
      exact .kept hno ⟨fun start ht ↦ absurd ht (h start (hshort ht)).2,
        fun a b hpair ↦ absurd hpair (hno a b)⟩
    | found j hle hj hbefore' =>
      have hpair : FirstTwo (IsEntry pentrySize ptnName acc.2) i j := by
        have hlength := hi.fits
        refine ⟨by omega, hi, hj, fun l hl ↦ ?_⟩
        rcases hentry hl with heq | hge
        · exact Or.inl heq
        · exact Or.inr (not_lt.mp fun hlt ↦ (hbefore' l hge hlt).1 hl)
      have hlt := hpair.lt
      rw [Option.bind_some, Traced.result_bind, result_swapEntriesAccesses]
      by_cases hlast : j + ptnEntrySize ≤ acc.2.length
      · rw [if_pos ⟨by omega, hlast⟩]
        refine .swapped i j hpair ⟨fun start ht ↦ ⟨i, j, hpair, ?_⟩, fun a b hpair' ↦ ?_⟩
        · rcases lt_trichotomy start j with hlt | rfl | hgt
          · exact absurd ht (hbefore' start (hshort ht) hlt).2
          · exact absurd hj.fits (not_lt.mpr ht.le)
          · exact hgt
        · rwa [← (hpair.unique hpair').2]
      · rw [if_neg fun hboth ↦ hlast hboth.2]
        exact .past fun hfits ↦ hlast (hfits.last i j hpair)

/-! ## All turns -/

section

variable (memcpy : EntryCopy) (pentrySize : ℕ)

open Classical in
/-- The array after the turn of a partition that stays inside it -/
noncomputable def afterTurn (ptnName pentries : Bytes) : Bytes :=
  if h : ∃ p : ℕ × ℕ, FirstTwo (IsEntry pentrySize ptnName pentries) p.1 p.2 then
    exchanged memcpy pentries h.choose.1 h.choose.2
  else pentries

/-- Every turn fits, in the array as the turns before it have left it. -/
def ChainFits : List Bytes → Bytes → Prop
  | [], _ => True
  | ptnName :: names, pentries =>
    TurnFits pentrySize ptnName pentries ∧
      ChainFits names (afterTurn memcpy pentrySize ptnName pentries)

/-- In some turn two entries are found. -/
def ChainFinds : List Bytes → Bytes → Prop
  | [], _ => False
  | ptnName :: names, pentries =>
    (∃ i j, FirstTwo (IsEntry pentrySize ptnName pentries) i j) ∨
      ChainFinds names (afterTurn memcpy pentrySize ptnName pentries)

end

theorem afterTurn_of_firstTwo {i j : ℕ} (h : FirstTwo (IsEntry pentrySize ptnName pentries) i j) :
    afterTurn memcpy pentrySize ptnName pentries = exchanged memcpy pentries i j := by
  have hex : ∃ p : ℕ × ℕ, FirstTwo (IsEntry pentrySize ptnName pentries) p.1 p.2 := ⟨(i, j), h⟩
  rw [afterTurn, dif_pos hex, (hex.choose_spec.unique h).1, (hex.choose_spec.unique h).2]

theorem afterTurn_of_not (h : ∀ i j, ¬FirstTwo (IsEntry pentrySize ptnName pentries) i j) :
    afterTurn memcpy pentrySize ptnName pentries = pentries :=
  dif_neg fun ⟨p, hp⟩ ↦ h p.1 p.2 hp

theorem length_exchanged (pentries : Bytes) (a b : ℕ) :
    (exchanged memcpy pentries a b).length = pentries.length := by
  rw [exchanged, length_splice, memcpy.length_copy]

/-- The loop over the partitions stays inside the array exactly when every turn fits, and it returns
zero when one of them has found two entries. -/
theorem foldlM_swapOne (isUfs : Bool) (names : List Bytes) (acc : ℤ × Bytes)
    (hsize : 0 < pentrySize ∨ acc.2.length = 0) :
    let result := (names.foldlM
      (fun acc ptnName ↦ swapOneAccesses memcpy isUfs pentrySize ptnName acc) acc).result
    (¬ChainFits memcpy pentrySize (processed isUfs names) acc.2 → result = none) ∧
    (ChainFits memcpy pentrySize (processed isUfs names) acc.2 →
      ChainFinds memcpy pentrySize (processed isUfs names) acc.2 →
        ∃ pentries, result = some (0, pentries)) ∧
    (ChainFits memcpy pentrySize (processed isUfs names) acc.2 →
      ¬ChainFinds memcpy pentrySize (processed isUfs names) acc.2 →
        ∃ pentries, result = some (acc.1, pentries)) := by
  induction names generalizing acc with
  | nil => exact ⟨fun h ↦ absurd trivial h, fun _ h ↦ h.elim, fun _ _ ↦ ⟨acc.2, rfl⟩⟩
  | cons ptnName names ih =>
    rw [foldlM_cons, Traced.result_bind]
    cases hskip : isSkipped isUfs ptnName with
    | true =>
      have hprocessed : processed isUfs (ptnName :: names) = processed isUfs names :=
        filter_cons_of_neg (by simp [hskip])
      have hturn : (swapOneAccesses memcpy isUfs pentrySize ptnName acc).result = some acc := by
        rw [swapOneAccesses, if_pos hskip, Traced.result_pure]
      rw [hprocessed, hturn]
      exact ih acc hsize
    | false =>
      have hprocessed : processed isUfs (ptnName :: names) = ptnName :: processed isUfs names :=
        filter_cons_of_pos (by simp [hskip])
      rw [hprocessed, ChainFits, ChainFinds]
      have hturn : Turns memcpy pentrySize ptnName acc _ := turns_swapOne hskip acc hsize
      generalize (swapOneAccesses memcpy isUfs pentrySize ptnName acc).result = turn at hturn
      cases hturn with
      | past hnot =>
        exact ⟨fun _ ↦ rfl, fun h ↦ absurd h.1 hnot, fun h ↦ absurd h.1 hnot⟩
      | kept hno hfits =>
        rw [afterTurn_of_not hno, and_iff_right hfits,
          or_iff_right (not_exists.mpr fun i ↦ not_exists.mpr (hno i))]
        exact ih acc hsize
      | swapped i j hpair hfits =>
        rw [afterTurn_of_firstTwo hpair, and_iff_right hfits]
        have hrest := ih (0, exchanged memcpy acc.2 i j)
          (hsize.imp_right fun hzero ↦ (length_exchanged _ _ _).trans hzero)
        refine ⟨hrest.1, fun h _ ↦ ?_, fun _ h ↦ absurd (Or.inl ⟨i, j, hpair⟩) h⟩
        by_cases hfinds : ChainFinds memcpy pentrySize (processed isUfs names)
          (exchanged memcpy acc.2 i j)
        · exact hrest.2.1 h hfinds
        · exact hrest.2.2 h hfinds

/-! ## Entries that do not overlap -/

theorem length_nameAt (pentries : Bytes) (pos : ℕ) : (nameAt pentries pos).length = 36 := by
  rw [nameAt, length_map, length_range]
  rfl

theorem nameAt_congr {out : Bytes} {pos pos' : ℕ}
    (h : ∀ k < 71, out[pos + k]? = pentries[pos' + k]?) : nameAt out pos = nameAt pentries pos' := by
  refine map_congr_left fun k hk ↦ ?_
  have hlt : k < 36 := mem_range.mp hk
  rw [getD_eq_getElem?_getD, getD_eq_getElem?_getD, h (k * 2) (by omega)]

/-- One cell after two entries that do not overlap have been exchanged -/
theorem getElem?_exchanged {i j : ℕ} (hij : i + ptnEntrySize ≤ j)
    (hj : j + ptnEntrySize ≤ pentries.length) (p : ℕ) :
    (exchanged memcpy pentries i j)[p]? =
      if i ≤ p ∧ p < i + ptnEntrySize then pentries[j + (p - i)]?
      else if j ≤ p ∧ p < j + ptnEntrySize then pentries[i + (p - j)]?
      else pentries[p]? := by
  have hlength : ∀ {off}, off + ptnEntrySize ≤ pentries.length →
      (slice pentries off ptnEntrySize).length = ptnEntrySize := length_slice
  rw [exchanged, memcpy.copy_eq (Or.inl hij), getElem?_splice, getElem?_splice, length_splice,
    hlength hj, hlength (by omega), getElem?_slice, getElem?_slice]
  split_ifs <;> first | rfl | omega

/-- The name field of an entry after such an exchange -/
theorem nameAt_exchanged {i j s : ℕ} (hij : i + ptnEntrySize ≤ j)
    (hj : j + ptnEntrySize ≤ pentries.length)
    (hi : s = i ∨ Apart s ptnEntrySize i ptnEntrySize)
    (hj' : s = j ∨ Apart s ptnEntrySize j ptnEntrySize) :
    nameAt (exchanged memcpy pentries i j) (s + partitionNameOffset) =
      nameAt pentries ((if s = i then j else if s = j then i else s) + partitionNameOffset) := by
  refine nameAt_congr fun k hk ↦ ?_
  rw [getElem?_exchanged hij hj]
  have hfield : partitionNameOffset + 71 ≤ ptnEntrySize := by decide
  unfold Apart at hi hj'
  rcases hi with rfl | hi
  · rw [if_pos (by omega), if_pos rfl]
    congr 1
    omega
  · rw [if_neg (by omega)]
    rcases hj' with rfl | hj'
    · rw [if_pos (by omega), if_neg (by omega), if_pos rfl]
      congr 1
      omega
    · rw [if_neg (by omega), if_neg (by omega), if_neg (by omega)]

/-- Whether a turn fits depends on the size of the array and on where the entries are. -/
theorem TurnFits.congr {out : Bytes} (hlength : out.length = pentries.length)
    (hentry : ∀ s, IsEntry pentrySize ptnName out s ↔ IsEntry pentrySize ptnName pentries s)
    (hfits : TurnFits pentrySize ptnName pentries) : TurnFits pentrySize ptnName out := by
  have heq : IsEntry pentrySize ptnName out = IsEntry pentrySize ptnName pentries :=
    funext fun s ↦ propext (hentry s)
  refine ⟨fun start hshort ↦ ?_, fun i j hpair ↦ ?_⟩
  · rw [heq]
    refine hfits.short start ⟨hshort.dvd, ?_, ?_⟩
    · rw [← hlength]
      exact hshort.lt
    · rw [← hlength]
      exact hshort.le
  · rw [heq] at hpair
    rw [hlength]
    exact hfits.last i j hpair

section

variable (hsize : ptnEntrySize ≤ pentrySize)

include hsize

theorem apart_of_dvd {s t : ℕ} (hs : pentrySize ∣ s) (ht : pentrySize ∣ t) :
    s = t ∨ Apart s ptnEntrySize t ptnEntrySize := by
  rcases lt_trichotomy s t with hlt | heq | hgt
  · exact Or.inr (Or.inl ((Nat.add_le_add_left hsize s).trans (add_le_of_dvd hs ht hlt)))
  · exact Or.inl heq
  · exact Or.inr (Or.inr ((Nat.add_le_add_left hsize t).trans (add_le_of_dvd ht hs hgt)))

/-- An exchange of two entries of one partition leaves the entries of each partition where they
are. -/
theorem isEntry_exchanged_iff {ptnName' : Bytes} (h : ptnName ∈ ptnSwapList)
    (h' : ptnName' ∈ ptnSwapList) {i j : ℕ}
    (hpair : FirstTwo (IsEntry pentrySize ptnName pentries) i j)
    (hj : j + ptnEntrySize ≤ pentries.length) (s : ℕ) :
    IsEntry pentrySize ptnName' (exchanged memcpy pentries i j) s ↔
      IsEntry pentrySize ptnName' pentries s := by
  have hij : i + ptnEntrySize ≤ j :=
    (Nat.add_le_add_left hsize i).trans (add_le_of_dvd hpair.left.dvd hpair.right.dvd hpair.lt)
  have hsame : ∀ {t u}, IsEntry pentrySize ptnName pentries t →
      IsEntry pentrySize ptnName pentries u →
        nameMatches ptnName' (nameAt pentries (t + partitionNameOffset)) = true →
          nameMatches ptnName' (nameAt pentries (u + partitionNameOffset)) = true := by
    intro t u ht hu hmatches
    rw [eq_of_nameMatches h' h (length_nameAt _ _) hmatches ht.nameMatches]
    exact hu.nameMatches
  have hname : pentrySize ∣ s →
      (nameMatches ptnName' (nameAt (exchanged memcpy pentries i j) (s + partitionNameOffset)) =
        true ↔ nameMatches ptnName' (nameAt pentries (s + partitionNameOffset)) = true) := by
    intro hs
    rw [nameAt_exchanged hij hj (apart_of_dvd hsize hs hpair.left.dvd)
      (apart_of_dvd hsize hs hpair.right.dvd)]
    split_ifs with hi hj'
    · rw [hi]
      exact ⟨hsame hpair.right hpair.left, hsame hpair.left hpair.right⟩
    · rw [hj']
      exact ⟨hsame hpair.left hpair.right, hsame hpair.right hpair.left⟩
    · rfl
  constructor
  · rintro ⟨hdvd, hfits, hmatches⟩
    rw [length_exchanged] at hfits
    exact ⟨hdvd, hfits, (hname hdvd).mp hmatches⟩
  · rintro ⟨hdvd, hfits, hmatches⟩
    refine ⟨hdvd, ?_, (hname hdvd).mpr hmatches⟩
    rwa [length_exchanged]

theorem turnFits_afterTurn_iff {ptnName' : Bytes} (h : ptnName ∈ ptnSwapList)
    (h' : ptnName' ∈ ptnSwapList) (hfits : TurnFits pentrySize ptnName pentries) :
    TurnFits pentrySize ptnName' (afterTurn memcpy pentrySize ptnName pentries) ↔
      TurnFits pentrySize ptnName' pentries := by
  by_cases hpair : ∃ i j, FirstTwo (IsEntry pentrySize ptnName pentries) i j
  · obtain ⟨i, j, hpair⟩ := hpair
    rw [afterTurn_of_firstTwo hpair]
    have hentry : ∀ s, IsEntry pentrySize ptnName' (exchanged memcpy pentries i j) s ↔ _ :=
      isEntry_exchanged_iff hsize h h' hpair (hfits.last i j hpair)
    exact ⟨.congr (length_exchanged _ _ _).symm fun s ↦ (hentry s).symm,
      .congr (length_exchanged _ _ _) hentry⟩
  · rw [afterTurn_of_not fun i j hij ↦ hpair ⟨i, j, hij⟩]

/-- With entries of at least 128 bytes the turns can be judged in the array as it is on the disk. -/
theorem chainFits_iff {names : List Bytes} (hnames : ∀ ptnName ∈ names, ptnName ∈ ptnSwapList)
    (pentries : Bytes) :
    ChainFits memcpy pentrySize names pentries ↔
      ∀ ptnName ∈ names, TurnFits pentrySize ptnName pentries := by
  induction names generalizing pentries with
  | nil => exact iff_of_true trivial fun _ hmem ↦ absurd hmem not_mem_nil
  | cons ptnName names ih =>
    rw [forall_mem_cons] at hnames ⊢
    rw [ChainFits, ih hnames.2]
    refine and_congr_right fun hfits ↦ forall₂_congr fun ptnName' hmem ↦ ?_
    exact turnFits_afterTurn_iff hsize hnames.1 (hnames.2 ptnName' hmem) hfits

end

/-! ## The disk -/

section

variable (crc32 : Bytes → UInt32) (memcpy : EntryCopy) (env : Env) (d : BlockDevice)

/-- What keeps `gpt2_set_boot_chain` inside its buffers, when the array can be read and its CRC is
right: with the backup chain every turn of the swap fits, and the secondary header fits into its
block unless no partition has two entries. -/
def BootChainFits (boot : BootChain) : Prop :=
  ∀ pentries, d.blkRead (d.arrayOffset .primary) (d.arraySize .primary) = some pentries →
    get4 (d.header .primary) partitionCrcOffset = crc32 pentries →
      let pentrySize := (get4 (d.header .primary) pentrySizeOffset).toNat
      let names := processed env.isUfsDevice ptnSwapList
      (boot = .backup → ChainFits memcpy pentrySize names pentries) ∧
      ((boot = .backup → ChainFinds memcpy pentrySize names pentries) →
        HeaderFits (d.header .secondary))

end

variable {crc32 : Bytes → UInt32} {env : Env} {d : BlockDevice}

theorem headerCrc_of_not_fits {hdr : Bytes} (h : ¬HeaderFits hdr) : headerCrc crc32 hdr = none :=
  if_neg h

theorem safe_gptGetState_iff (gpt : GptInstance) :
    (gptGetStateAccesses crc32 gpt d).Safe ↔ HeaderFits (d.header gpt) := by
  rw [Traced.safe_iff, result_gptGetStateAccesses, gptGetState, headerState]
  by_cases hfits : HeaderFits (d.header gpt)
  · rw [headerCrc_of_fits hfits]
    exact iff_of_true ⟨_, rfl⟩ hfits
  · rw [headerCrc_of_not_fits hfits]
    exact iff_of_false (not_exists.mpr fun _ h ↦ by cases h) hfits

/-- The mark of a header is not in the field of its size. -/
theorem headerFits_markHeader {state : GptState} {hdr marked : Bytes}
    (h : markHeader state hdr = some marked) : HeaderFits marked ↔ HeaderFits hdr := by
  have hsame : SameFields marked hdr := by
    cases state with
    | ok | badSignature =>
      rw [← Option.some_inj.mp h]
      exact sameFields_splice (by decide) (by decide)
    | badCrc => cases h
  rw [HeaderFits, HeaderFits, hsame.headerSize, hsame.length]

theorem markHeader_eq_none_iff {state : GptState} {hdr : Bytes} :
    markHeader state hdr = none ↔ state = .badCrc := by
  cases state <;> simp [markHeader]

theorem safe_gptSetState_iff (gpt : GptInstance) (state : GptState) :
    (gptSetStateAccesses crc32 gpt state d).Safe ↔
      (state ≠ .badCrc → HeaderFits (d.header gpt)) := by
  rw [Traced.safe_iff, result_gptSetStateAccesses, gptSetState, Prog.read_bind_apply]
  cases hmark : markHeader state (d.header gpt) with
  | none => exact iff_of_true ⟨-1, rfl⟩ fun hne ↦ absurd (markHeader_eq_none_iff.mp hmark) hne
  | some marked =>
    have hne : state ≠ .badCrc := fun hstate ↦ by
      rw [markHeader_eq_none_iff.mpr hstate] at hmark
      cases hmark
    rw [imp_iff_right hne, ← headerFits_markHeader hmark]
    dsimp only
    by_cases hfits : HeaderFits marked
    · rw [sealHeader_eq hfits]
      dsimp only
      rw [Prog.write_bind_apply]
      exact iff_of_true ⟨0, rfl⟩ hfits
    · rw [sealHeader, headerCrc_of_not_fits hfits]
      exact iff_of_false (not_exists.mpr fun _ h ↦ by cases h) hfits

theorem safe_gpt2SetBootChain_iff (boot : BootChain) :
    (gpt2SetBootChainAccesses memcpy crc32 env boot d).Safe ↔
      BootChainFits crc32 memcpy env d boot := by
  rw [Traced.safe_iff]
  by_cases hvalid : ∃ pentries,
      d.blkRead (d.arrayOffset .primary) (d.arraySize .primary) = some pentries ∧
        get4 (d.header .primary) partitionCrcOffset = crc32 pentries
  · obtain ⟨pentries, hread, hcrc⟩ := hvalid
    have hiff : BootChainFits crc32 memcpy env d boot ↔
        (boot = .backup → ChainFits memcpy (get4 (d.header .primary) pentrySizeOffset).toNat
          (processed env.isUfsDevice ptnSwapList) pentries) ∧
        ((boot = .backup → ChainFinds memcpy (get4 (d.header .primary) pentrySizeOffset).toNat
          (processed env.isUfsDevice ptnSwapList) pentries) → HeaderFits (d.header .secondary)) := by
      refine ⟨fun h ↦ h pentries hread hcrc, fun h pentries' hread' _ ↦ ?_⟩
      obtain rfl : pentries = pentries' := Option.some_inj.mp (hread.symm.trans hread')
      exact h
    rw [hiff, result_gpt2SetBootChainAccesses hread hcrc]
    cases boot with
    | normal =>
      simp only [reduceCtorEq, false_implies, true_and, true_implies]
      rw [chainEntriesAccesses, Traced.result_pure, Option.bind_some]
      by_cases hfits : HeaderFits (d.header .secondary)
      · exact iff_of_true ⟨0, if_pos hfits⟩ hfits
      · exact iff_of_false (not_exists.mpr fun _ h ↦ by simp [hfits] at h) hfits
    | backup =>
      have hsize : 0 < (get4 (d.header .primary) pentrySizeOffset).toNat ∨ pentries.length = 0 := by
        have hlength := BlockDevice.length_of_blkRead hread
        rcases Nat.eq_zero_or_pos (get4 (d.header .primary) pentrySizeOffset).toNat with hzero | hpos
        · rw [BlockDevice.arraySize, UInt32.toNat_mul, hzero, Nat.mul_zero, Nat.zero_mod] at hlength
          exact Or.inr hlength
        · exact Or.inl hpos
      have hrun := @foldlM_swapOne _ memcpy env.isUfsDevice ptnSwapList (1, pentries) hsize
      simp only [true_implies]
      rw [chainEntriesAccesses, gptBootChainSwapAccesses]
      by_cases hchain : ChainFits memcpy (get4 (d.header .primary) pentrySizeOffset).toNat
        (processed env.isUfsDevice ptnSwapList) pentries
      · rw [and_iff_right hchain]
        by_cases hfinds : ChainFinds memcpy (get4 (d.header .primary) pentrySizeOffset).toNat
          (processed env.isUfsDevice ptnSwapList) pentries
        · obtain ⟨swapped, hresult⟩ := hrun.2.1 hchain hfinds
          rw [imp_iff_right hfinds, hresult, Option.bind_some]
          by_cases hfits : HeaderFits (d.header .secondary)
          · exact iff_of_true ⟨0, if_pos hfits⟩ hfits
          · exact iff_of_false (not_exists.mpr fun _ h ↦ by simp [hfits] at h) hfits
        · -- no partition has two entries, so the call ends before the CRC of the header
          obtain ⟨swapped, hresult⟩ := hrun.2.2 hchain hfinds
          rw [hresult, Option.bind_some]
          exact iff_of_true ⟨1, if_pos one_ne_zero⟩ fun h ↦ absurd h hfinds
      · rw [hrun.1 hchain]
        exact iff_of_false (not_exists.mpr fun _ h ↦ by cases h) fun h ↦ hchain h.1
  · refine iff_of_true ⟨-1, isSome_gpt2SetBootChainAccesses_of_not hvalid⟩ ?_
    exact fun pentries hread hcrc ↦ absurd ⟨pentries, hread, hcrc⟩ hvalid

/-- **When every access is in its buffer.** The accesses of `gpt_get_state` stay inside exactly when
the size in the header is at most the size of its block, those of `gpt_set_state` as well unless it
rejects the state, and those of `gpt2_set_boot_chain` when what it comes to fits. What `memcpy` does
with entries that overlap is open, and matters only for entries of less than 128 bytes: with
larger ones every turn of the swap fits exactly when it fits in the array on the disk. -/
theorem gpt_accesses_iff (crc32 : Bytes → UInt32) (memcpy : EntryCopy) (env : Env)
    (d : BlockDevice) :
    (∀ gpt, (gptGetStateAccesses crc32 gpt d).Safe ↔ HeaderFits (d.header gpt)) ∧
    (∀ gpt state, (gptSetStateAccesses crc32 gpt state d).Safe ↔
      (state ≠ .badCrc → HeaderFits (d.header gpt))) ∧
    (∀ boot, (gpt2SetBootChainAccesses memcpy crc32 env boot d).Safe ↔
      BootChainFits crc32 memcpy env d boot) ∧
    ∀ pentrySize pentries, ptnEntrySize ≤ pentrySize →
      (ChainFits memcpy pentrySize (processed env.isUfsDevice ptnSwapList) pentries ↔
        ∀ ptnName ∈ processed env.isUfsDevice ptnSwapList,
          TurnFits pentrySize ptnName pentries) :=
  ⟨safe_gptGetState_iff, safe_gptSetState_iff, safe_gpt2SetBootChain_iff,
    fun _ pentries hsize ↦ chainFits_iff hsize (fun _ hmem ↦ mem_of_mem_filter hmem) pentries⟩

/-- A header whose size field is all ones -/
def oversizedHeader : Bytes := put4 (sampleHeader 2 3298038650) headerSizeOffset 0xFFFFFFFF

theorem length_oversizedHeader : oversizedHeader.length = 512 := by
  rw [oversizedHeader, length_put4, length_sampleHeader]

def oversizedData : Bytes :=
  List.replicate 512 0 ++ (oversizedHeader ++ (sampleArray ++ (List.replicate 256 0 ++
    (sampleArray ++ (List.replicate 256 0 ++ sampleHeader 3 2717067324)))))

theorem length_oversizedData : oversizedData.length = 2560 := by
  simp only [oversizedData, length_append, length_replicate, length_sampleHeader,
    length_sampleArray, length_oversizedHeader]

def oversizedDisk : BlockDevice where
  data := oversizedData
  blkSize := 512
  blkSize_ge := sampleBlkSize_ge
  size_ge := by
    rw [length_oversizedData]
    decide
  size_lt := by
    rw [length_oversizedData]
    decide

theorem header_primary_oversizedDisk : oversizedDisk.header .primary = oversizedHeader :=
  slice_append length_replicate length_oversizedHeader

theorem not_safe_gptGetState_oversizedDisk :
    ¬(gptGetStateAccesses zlibCrc32 .primary oversizedDisk).Safe := by
  rw [safe_gptGetState_iff, header_primary_oversizedDisk, HeaderFits, length_oversizedHeader,
    oversizedHeader, get4_put4 _ (by rw [length_sampleHeader]; decide)]
  decide

end MataDevice.Gpt
