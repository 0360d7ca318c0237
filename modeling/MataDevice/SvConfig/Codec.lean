import MataDevice.SvConfig.Masks

/-!
# What blacklisted SVs become

A list of blacklisted SVs is turned into one mask for each constellation, and a mask into a list.
From masks to a list and back everything is as it was.

From an arbitrary list the masks are exact except for SBAS. The ids of its second range end at 191,
but they are tested, as those of all ranges, against 64 ids from the first one on. The ids from 192
to 207 set bits that no SBAS SV has, and those from 208 to 246 shift by 64 or more, where C gives no
result. Here such a shift gives no bit.
-/

namespace MataDevice.SvConfig

open MataDevice.Gnss (GnssSvType)
open MataDevice.Gnss.UpdateConfig (GnssSvIdSource)

/-- `shiftCnt`, for a source that sets one bit -/
def shiftCnt (source : GnssSvIdSource) : Option ℕ :=
  match svMaskOf source with
  | none => none
  | some (_, initialSvId, svIndexOffset) =>
    if source.svId = 0 then none
    else if source.svId < initialSvId ∨ source.svId.toNat ≥ initialSvId.toNat + 64 then none
    else some (source.svId.toNat + svIndexOffset.toNat - initialSvId.toNat)

/-! ## The SVs of a mask -/

namespace SvMask

def constellation : SvMask → GnssSvType
  | .glo => .glonass
  | .bds => .beidou
  | .qzss => .qzss
  | .gal => .galileo
  | .sbas => .sbas
  | .navic => .navic

/-- The bit of an id in 64 ids from the first one on -/
def bitFrom (first svId : ℕ) : Option ℕ :=
  if first ≤ svId ∧ svId < first + 64 then some (svId - first) else none

/-- The bit of a valid id -/
def bitOf (svId : ℕ) : SvMask → Option ℕ
  | .glo => bitFrom 65 svId
  | .bds => bitFrom 201 svId
  | .qzss => bitFrom 193 svId
  | .gal => bitFrom 301 svId
  | .navic => bitFrom 401 svId
  | .sbas =>
    if 120 ≤ svId ∧ svId ≤ 158 then some (svId - 120)
    else if 183 ≤ svId ∧ svId ≤ 191 then some (svId - 183 + 39)
    else none

end SvMask

/-- The source lists the SV of bit `i` of the mask: by its id, or by the id 0 with all others. -/
def Lists (source : GnssSvIdSource) (p : SvMask) (i : ℕ) : Prop :=
  source.constellation = p.constellation ∧
    (source.svId = 0 ∨ p.bitOf source.svId.toNat = some i)

/-- An SBAS id that sets a bit of no SV -/
def Stray (source : GnssSvIdSource) : Prop :=
  source.constellation = .sbas ∧ 192 ≤ source.svId.toNat ∧ source.svId.toNat ≤ 207

/-- An SBAS id that shifts by 64 or more -/
def Overshoots (source : GnssSvIdSource) : Prop :=
  source.constellation = .sbas ∧ 208 ≤ source.svId.toNat ∧ source.svId.toNat ≤ 246

instance : DecidablePred Stray := fun source ↦ inferInstanceAs (Decidable (_ ∧ _))

instance : DecidablePred Overshoots := fun source ↦ inferInstanceAs (Decidable (_ ∧ _))

section Source

variable {source : GnssSvIdSource} {p : SvMask} {i : ℕ}

/-- A source has a mask with one range of ids, that of SBAS, or none. -/
theorem svMaskOf_cases (source : GnssSvIdSource) :
    (∃ (q : SvMask) (initialSvId : UInt16), q ≠ .sbas ∧ source.constellation = q.constellation ∧
      svMaskOf source = some (q, initialSvId, 0) ∧
      ∀ svId, q.bitOf svId = SvMask.bitFrom initialSvId.toNat svId) ∨
    source.constellation = .sbas ∨
    svMaskOf source = none ∧ ∀ p : SvMask, source.constellation ≠ p.constellation := by
  rw [svMaskOf]
  cases source.constellation with
  | glonass => exact Or.inl ⟨.glo, gloInitialSvId, by decide, rfl, rfl, fun _ ↦ rfl⟩
  | beidou => exact Or.inl ⟨.bds, bdsInitialSvId, by decide, rfl, rfl, fun _ ↦ rfl⟩
  | qzss => exact Or.inl ⟨.qzss, qzssInitialSvId, by decide, rfl, rfl, fun _ ↦ rfl⟩
  | galileo => exact Or.inl ⟨.gal, galInitialSvId, by decide, rfl, rfl, fun _ ↦ rfl⟩
  | navic => exact Or.inl ⟨.navic, navicInitialSvId, by decide, rfl, rfl, fun _ ↦ rfl⟩
  | sbas => exact Or.inr (Or.inl rfl)
  | unknown | gps => exact Or.inr (Or.inr ⟨rfl, fun p ↦ by cases p <;> decide⟩)

/-- Where there is one range of ids, a source blacklists the SV that it lists. -/
theorem blacklists_iff_of_range {q : SvMask} {initialSvId : UInt16}
    (hmask : svMaskOf source = some (q, initialSvId, 0)) :
    Blacklists source p i ↔
      p = q ∧ (source.svId = 0 ∨ SvMask.bitFrom initialSvId.toNat source.svId.toNat = some i) := by
  rw [Blacklists, hmask, SvMask.bitFrom]
  simp only [UInt16.le_iff_toNat_le, UInt16.toNat_zero, Nat.add_zero]
  refine and_congr_right fun _ ↦ ?_
  by_cases hzero : source.svId = 0
  · simp [hzero]
  simp only [hzero, false_or, ne_eq, not_false_eq_true, true_and]
  split
  · next hin =>
    rw [Option.some_inj]
    exact ⟨fun h ↦ h.2.2.symm, fun h ↦ ⟨hin.1, hin.2, h.symm⟩⟩
  · next hout =>
    refine iff_of_false (fun h ↦ hout ⟨h.1, h.2.1⟩) ?_
    simp

theorem blacklists_sbas (hsbas : source.constellation = .sbas) (hi : i < 64) :
    Blacklists source p i ↔ p = .sbas ∧
      (source.svId = 0 ∨ SvMask.sbas.bitOf source.svId.toNat = some i ∨
        Stray source ∧ i = source.svId.toNat - 183 + 39) := by
  have h120 : sbasInitialSvId.toNat = 120 := rfl
  have h183 : sbasInitial2SvId.toNat = 183 := rfl
  have h39 : sbasInitialSvLength.toNat = 39 := rfl
  rw [Blacklists, svMaskOf_sbas hsbas, Stray]
  simp only [hsbas, SvMask.bitOf, true_and]
  by_cases hzero : source.svId = 0
  · simp [hzero]
  simp only [hzero, if_false, false_or]
  by_cases hsecond : 183 ≤ source.svId.toNat
  · simp only [if_pos hsecond, hzero, ne_eq, not_false_eq_true, true_and, UInt16.le_iff_toNat_le,
      h183, h39]
    refine and_congr_right fun _ ↦ ?_
    rw [if_neg (by omega)]
    by_cases hvalid : 183 ≤ source.svId.toNat ∧ source.svId.toNat ≤ 191
    · rw [if_pos hvalid, Option.some_inj]
      omega
    · rw [if_neg hvalid]
      simp only [reduceCtorEq, false_or]
      omega
  · rw [if_neg hsecond]
    by_cases hfirst : 120 ≤ source.svId.toNat ∧ source.svId.toNat < 159
    · simp only [if_pos hfirst, hzero, ne_eq, not_false_eq_true, true_and, UInt16.le_iff_toNat_le,
        h120, UInt16.toNat_zero, Nat.add_zero]
      refine and_congr_right fun _ ↦ ?_
      rw [if_pos (by omega), Option.some_inj]
      omega
    · rw [if_neg hfirst]
      simp only [false_iff]
      rintro ⟨-, h | ⟨h, -⟩⟩
      · rw [if_neg (by omega), if_neg (by omega)] at h
        cases h
      · omega

/-- What a source blacklists is what it lists, and what strays. -/
theorem blacklists_iff_lists (hi : i < 64) :
    Blacklists source p i ↔
      Lists source p i ∨ p = .sbas ∧ Stray source ∧ i = source.svId.toNat - 183 + 39 := by
  obtain ⟨q, initialSvId, hq, hconstellation, hmask, hbit⟩ | hsbas | ⟨hmask, hnone⟩ :=
    svMaskOf_cases source
  · have hstray : ¬Stray source := by
      intro h
      have hsbas := hconstellation.symm.trans h.1
      cases q <;> first | exact hq rfl | cases hsbas
    have hp : q.constellation = p.constellation ↔ p = q := by
      cases p <;> cases q <;> decide
    rw [blacklists_iff_of_range hmask, Lists, hconstellation, ← hbit, hp]
    simp only [hstray, false_and, and_false, or_false]
    exact and_congr_right fun h ↦ by rw [h]
  · have hp : GnssSvType.sbas = p.constellation ↔ p = .sbas := by
      cases p <;> decide
    rw [blacklists_sbas hsbas hi, Lists, hsbas, hp, ← and_or_left]
    refine and_congr_right fun h ↦ ?_
    rw [h, or_assoc]
  · rw [Blacklists, hmask]
    refine iff_of_false id ?_
    rintro (h | ⟨-, h, -⟩)
    · exact hnone p h.1
    · exact hnone .sbas h.1

/-- Only the SBAS ids from 208 to 246 shift too far. -/
theorem shiftCnt_lt_iff : (∀ n ∈ shiftCnt source, n < 64) ↔ ¬Overshoots source := by
  rw [shiftCnt, Overshoots]
  obtain ⟨q, initialSvId, hq, hconstellation, hmask, -⟩ | hsbas | ⟨hmask, hnone⟩ :=
    svMaskOf_cases source
  · refine iff_of_true (fun n hn ↦ ?_) fun h ↦ ?_
    · simp only [hmask, UInt16.lt_iff_toNat_lt, UInt16.toNat_zero] at hn
      split at hn
      · cases hn
      split at hn
      · cases hn
      next hin =>
      obtain rfl := Option.some_inj.mp hn
      omega
    · have hsbas := hconstellation.symm.trans h.1
      cases q <;> first | exact hq rfl | cases hsbas
  · have h120 : sbasInitialSvId.toNat = 120 := rfl
    have h183 : sbasInitial2SvId.toNat = 183 := rfl
    have h39 : sbasInitialSvLength.toNat = 39 := rfl
    rw [svMaskOf_sbas hsbas]
    simp only [hsbas, true_and]
    by_cases hzero : source.svId = 0
    · simp [hzero]
    by_cases hsecond : 183 ≤ source.svId.toNat
    · simp only [hzero, if_false, if_pos hsecond, UInt16.lt_iff_toNat_lt, h183, h39]
      split
      · simp
        omega
      · simp
        omega
    · by_cases hfirst : 120 ≤ source.svId.toNat ∧ source.svId.toNat < 159
      · simp only [hzero, if_false, if_neg hsecond, if_pos hfirst, UInt16.lt_iff_toNat_lt, h120,
          UInt16.toNat_zero]
        rw [if_neg (by omega)]
        simp
        omega
      · simp only [hzero, if_false, if_neg hsecond, if_neg hfirst]
        simp
        omega
  · simp only [hmask]
    exact iff_of_true (by simp) fun h ↦ hnone .sbas h.1

end Source

/-! ## From a list to the masks -/

/-- What the masks are to be: made without a shift of 64 or more, with the bits of the valid ids in
the list and no others, in whatever order the list is. -/
structure Exact (sources : List GnssSvIdSource) : Prop where
  shifts : ∀ source ∈ sources, ∀ n ∈ shiftCnt source, n < 64
  bits : ∀ p : SvMask, ∀ i < 64,
    (((convertToGnssSvIdConfig sources .zero).2.mask p).getLsbD i = true ↔
      ∃ source ∈ sources, Lists source p i)
  perm : ∀ sources' : List GnssSvIdSource, sources'.Perm sources → ∀ p : SvMask,
    (convertToGnssSvIdConfig sources' .zero).2.mask p =
      (convertToGnssSvIdConfig sources .zero).2.mask p

theorem mask_convertToGnssSvIdConfig_of_perm {sources sources' : List GnssSvIdSource}
    (h : sources'.Perm sources) (p : SvMask) :
    (convertToGnssSvIdConfig sources' .zero).2.mask p =
      (convertToGnssSvIdConfig sources .zero).2.mask p := by
  refine BitVec.eq_of_getLsbD_eq fun i hi ↦ Bool.eq_iff_iff.mpr ?_
  simp only [getLsbD_convertToGnssSvIdConfig _ p hi, h.mem_iff]

/-- A bit that strays is the bit of no id, so only the id 0 lists it. -/
theorem eq_of_lists_stray {source source' : GnssSvIdSource} (hstray : Stray source)
    (hlists : Lists source' .sbas (source.svId.toNat - 183 + 39)) : source' = ⟨.sbas, 0⟩ := by
  obtain ⟨-, hle, hge⟩ := hstray
  obtain ⟨hconstellation, hzero | hbit⟩ := hlists
  · cases source'
    cases hconstellation
    cases hzero
    rfl
  · simp only [SvMask.bitOf] at hbit
    split at hbit
    · have := Option.some_inj.mp hbit
      omega
    split at hbit
    · have := Option.some_inj.mp hbit
      omega
    · cases hbit

/-- The masks of a list are exact exactly when no SBAS id is from 208 to 246, and none from 192 to
207 unless all SBAS SVs are listed with it. -/
theorem exact_iff (sources : List GnssSvIdSource) : Exact sources ↔
    (∀ source ∈ sources, ¬Overshoots source) ∧
      ((∀ source ∈ sources, ¬Stray source) ∨ ⟨.sbas, 0⟩ ∈ sources) := by
  constructor
  · intro h
    refine ⟨fun source hmem ↦ shiftCnt_lt_iff.mp (h.shifts source hmem), ?_⟩
    by_contra hnot
    push Not at hnot
    obtain ⟨⟨source, hmem, hstray⟩, hall⟩ := hnot
    have hi : source.svId.toNat - 183 + 39 < 64 := by
      obtain ⟨-, hle, hge⟩ := hstray
      omega
    have hset := (getLsbD_convertToGnssSvIdConfig sources .sbas hi).mpr
      ⟨source, hmem, (blacklists_iff_lists hi).mpr (Or.inr ⟨rfl, hstray, rfl⟩)⟩
    obtain ⟨source', hmem', hlists⟩ := (h.bits .sbas _ hi).mp hset
    exact hall (eq_of_lists_stray hstray hlists ▸ hmem')
  · rintro ⟨hshift, hstray⟩
    refine ⟨fun source hmem ↦ shiftCnt_lt_iff.mpr (hshift source hmem), fun p i hi ↦ ?_,
      fun sources' h p ↦ mask_convertToGnssSvIdConfig_of_perm h p⟩
    rw [getLsbD_convertToGnssSvIdConfig sources p hi]
    constructor
    · rintro ⟨source, hmem, hblacklists⟩
      rcases (blacklists_iff_lists hi).mp hblacklists with hlists | ⟨rfl, hs, -⟩
      · exact ⟨source, hmem, hlists⟩
      · rcases hstray with hnone | hall
        · exact absurd hs (hnone source hmem)
        · exact ⟨⟨.sbas, 0⟩, hall, rfl, Or.inl rfl⟩
    · rintro ⟨source, hmem, hlists⟩
      exact ⟨source, hmem, (blacklists_iff_lists hi).mpr (Or.inl hlists)⟩

/-- The SBAS id 192 sets a bit, and the id 208 shifts by 64. -/
theorem not_exact : ¬Exact [⟨.sbas, 192⟩] ∧ ¬Exact [⟨.sbas, 208⟩] := by
  constructor
  · intro h
    have hset := (h.bits .sbas 48 (by decide)).mp (by decide)
    obtain ⟨source, hmem, hlists⟩ := hset
    obtain rfl := List.mem_singleton.mp hmem
    exact absurd hlists.2 (by decide)
  · intro h
    exact absurd (h.shifts ⟨.sbas, 208⟩ (List.mem_singleton.mpr rfl) 64 rfl) (by decide)

/-! ## From the masks to a list and back -/

variable {source : GnssSvIdSource}

theorem mem_convertGnssSvIdMaskToList {svIdMask : BitVec 64}
    {initialSvId : UInt16} {svType : GnssSvType}
    (hmem : source ∈ convertGnssSvIdMaskToList svIdMask initialSvId svType) :
    source = ⟨svType, 0⟩ ∨ ∃ i < 64, svIdMask.getLsbD i = true ∧
      source = sourceOfBit initialSvId svType (UInt16.ofNat i) := by
  rw [convertGnssSvIdMaskToList] at hmem
  split at hmem
  · exact Or.inl (List.mem_singleton.mp hmem)
  · obtain ⟨i, hi, hset, hsource⟩ := (mem_maskToList 64 svIdMask 0).mp hmem
    exact Or.inr ⟨i, hi, hset, by rwa [UInt16.zero_add] at hsource⟩

theorem constellation_of_mem {svIdMask : BitVec 64} {initialSvId : UInt16} {svType : GnssSvType}
    (hmem : source ∈ convertGnssSvIdMaskToList svIdMask initialSvId svType) :
    source.constellation = svType := by
  obtain rfl | ⟨i, -, -, rfl⟩ := mem_convertGnssSvIdMaskToList hmem
  · rfl
  · rw [sourceOfBit]
    split <;> rfl

/-- The list of a configuration has no SBAS id that shifts too far: the second part of the SBAS mask
has 25 bits. -/
theorem not_overshoots_of_mem_convertFromGnssSvIdConfig {svConfig : GnssSvIdConfig} (hmem : source ∈ convertFromGnssSvIdConfig svConfig) :
    ¬Overshoots source := by
  have hlow : ∀ j < 64, ¬Overshoots (sourceOfBit sbasInitialSvId .sbas (UInt16.ofNat j)) := by
    decide
  have hhigh : ∀ j < 25, ¬Overshoots (sourceOfBit sbasInitial2SvId .sbas (UInt16.ofNat j)) := by
    decide
  have hother : ∀ {mask svIdMask : BitVec 64} {initialSvId : UInt16} {svType : GnssSvType},
      source ∈ (if mask ≠ 0 then convertGnssSvIdMaskToList svIdMask initialSvId svType else []) →
      svType ≠ .sbas → ¬Overshoots source := by
    intro mask svIdMask initialSvId svType h htype hover
    split at h
    · exact htype ((constellation_of_mem h).symm.trans hover.1)
    · cases h
  rw [convertFromGnssSvIdConfig] at hmem
  simp only [List.mem_append] at hmem
  obtain ((((hbds | hgal) | hglo) | hqzss) | hsbas) | hnavic := hmem
  · exact hother hbds (by decide)
  · exact hother hgal (by decide)
  · exact hother hglo (by decide)
  · exact hother hqzss (by decide)
  · split at hsbas
    swap
    · cases hsbas
    rcases List.mem_append.mp hsbas with hmem | hmem
    · obtain rfl | ⟨i, hi, -, rfl⟩ := mem_convertGnssSvIdMaskToList hmem
      · decide
      · exact hlow i hi
    · obtain rfl | ⟨i, -, hset, rfl⟩ := mem_convertGnssSvIdMaskToList hmem
      · decide
      · rw [BitVec.getLsbD_ushiftRight] at hset
        have hlt := BitVec.lt_of_getLsbD hset
        exact hhigh i (by rw [show sbasInitialSvLength.toNat = 39 from rfl] at hlt; omega)
  · exact hother hnavic (by decide)

/-- The list of a configuration gives its masks back, with `true` and without a shift of 64 or
more. -/
theorem convertToGnssSvIdConfig_convertFromGnssSvIdConfig (svConfig : GnssSvIdConfig) :
    (convertToGnssSvIdConfig (convertFromGnssSvIdConfig svConfig) .zero).1 = true ∧
    (∀ p : SvMask, (convertToGnssSvIdConfig (convertFromGnssSvIdConfig svConfig) .zero).2.mask p =
      svConfig.mask p) ∧
    ∀ source ∈ convertFromGnssSvIdConfig svConfig, ∀ n ∈ shiftCnt source, n < 64 := by
  have hmask := mask_convertToGnssSvIdConfig_convertFromGnssSvIdConfig svConfig
  refine ⟨?_, hmask, fun source hmem ↦
    shiftCnt_lt_iff.mpr (not_overshoots_of_mem_convertFromGnssSvIdConfig hmem)⟩
  by_cases hempty : convertFromGnssSvIdConfig svConfig = []
  · rw [hempty]
    rfl
  -- were all masks zero, the list would be empty
  by_contra hfalse
  rw [convertToGnssSvIdConfig, if_neg (by rwa [List.isEmpty_iff])] at hfalse hmask
  simp only [Bool.or_eq_true, bne_iff_ne, ne_eq, not_or, not_not] at hfalse
  obtain ⟨⟨⟨⟨⟨hglo, hbds⟩, hgal⟩, hqzss⟩, hsbas⟩, hnavic⟩ := hfalse
  have hglo' : svConfig.gloBlacklistSvMask = 0 := (hmask .glo).symm.trans hglo
  have hbds' : svConfig.bdsBlacklistSvMask = 0 := (hmask .bds).symm.trans hbds
  have hgal' : svConfig.galBlacklistSvMask = 0 := (hmask .gal).symm.trans hgal
  have hqzss' : svConfig.qzssBlacklistSvMask = 0 := (hmask .qzss).symm.trans hqzss
  have hsbas' : svConfig.sbasBlacklistSvMask = 0 := (hmask .sbas).symm.trans hsbas
  have hnavic' : svConfig.navicBlacklistSvMask = 0 := (hmask .navic).symm.trans hnavic
  refine hempty ?_
  rw [convertFromGnssSvIdConfig, hglo', hbds', hgal', hqzss', hsbas', hnavic']
  rfl

end MataDevice.SvConfig
