import MataDevice.Gnss.UpdateConfig

/-!
# Blacklisted SVs as masks and as a list

`GnssAdapter` keeps the blacklisted SVs twice: as one mask for each constellation, the form in which
they are sent to the modem, and as the list of SV ids from which it makes the masks again when the
modem comes up. SBAS has two ranges of ids and one mask, so its mask is cut in two for the list. A
mask with all bits set stands for the whole constellation and is the SV id 0 in the list, except for
SBAS, where no part of the mask can have all bits set.

Nothing is lost on the way: the masks that are made from the list are the masks the list was made
from.
-/

namespace MataDevice.SvConfig

open MataDevice.Gnss (GnssSvType)
open MataDevice.Gnss.UpdateConfig (GnssSvIdSource)

/-- `GNSS_SV_CONFIG_ALL_BITS_ENABLED_MASK` -/
def allBitsEnabledMask : BitVec 64 := BitVec.allOnes 64

def gloInitialSvId : UInt16 := 65
def bdsInitialSvId : UInt16 := 201
def qzssInitialSvId : UInt16 := 193
def galInitialSvId : UInt16 := 301
def sbasInitialSvId : UInt16 := 120
def sbasInitialSvLength : UInt16 := 39
def sbasInitial2SvId : UInt16 := 183
def navicInitialSvId : UInt16 := 401

structure GnssSvIdConfig where
  size : UInt32
  gloBlacklistSvMask : BitVec 64
  bdsBlacklistSvMask : BitVec 64
  qzssBlacklistSvMask : BitVec 64
  galBlacklistSvMask : BitVec 64
  sbasBlacklistSvMask : BitVec 64
  navicBlacklistSvMask : BitVec 64
  deriving DecidableEq, Repr

/-- `sizeof(GnssSvIdConfig)` -/
def sizeofGnssSvIdConfig : UInt32 := 56

/-- What `svMaskPtr` can point to. -/
inductive SvMask
  | glo
  | bds
  | qzss
  | gal
  | sbas
  | navic
  deriving DecidableEq, Repr

namespace GnssSvIdConfig

/-- A configuration after `memset`. -/
def zero : GnssSvIdConfig := ⟨0, 0, 0, 0, 0, 0, 0⟩

def mask (config : GnssSvIdConfig) : SvMask → BitVec 64
  | .glo => config.gloBlacklistSvMask
  | .bds => config.bdsBlacklistSvMask
  | .qzss => config.qzssBlacklistSvMask
  | .gal => config.galBlacklistSvMask
  | .sbas => config.sbasBlacklistSvMask
  | .navic => config.navicBlacklistSvMask

def setMask (config : GnssSvIdConfig) (svMaskPtr : SvMask) (mask : BitVec 64) : GnssSvIdConfig :=
  match svMaskPtr with
  | .glo => { config with gloBlacklistSvMask := mask }
  | .bds => { config with bdsBlacklistSvMask := mask }
  | .qzss => { config with qzssBlacklistSvMask := mask }
  | .gal => { config with galBlacklistSvMask := mask }
  | .sbas => { config with sbasBlacklistSvMask := mask }
  | .navic => { config with navicBlacklistSvMask := mask }

theorem mask_setMask (config : GnssSvIdConfig) (p p' : SvMask) (m : BitVec 64) :
    (config.setMask p m).mask p' = if p' = p then m else config.mask p' := by
  cases p <;> cases p' <;> rfl

@[simp] theorem mask_zero (p : SvMask) : zero.mask p = 0 := by
  cases p <;> rfl

end GnssSvIdConfig

/-! ## From the list to the masks -/

/-- The `switch` of `convertToGnssSvIdConfig`: `svMaskPtr`, `initialSvId` and `svIndexOffset`. -/
def svMaskOf (source : GnssSvIdSource) : Option (SvMask × UInt16 × UInt16) :=
  match source.constellation with
  | .glonass => some (.glo, gloInitialSvId, 0)
  | .beidou => some (.bds, bdsInitialSvId, 0)
  | .qzss => some (.qzss, qzssInitialSvId, 0)
  | .galileo => some (.gal, galInitialSvId, 0)
  | .sbas =>
    if source.svId = 0 then some (.sbas, 0, 0)
    else if source.svId ≥ sbasInitial2SvId then some (.sbas, sbasInitial2SvId, sbasInitialSvLength)
    else if source.svId ≥ sbasInitialSvId ∧ source.svId < sbasInitialSvId + sbasInitialSvLength then
      some (.sbas, sbasInitialSvId, 0)
    else none
  | .navic => some (.navic, navicInitialSvId, 0)
  | .unknown | .gps => none

/-- The range of SBAS ids that a source is in -/
theorem svMaskOf_sbas {source : GnssSvIdSource} (hsbas : source.constellation = .sbas) :
    svMaskOf source = if source.svId = 0 then some (.sbas, 0, 0)
      else if 183 ≤ source.svId.toNat then some (.sbas, sbasInitial2SvId, sbasInitialSvLength)
      else if 120 ≤ source.svId.toNat ∧ source.svId.toNat < 159 then some (.sbas, sbasInitialSvId, 0)
      else none := by
  rw [svMaskOf, hsbas]
  rfl

/-- One turn of the loop over the sources. -/
def addSource (config : GnssSvIdConfig) (source : GnssSvIdSource) : GnssSvIdConfig :=
  match svMaskOf source with
  | none => config
  | some (svMaskPtr, initialSvId, svIndexOffset) =>
    -- SV id 0 stands for all of them
    if source.svId = 0 then config.setMask svMaskPtr allBitsEnabledMask
    else if source.svId < initialSvId ∨ source.svId.toNat ≥ initialSvId.toNat + 64 then config
    else
      config.setMask svMaskPtr (config.mask svMaskPtr |||
        1#64 <<< (source.svId.toNat + svIndexOffset.toNat - initialSvId.toNat))

def convertToGnssSvIdConfig (blacklistedSvIds : List GnssSvIdSource) (config : GnssSvIdConfig) :
    Bool × GnssSvIdConfig :=
  if blacklistedSvIds.isEmpty then (true, ⟨sizeofGnssSvIdConfig, 0, 0, 0, 0, 0, 0⟩)
  else
    let config := blacklistedSvIds.foldl addSource { config with size := sizeofGnssSvIdConfig }
    (config.gloBlacklistSvMask != 0 || config.bdsBlacklistSvMask != 0 ||
      config.galBlacklistSvMask != 0 || config.qzssBlacklistSvMask != 0 ||
      config.sbasBlacklistSvMask != 0 || config.navicBlacklistSvMask != 0, config)

/-- The source blacklists the SV of bit `i` of the mask `p`. -/
def Blacklists (source : GnssSvIdSource) (p : SvMask) (i : ℕ) : Prop :=
  match svMaskOf source with
  | none => False
  | some (svMaskPtr, initialSvId, svIndexOffset) =>
    p = svMaskPtr ∧ (source.svId = 0 ∨ source.svId ≠ 0 ∧ initialSvId ≤ source.svId ∧
      source.svId.toNat < initialSvId.toNat + 64 ∧
      i = source.svId.toNat + svIndexOffset.toNat - initialSvId.toNat)

theorem getLsbD_addSource (config : GnssSvIdConfig) (source : GnssSvIdSource) (p : SvMask) {i : ℕ}
    (hi : i < 64) : ((addSource config source).mask p).getLsbD i = true ↔
      (config.mask p).getLsbD i = true ∨ Blacklists source p i := by
  rw [addSource, Blacklists]
  split
  · simp
  next p' initial offset hsome =>
  split
  · next hzero =>
    rw [GnssSvIdConfig.mask_setMask]
    split
    · rw [allBitsEnabledMask, BitVec.getLsbD_allOnes]
      simp [*]
    · next hp => simp [hp]
  next hzero =>
  split
  · next hout =>
    rw [← UInt16.not_le] at hout
    refine ⟨Or.inl, fun h ↦ h.resolve_right ?_⟩
    rintro ⟨-, hz | ⟨-, hle, hlt, -⟩⟩
    · exact hzero hz
    · exact hout.elim (fun h ↦ h hle) fun h ↦ absurd hlt (Nat.not_lt.mpr h)
  · next hin =>
    rw [not_or, UInt16.not_lt, Nat.not_le] at hin
    rw [GnssSvIdConfig.mask_setMask]
    split
    · next hp =>
      subst hp
      rw [BitVec.getLsbD_or, Bool.or_eq_true, ← BitVec.twoPow_eq, BitVec.getLsbD_twoPow]
      simp only [hzero, hin.1, hin.2, false_or, true_and, ne_eq, not_false_eq_true,
        Bool.and_eq_true, decide_eq_true_eq]
      exact or_congr_right ⟨fun h ↦ h.2.symm, fun h ↦ ⟨h ▸ hi, h.symm⟩⟩
    · next hp => simp [hp]

theorem getLsbD_foldl_addSource (sources : List GnssSvIdSource) (config : GnssSvIdConfig)
    (p : SvMask) {i : ℕ} (hi : i < 64) :
    ((sources.foldl addSource config).mask p).getLsbD i = true ↔
      (config.mask p).getLsbD i = true ∨ ∃ source ∈ sources, Blacklists source p i := by
  induction sources generalizing config with
  | nil => simp
  | cons source sources ih =>
    rw [List.foldl_cons, ih, getLsbD_addSource config source p hi, List.exists_mem_cons_iff, or_assoc]

/-- A mask that is made from a list has the bits of the SVs in the list. -/
theorem getLsbD_convertToGnssSvIdConfig (sources : List GnssSvIdSource) (p : SvMask) {i : ℕ}
    (hi : i < 64) :
    ((convertToGnssSvIdConfig sources .zero).2.mask p).getLsbD i = true ↔
      ∃ source ∈ sources, Blacklists source p i := by
  rw [convertToGnssSvIdConfig]
  split
  · next hempty =>
    rw [List.isEmpty_iff.mp hempty]
    cases p <;> simp [GnssSvIdConfig.mask]
  · rw [getLsbD_foldl_addSource sources _ p hi]
    cases p <;> simp [GnssSvIdConfig.mask, GnssSvIdConfig.zero]

/-! ## From the masks to the list -/

/-- The source of a bit of a mask. -/
def sourceOfBit (initialSvId : UInt16) (svType : GnssSvType) (bitNumber : UInt16) :
    GnssSvIdSource :=
  -- SBAS has two ranges
  if svType = .sbas ∧ bitNumber ≥ sbasInitialSvLength then
    ⟨svType, bitNumber - sbasInitialSvLength + sbasInitial2SvId⟩
  else ⟨svType, bitNumber + initialSvId⟩

/-- The loop of `convertGnssSvIdMaskToList`, for at most `n` bits. -/
def maskToList (initialSvId : UInt16) (svType : GnssSvType) :
    (n : ℕ) → (svIdMask : BitVec 64) → (bitNumber : UInt16) → List GnssSvIdSource
  | 0, _, _ => []
  | n + 1, svIdMask, bitNumber =>
    if svIdMask = 0 then []
    else
      (if svIdMask.getLsbD 0 then [sourceOfBit initialSvId svType bitNumber] else []) ++
        maskToList initialSvId svType n (svIdMask >>> 1) (bitNumber + 1)

def convertGnssSvIdMaskToList (svIdMask : BitVec 64) (initialSvId : UInt16) (svType : GnssSvType) :
    List GnssSvIdSource :=
  if svIdMask = allBitsEnabledMask then [⟨svType, 0⟩]
  else maskToList initialSvId svType 64 svIdMask 0

def convertFromGnssSvIdConfig (svConfig : GnssSvIdConfig) : List GnssSvIdSource :=
  (if svConfig.bdsBlacklistSvMask ≠ 0 then
    convertGnssSvIdMaskToList svConfig.bdsBlacklistSvMask bdsInitialSvId .beidou else []) ++
  (if svConfig.galBlacklistSvMask ≠ 0 then
    convertGnssSvIdMaskToList svConfig.galBlacklistSvMask galInitialSvId .galileo else []) ++
  (if svConfig.gloBlacklistSvMask ≠ 0 then
    convertGnssSvIdMaskToList svConfig.gloBlacklistSvMask gloInitialSvId .glonass else []) ++
  (if svConfig.qzssBlacklistSvMask ≠ 0 then
    convertGnssSvIdMaskToList svConfig.qzssBlacklistSvMask qzssInitialSvId .qzss else []) ++
  (if svConfig.sbasBlacklistSvMask ≠ 0 then
    -- the ids from 120 on, then those from 183 on
    convertGnssSvIdMaskToList
      (svConfig.sbasBlacklistSvMask <<< (64 - sbasInitialSvLength.toNat) >>>
        (64 - sbasInitialSvLength.toNat)) sbasInitialSvId .sbas ++
    convertGnssSvIdMaskToList
      (svConfig.sbasBlacklistSvMask >>> sbasInitialSvLength.toNat) sbasInitial2SvId .sbas else []) ++
  (if svConfig.navicBlacklistSvMask ≠ 0 then
    convertGnssSvIdMaskToList svConfig.navicBlacklistSvMask navicInitialSvId .navic else [])

/-- The loop lists the bits of the mask, and 64 turns are enough for all of them. -/
theorem mem_maskToList {initialSvId : UInt16} {svType : GnssSvType} {source : GnssSvIdSource}
    (n : ℕ) (svIdMask : BitVec 64) (bitNumber : UInt16) :
    source ∈ maskToList initialSvId svType n svIdMask bitNumber ↔
      ∃ i < n, svIdMask.getLsbD i = true ∧
        source = sourceOfBit initialSvId svType (bitNumber + UInt16.ofNat i) := by
  induction n generalizing svIdMask bitNumber with
  | zero => simp [maskToList]
  | succ n ih =>
    rw [maskToList]
    split
    · next hzero => simp [hzero]
    have hfirst : source ∈ (if svIdMask.getLsbD 0 then [sourceOfBit initialSvId svType bitNumber]
        else []) ↔ svIdMask.getLsbD 0 = true ∧ source = sourceOfBit initialSvId svType bitNumber := by
      cases svIdMask.getLsbD 0 <;> simp
    have hnext : ∀ i : ℕ, bitNumber + 1 + UInt16.ofNat i = bitNumber + UInt16.ofNat (i + 1) := by
      intro i
      rw [UInt16.ofNat_add, UInt16.add_assoc, UInt16.add_comm 1]
      rfl
    rw [List.mem_append, hfirst, ih]
    constructor
    · rintro (⟨hbit, hsource⟩ | ⟨i, hi, hbit, hsource⟩)
      · exact ⟨0, Nat.succ_pos n, hbit, by simpa using hsource⟩
      · refine ⟨i + 1, Nat.succ_lt_succ hi, ?_, hnext i ▸ hsource⟩
        rwa [BitVec.getLsbD_ushiftRight, Nat.add_comm] at hbit
    · rintro ⟨i, hi, hbit, hsource⟩
      cases i with
      | zero => exact Or.inl ⟨hbit, by simpa using hsource⟩
      | succ i =>
        refine Or.inr ⟨i, Nat.lt_of_succ_lt_succ hi, ?_, (hnext i).symm ▸ hsource⟩
        rwa [BitVec.getLsbD_ushiftRight, Nat.add_comm]

/-! ## The way there and back -/

section RoundTrip

variable {svType : GnssSvType} {initialSvId : UInt16} {p : SvMask} {svIdMask : BitVec 64}

theorem blacklists_iff {source : GnssSvIdSource} {svIndexOffset : UInt16} {j : ℕ}
    (hmask : svMaskOf source = some (p, initialSvId, svIndexOffset))
    (hid : source.svId.toNat = j + initialSvId.toNat) (hpos : 0 < initialSvId.toNat) (hj : j < 64)
    (p' : SvMask) (i : ℕ) :
    Blacklists source p' i ↔ p' = p ∧ i = j + svIndexOffset.toNat := by
  have hne : source.svId ≠ 0 := by
    intro h
    rw [h, UInt16.toNat_zero] at hid
    omega
  rw [Blacklists, hmask]
  simp only [hne, false_or, ne_eq, not_false_eq_true, true_and, UInt16.le_iff_toNat_le, hid]
  refine and_congr_right fun _ ↦ ⟨fun h ↦ ?_, fun h ↦ ⟨?_, ?_, ?_⟩⟩ <;> omega

/-- A list of the bits of a mask, where the list has the SV of bit `j` in the place of bit
`j + svIndexOffset`. -/
theorem exists_mem_maskToList (svIndexOffset : ℕ)
    (hbit : ∀ j < 64, svIdMask.getLsbD j = true → ∀ p' i,
      Blacklists (sourceOfBit initialSvId svType (UInt16.ofNat j)) p' i ↔
        p' = p ∧ i = j + svIndexOffset) (p' : SvMask) (i : ℕ) :
    (∃ source ∈ maskToList initialSvId svType 64 svIdMask 0, Blacklists source p' i) ↔
      p' = p ∧ ∃ j, svIdMask.getLsbD j = true ∧ i = j + svIndexOffset := by
  simp only [mem_maskToList, UInt16.zero_add]
  constructor
  · rintro ⟨_, ⟨j, hj, hset, rfl⟩, hblack⟩
    obtain ⟨hp, hi⟩ := (hbit j hj hset p' i).mp hblack
    exact ⟨hp, j, hset, hi⟩
  · rintro ⟨hp, j, hset, hi⟩
    have hj : j < 64 := BitVec.lt_of_getLsbD hset
    exact ⟨_, ⟨j, hj, hset, rfl⟩, (hbit j hj hset p' i).mpr ⟨hp, hi⟩⟩

/-- Where one range of SV ids has a mask, it goes into the list and comes back. -/
theorem exists_mem_convertGnssSvIdMaskToList
    (hmask : ∀ svId, svMaskOf ⟨svType, svId⟩ = some (p, initialSvId, 0)) (htype : svType ≠ .sbas)
    (hpos : 0 < initialSvId.toNat) (hlt : initialSvId.toNat + 64 < 2 ^ 16) (p' : SvMask) {i : ℕ}
    (hi : i < 64) :
    (∃ source ∈ if svIdMask ≠ 0 then convertGnssSvIdMaskToList svIdMask initialSvId svType else [],
      Blacklists source p' i) ↔ p' = p ∧ svIdMask.getLsbD i = true := by
  split
  swap
  · next hzero =>
    rw [not_not] at hzero
    simp [hzero]
  rw [convertGnssSvIdMaskToList]
  split
  · next hall =>
    rw [hall, allBitsEnabledMask, BitVec.getLsbD_allOnes]
    simp [Blacklists, hmask, hi]
  · rw [exists_mem_maskToList 0 (p := p)]
    · simp
    intro j hj _ p' i
    rw [sourceOfBit, if_neg fun h ↦ htype h.1]
    refine blacklists_iff (hmask _) ?_ hpos hj p' i
    rw [UInt16.toNat_add, UInt16.toNat_ofNat_of_lt' (by norm_num; omega)]
    omega

/-- The mask of SBAS goes into the list in two parts. -/
theorem exists_mem_convertGnssSvIdMaskToList_sbas (p' : SvMask) {i : ℕ} (hi : i < 64) :
    (∃ source ∈ if svIdMask ≠ 0 then
        convertGnssSvIdMaskToList
          (svIdMask <<< (64 - sbasInitialSvLength.toNat) >>> (64 - sbasInitialSvLength.toNat))
          sbasInitialSvId .sbas ++
        convertGnssSvIdMaskToList (svIdMask >>> sbasInitialSvLength.toNat) sbasInitial2SvId .sbas
      else [], Blacklists source p' i) ↔ p' = .sbas ∧ svIdMask.getLsbD i = true := by
  have hlength : sbasInitialSvLength.toNat = 39 := rfl
  rw [hlength]
  split
  swap
  · next hzero =>
    rw [not_not] at hzero
    simp [hzero]
  have hlow : ∀ j, (svIdMask <<< (64 - 39) >>> (64 - 39)).getLsbD j = true ↔
      j < 39 ∧ svIdMask.getLsbD j = true := by
    intro j
    rw [BitVec.getLsbD_ushiftRight, BitVec.getLsbD_shiftLeft]
    simp only [Bool.and_eq_true, decide_eq_true_eq, Bool.not_eq_true', decide_eq_false_iff_not]
    constructor
    · rintro ⟨⟨hlt, -⟩, hset⟩
      refine ⟨by omega, ?_⟩
      rwa [Nat.add_sub_cancel_left] at hset
    · rintro ⟨hlt, hset⟩
      refine ⟨⟨by omega, by omega⟩, ?_⟩
      rwa [Nat.add_sub_cancel_left]
  have hhigh : ∀ j, (svIdMask >>> 39).getLsbD j = svIdMask.getLsbD (39 + j) := fun j ↦
    BitVec.getLsbD_ushiftRight ..
  -- bit 63 is clear in both parts
  have hlowNe : svIdMask <<< (64 - 39) >>> (64 - 39) ≠ allBitsEnabledMask := by
    intro h
    have h63 := (hlow 63).mp (by rw [h]; decide)
    omega
  have hhighNe : svIdMask >>> 39 ≠ allBitsEnabledMask := by
    intro h
    have h63 : (svIdMask >>> 39).getLsbD 63 = true := by rw [h]; decide
    rw [hhigh, BitVec.getLsbD_of_ge _ _ (by norm_num)] at h63
    cases h63
  have hlowBit : ∀ j < 39, svMaskOf (sourceOfBit sbasInitialSvId .sbas (UInt16.ofNat j)) =
      some (.sbas, sbasInitialSvId, 0) ∧
      (sourceOfBit sbasInitialSvId .sbas (UInt16.ofNat j)).svId.toNat =
        j + sbasInitialSvId.toNat := by
    decide
  have hhighBit : ∀ j < 25, svMaskOf (sourceOfBit sbasInitial2SvId .sbas (UInt16.ofNat j)) =
      some (.sbas, sbasInitial2SvId, sbasInitialSvLength) ∧
      (sourceOfBit sbasInitial2SvId .sbas (UInt16.ofNat j)).svId.toNat =
        j + sbasInitial2SvId.toNat := by
    decide
  rw [convertGnssSvIdMaskToList, if_neg hlowNe, convertGnssSvIdMaskToList, if_neg hhighNe]
  simp only [List.mem_append, or_and_right, exists_or]
  rw [exists_mem_maskToList 0 (p := .sbas), exists_mem_maskToList 39 (p := .sbas)]
  · simp only [hlow, hhigh, Nat.add_zero, exists_eq_right', ← and_or_left]
    refine and_congr_right fun _ ↦ ⟨?_, fun hset ↦ ?_⟩
    · rintro (⟨-, hset⟩ | ⟨j, hset, rfl⟩)
      · exact hset
      · rwa [Nat.add_comm]
    · rcases Nat.lt_or_ge i 39 with hlt | hge
      · exact Or.inl ⟨hlt, hset⟩
      · exact Or.inr ⟨i - 39, by rwa [Nat.add_sub_cancel' hge], by omega⟩
  · intro j hj hset p' i
    have hlt : 39 + j < 64 := BitVec.lt_of_getLsbD ((hhigh j).symm.trans hset)
    obtain ⟨hmask, hid⟩ := hhighBit j (by omega)
    exact blacklists_iff hmask hid (by decide) hj p' i
  · intro j hj hset p' i
    obtain ⟨hmask, hid⟩ := hlowBit j ((hlow j).mp hset).1
    exact blacklists_iff hmask hid (by decide) hj p' i

end RoundTrip

/-- The masks that are made from the list of a configuration are the masks of the configuration. -/
theorem mask_convertToGnssSvIdConfig_convertFromGnssSvIdConfig (svConfig : GnssSvIdConfig)
    (p : SvMask) :
    (convertToGnssSvIdConfig (convertFromGnssSvIdConfig svConfig) .zero).2.mask p =
      svConfig.mask p := by
  refine BitVec.eq_of_getLsbD_eq fun i hi ↦ Bool.eq_iff_iff.mpr ?_
  rw [getLsbD_convertToGnssSvIdConfig _ p hi, convertFromGnssSvIdConfig]
  simp only [List.mem_append, or_and_right, exists_or]
  rw [exists_mem_convertGnssSvIdMaskToList (p := .bds) (fun _ ↦ rfl) (by decide) (by decide)
      (by decide) p hi,
    exists_mem_convertGnssSvIdMaskToList (p := .gal) (fun _ ↦ rfl) (by decide) (by decide)
      (by decide) p hi,
    exists_mem_convertGnssSvIdMaskToList (p := .glo) (fun _ ↦ rfl) (by decide) (by decide)
      (by decide) p hi,
    exists_mem_convertGnssSvIdMaskToList (p := .qzss) (fun _ ↦ rfl) (by decide) (by decide)
      (by decide) p hi,
    exists_mem_convertGnssSvIdMaskToList_sbas p hi,
    exists_mem_convertGnssSvIdMaskToList (p := .navic) (fun _ ↦ rfl) (by decide) (by decide)
      (by decide) p hi]
  cases p <;> simp [GnssSvIdConfig.mask]

end MataDevice.SvConfig
