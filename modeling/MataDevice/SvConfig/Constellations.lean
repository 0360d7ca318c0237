import MataDevice.SvConfig.InForce

/-!
# The blacklist of the integration API

`LocationIntegrationApi::configConstellations` makes the masks of the blacklisted SVs a second time,
from pairs of a constellation and an SV id with 32 bits, and with them the masks of the
constellations that are enabled and blacklisted. The SV id 0 stands for the whole constellation.

SBAS has two ranges of ids. An id from 183 on is taken to be of the second one, which ends at 191,
and is then only checked against the 64 bits from 183 on; but the second range begins at bit 39. So
the ids up to 207 come into the mask although they are no SBAS ids, and those from there up to 246
are shifted out of it, which has no defined result. `Settable` leaves these out.
-/

namespace MataDevice.SvConfig

open List
open MataDevice.Gnss (GnssSvType)
open MataDevice.Gnss.UpdateConfig (GnssSvIdSource)

inductive GnssConstellationType
  | glonass
  | qzss
  | beidou
  | galileo
  | sbas
  | navic
  | gps
  deriving DecidableEq, Repr

structure GnssSvIdInfo where
  constellation : GnssConstellationType
  svId : UInt32
  deriving DecidableEq, Repr

/-- `GNSS_SV_TYPES_MASK_..._BIT` -/
def Constellation.mask (c : Constellation) : GnssSvTypesMask := BitVec.twoPow 64 c.bit

/-- The local variables of the loop -/
structure SvTarget where
  svTypeMask : GnssSvTypesMask := 0
  svMaskPtr : Option SvMask := none
  initialSvId : UInt16 := 0
  svIndexOffset : UInt16 := 0

/-- The `switch` of `configConstellations` -/
def svTargetOf (it : GnssSvIdInfo) : SvTarget :=
  match it.constellation with
  | .glonass => ⟨Constellation.glo.mask, some .glo, gloInitialSvId, 0⟩
  | .qzss => ⟨Constellation.qzss.mask, some .qzss, qzssInitialSvId, 0⟩
  | .beidou => ⟨Constellation.bds.mask, some .bds, bdsInitialSvId, 0⟩
  | .galileo => ⟨Constellation.gal.mask, some .gal, galInitialSvId, 0⟩
  | .sbas =>
    if it.svId = 0 then { svMaskPtr := some .sbas }
    else if it.svId ≥ sbasInitial2SvId.toUInt32 then
      { svMaskPtr := some .sbas, initialSvId := sbasInitial2SvId,
        svIndexOffset := sbasInitialSvLength }
    else if it.svId ≥ sbasInitialSvId.toUInt32 ∧
        it.svId < sbasInitialSvId.toUInt32 + sbasInitialSvLength.toUInt32 then
      { svMaskPtr := some .sbas, initialSvId := sbasInitialSvId }
    else {}
  | .navic => ⟨Constellation.navic.mask, some .navic, navicInitialSvId, 0⟩
  | .gps => {}

/-- `1ULL << shiftCnt`, which is defined for less than 64 bits -/
def shiftOne (shiftCnt : UInt32) : Option (BitVec 64) :=
  if shiftCnt < 64 then some (BitVec.twoPow 64 shiftCnt.toNat) else none

def SvTarget.shiftCnt (t : SvTarget) (svId : UInt32) : UInt32 :=
  svId + t.svIndexOffset.toUInt32 - t.initialSvId.toUInt32

/-- `constellationEnablementConfig` and `blacklistSvConfig` -/
abbrev Configs := GnssSvTypeConfig × GnssSvIdConfig

/-- One turn of the loop over the blacklisted SVs -/
def addSvId (configs : Configs) (it : GnssSvIdInfo) : Option Configs :=
  let t := svTargetOf it
  match t.svMaskPtr with
  | none => some configs
  | some svMaskPtr =>
    if it.svId = 0 then
      some
        ({ configs.1 with
            enabledSvTypesMask := configs.1.enabledSvTypesMask &&& ~~~t.svTypeMask
            blacklistedSvTypesMask := configs.1.blacklistedSvTypesMask ||| t.svTypeMask },
          configs.2.setMask svMaskPtr allBitsEnabledMask)
    else if it.svId < t.initialSvId.toUInt32 ∨ it.svId ≥ t.initialSvId.toUInt32 + 64 then
      some configs
    else do
      let bit ← shiftOne (t.shiftCnt it.svId)
      some (configs.1, configs.2.setMask svMaskPtr (configs.2.mask svMaskPtr ||| bit))

/-- The configurations before the loop -/
def initialConfigs : Configs :=
  (⟨sizeofGnssSvTypeConfig, Constellation.glo.mask ||| Constellation.bds.mask |||
      Constellation.qzss.mask ||| Constellation.gal.mask, 0⟩,
    { GnssSvIdConfig.zero with size := sizeofGnssSvIdConfig })

/-- `LocationIntegrationApi::configConstellations`, with what it sends. Without a list the modem is
to use its defaults. -/
def configConstellations (blacklistedSvIds : Option (List GnssSvIdInfo)) : Option Configs :=
  match blacklistedSvIds with
  | none => some (⟨0, 0, 0⟩, { GnssSvIdConfig.zero with size := sizeofGnssSvIdConfig })
  | some blacklistedSvIds => blacklistedSvIds.foldlM addSvId initialConfigs

/-! ## What is to come of it -/

/-- The pair blacklists nothing: GPS has no mask, and SBAS has no other ids. -/
def Ignored (it : GnssSvIdInfo) : Prop :=
  it.constellation = .gps ∨ it.constellation = .sbas ∧ it.svId ≠ 0 ∧
    ¬ (120 ≤ it.svId ∧ it.svId ≤ 158) ∧ ¬ (183 ≤ it.svId ∧ it.svId ≤ 191)

instance : DecidablePred Ignored := fun _ ↦ inferInstanceAs (Decidable (_ ∨ _))

/-- The type of a constellation in the list -/
def Constellation.type : Constellation → GnssConstellationType
  | glo => .glonass
  | bds => .beidou
  | qzss => .qzss
  | gal => .galileo
  | navic => .navic
  | gps => .gps

def GnssConstellationType.svType : GnssConstellationType → GnssSvType
  | glonass => .glonass
  | qzss => .qzss
  | beidou => .beidou
  | galileo => .galileo
  | sbas => .sbas
  | navic => .navic
  | gps => .gps

/-- The pair in the list of `GnssAdapter` -/
def GnssSvIdInfo.source (it : GnssSvIdInfo) : GnssSvIdSource :=
  ⟨it.constellation.svType, it.svId.toUInt16⟩

/-- The configurations are what the list says. -/
structure IsEncoded (l : List GnssSvIdInfo) (configs : Configs) : Prop where
  ignores : configConstellations (some (l.filter fun it ↦ ¬ Ignored it)) = some configs
  blacklisted : ∀ c, has configs.1.blacklistedSvTypesMask c = true ↔
    c ≠ .gps ∧ ⟨c.type, 0⟩ ∈ l
  enabled : ∀ c, has configs.1.enabledSvTypesMask c = true ↔
    has initialConfigs.1.enabledSvTypesMask c = true ∧
      ¬ has configs.1.blacklistedSvTypesMask c = true
  disjoint : configs.1.enabledSvTypesMask &&& configs.1.blacklistedSvTypesMask = 0
  perm : ∀ l', l'.Perm l → configConstellations (some l') = some configs
  agrees : (∀ it ∈ l, it.svId.toNat < 2 ^ 16) → ∀ p, configs.2.mask p
    = (convertToGnssSvIdConfig (l.map GnssSvIdInfo.source) .zero).2.mask p

/-- No SBAS id is shifted out of the mask, and none comes into it beyond the two ranges unless the
whole mask is set. -/
def Settable (l : List GnssSvIdInfo) : Prop :=
  (∀ svId, 208 ≤ svId → svId ≤ 246 → ⟨.sbas, svId⟩ ∉ l) ∧
    ((∃ svId, 192 ≤ svId ∧ svId ≤ 207 ∧ ⟨.sbas, svId⟩ ∈ l) → ⟨.sbas, 0⟩ ∈ l)

/-- The list is encoded without an undefined shift, and as it is to be. -/
def Encodes (l : List GnssSvIdInfo) : Prop :=
  ∃ configs, configConstellations (some l) = some configs ∧ IsEncoded l configs

/-! ## The effect of one pair -/

/-- What a pair does to the configurations -/
inductive Effect
  | nothing
  | all (svTypeMask : GnssSvTypesMask) (p : SvMask)
  | bit (p : SvMask) (i : ℕ)
  | undefined
  deriving DecidableEq

namespace Effect

def apply (configs : Configs) : Effect → Option Configs
  | nothing => some configs
  | all svTypeMask p =>
    some
      ({ configs.1 with
          enabledSvTypesMask := configs.1.enabledSvTypesMask &&& ~~~svTypeMask
          blacklistedSvTypesMask := configs.1.blacklistedSvTypesMask ||| svTypeMask },
        configs.2.setMask p allBitsEnabledMask)
  | bit p i => some (configs.1, configs.2.setMask p (configs.2.mask p ||| BitVec.twoPow 64 i))
  | undefined => none

/-- The effect sets bit `i` of the mask `p`. -/
def Sets : Effect → SvMask → ℕ → Prop
  | all _ q, p, _ => p = q
  | bit q j, p, i => p = q ∧ i = j
  | nothing, _, _ | undefined, _, _ => False

/-- The effect blacklists the constellation of bit `j`. -/
def Takes : Effect → ℕ → Prop
  | all svTypeMask _, j => svTypeMask.getLsbD j = true
  | nothing, _ | bit _ _, _ | undefined, _ => False

end Effect

def effectOf (it : GnssSvIdInfo) : Effect :=
  let t := svTargetOf it
  match t.svMaskPtr with
  | none => .nothing
  | some p =>
    if it.svId = 0 then .all t.svTypeMask p
    else if it.svId < t.initialSvId.toUInt32 ∨ it.svId ≥ t.initialSvId.toUInt32 + 64 then .nothing
    else if t.shiftCnt it.svId < 64 then .bit p (t.shiftCnt it.svId).toNat
    else .undefined

section

variable {configs configs' : Configs} {it : GnssSvIdInfo} {l l' : List GnssSvIdInfo}

theorem addSvId_eq (configs : Configs) (it : GnssSvIdInfo) :
    addSvId configs it = (effectOf it).apply configs := by
  rw [addSvId, effectOf]
  dsimp only
  split
  · rfl
  next p _ =>
  split
  · rfl
  split
  · rfl
  rw [shiftOne]
  split <;> rfl

variable {effect : Effect}

theorem getLsbD_mask_apply (h : effect.apply configs = some configs')
    (p : SvMask) {i : ℕ} (hi : i < 64) :
    (configs'.2.mask p).getLsbD i = true ↔
      (configs.2.mask p).getLsbD i = true ∨ effect.Sets p i := by
  cases effect with
  | nothing =>
    obtain rfl := Option.some.inj h
    simp [Effect.Sets]
  | all svTypeMask q =>
    obtain rfl := Option.some.inj h
    rw [GnssSvIdConfig.mask_setMask, Effect.Sets]
    split
    · next hp =>
      rw [allBitsEnabledMask, BitVec.getLsbD_allOnes, decide_eq_true hi]
      simp [hp]
    · next hp => simp [hp]
  | bit q j =>
    obtain rfl := Option.some.inj h
    rw [GnssSvIdConfig.mask_setMask, Effect.Sets]
    split
    · next hp =>
      subst hp
      rw [BitVec.getLsbD_or, Bool.or_eq_true, BitVec.getLsbD_twoPow]
      refine or_congr_right ⟨fun h ↦ ⟨rfl, ?_⟩, fun h ↦ ?_⟩
      · rw [Bool.and_eq_true, decide_eq_true_eq, decide_eq_true_eq] at h
        exact h.2.symm
      · rw [Bool.and_eq_true, decide_eq_true_eq, decide_eq_true_eq]
        exact ⟨h.2 ▸ hi, h.2.symm⟩
    · next hp => simp [hp]
  | undefined => cases h

theorem getLsbD_blacklisted_apply (h : effect.apply configs = some configs')
    (j : ℕ) : configs'.1.blacklistedSvTypesMask.getLsbD j = true ↔
      configs.1.blacklistedSvTypesMask.getLsbD j = true ∨ effect.Takes j := by
  cases effect with
  | all svTypeMask q | nothing | bit q j =>
    obtain rfl := Option.some.inj h
    simp [Effect.Takes]
  | undefined => cases h

theorem getLsbD_enabled_apply (h : effect.apply configs = some configs')
    (j : ℕ) : configs'.1.enabledSvTypesMask.getLsbD j = true ↔
      configs.1.enabledSvTypesMask.getLsbD j = true ∧ ¬ effect.Takes j := by
  cases effect with
  | all svTypeMask q =>
    obtain rfl := Option.some.inj h
    rw [BitVec.getLsbD_and, BitVec.getLsbD_not, Effect.Takes]
    by_cases hj : j < 64
    · simp [hj]
    · have hge : 64 ≤ j := Nat.not_lt.mp hj
      simp [BitVec.getLsbD_of_ge _ j hge]
  | nothing | bit q j =>
    obtain rfl := Option.some.inj h
    simp [Effect.Takes]
  | undefined => cases h

theorem size_apply (h : effect.apply configs = some configs') :
    configs'.1.size = configs.1.size ∧ configs'.2.size = configs.2.size := by
  cases effect with
  | nothing =>
    obtain rfl := Option.some.inj h
    exact ⟨rfl, rfl⟩
  | all svTypeMask q | bit q j =>
    obtain rfl := Option.some.inj h
    exact ⟨rfl, by cases q <;> rfl⟩
  | undefined => cases h

theorem foldlM_cons_of {configs₁ : Configs} (h : (effectOf it).apply configs = some configs₁) :
    (it :: l).foldlM addSvId configs = l.foldlM addSvId configs₁ := by
  rw [foldlM_cons, addSvId_eq, h]
  rfl

theorem exists_of_foldlM_cons (h : (it :: l).foldlM addSvId configs = some configs') :
    ∃ configs₁, (effectOf it).apply configs = some configs₁ ∧
      l.foldlM addSvId configs₁ = some configs' := by
  rw [foldlM_cons, addSvId_eq] at h
  exact Option.bind_eq_some_iff.mp h

/-- The loop comes to its end unless a shift is not defined. -/
theorem isSome_foldlM_iff :
    (∃ configs', l.foldlM addSvId configs = some configs') ↔
      ∀ it ∈ l, effectOf it ≠ .undefined := by
  induction l generalizing configs with
  | nil => simp
  | cons it l ih =>
    rw [forall_mem_cons]
    constructor
    · rintro ⟨configs', h⟩
      obtain ⟨configs₁, happly, hrest⟩ := exists_of_foldlM_cons h
      refine ⟨fun hundef ↦ ?_, ih.mp ⟨configs', hrest⟩⟩
      rw [hundef] at happly
      cases happly
    · rintro ⟨hdef, hrest⟩
      obtain ⟨configs₁, happly⟩ : ∃ configs₁, (effectOf it).apply configs = some configs₁ := by
        cases heffect : effectOf it with
        | undefined => exact absurd heffect hdef
        | nothing => exact ⟨_, rfl⟩
        | all svTypeMask p => exact ⟨_, rfl⟩
        | bit p i => exact ⟨_, rfl⟩
      rw [foldlM_cons_of happly]
      exact ih.mpr hrest

/-- The masks after the loop, bit by bit -/
structure Collects (configs : Configs) (l : List GnssSvIdInfo) (configs' : Configs) : Prop where
  mask : ∀ p i, i < 64 → ((configs'.2.mask p).getLsbD i = true ↔
    (configs.2.mask p).getLsbD i = true ∨ ∃ it ∈ l, (effectOf it).Sets p i)
  blacklisted : ∀ j, configs'.1.blacklistedSvTypesMask.getLsbD j = true ↔
    configs.1.blacklistedSvTypesMask.getLsbD j = true ∨ ∃ it ∈ l, (effectOf it).Takes j
  enabled : ∀ j, configs'.1.enabledSvTypesMask.getLsbD j = true ↔
    configs.1.enabledSvTypesMask.getLsbD j = true ∧ ¬ ∃ it ∈ l, (effectOf it).Takes j
  size : configs'.1.size = configs.1.size ∧ configs'.2.size = configs.2.size

theorem collects_of_foldlM (h : l.foldlM addSvId configs = some configs') :
    Collects configs l configs' := by
  induction l generalizing configs with
  | nil =>
    obtain rfl := Option.some.inj h
    constructor <;> simp
  | cons it l ih =>
    obtain ⟨configs₁, happly, hrest⟩ := exists_of_foldlM_cons h
    have hl := ih hrest
    constructor
    · intro p i hi
      rw [hl.mask p i hi, getLsbD_mask_apply happly p hi, exists_mem_cons_iff, or_assoc]
    · intro j
      rw [hl.blacklisted, getLsbD_blacklisted_apply happly, exists_mem_cons_iff, or_assoc]
    · intro j
      rw [hl.enabled, getLsbD_enabled_apply happly, exists_mem_cons_iff, not_or, and_assoc]
    · have hsize := size_apply happly
      exact ⟨hl.size.1.trans hsize.1, hl.size.2.trans hsize.2⟩

theorem svIdConfig_eq {c c' : GnssSvIdConfig} (hsize : c.size = c'.size)
    (hmask : ∀ p, c.mask p = c'.mask p) : c = c' := by
  obtain ⟨size, glo, bds, qzss, gal, sbas, navic⟩ := c
  obtain ⟨size', glo', bds', qzss', gal', sbas', navic'⟩ := c'
  simp only [GnssSvIdConfig.mk.injEq]
  exact ⟨hsize, hmask .glo, hmask .bds, hmask .qzss, hmask .gal, hmask .sbas, hmask .navic⟩

/-- Only the effects in the list matter. -/
theorem configs_eq_of_effects {r r' : Configs} (h : Collects configs l r)
    (h' : Collects configs l' r')
    (hsets : ∀ p i, i < 64 →
      ((∃ it ∈ l, (effectOf it).Sets p i) ↔ ∃ it ∈ l', (effectOf it).Sets p i))
    (htakes : ∀ j, (∃ it ∈ l, (effectOf it).Takes j) ↔ ∃ it ∈ l', (effectOf it).Takes j) :
    r = r' := by
  have hmask : ∀ p, r.2.mask p = r'.2.mask p := fun p ↦
    BitVec.eq_of_getLsbD_eq fun i hi ↦ Bool.eq_iff_iff.mpr <| by
      rw [h.mask p i hi, h'.mask p i hi, hsets p i hi]
  have hblacklisted : r.1.blacklistedSvTypesMask = r'.1.blacklistedSvTypesMask :=
    BitVec.eq_of_getLsbD_eq fun j _ ↦ Bool.eq_iff_iff.mpr <| by
      rw [h.blacklisted, h'.blacklisted, htakes]
  have henabled : r.1.enabledSvTypesMask = r'.1.enabledSvTypesMask :=
    BitVec.eq_of_getLsbD_eq fun j _ ↦ Bool.eq_iff_iff.mpr <| by
      rw [h.enabled, h'.enabled, htakes]
  refine Prod.ext ?_ (svIdConfig_eq (h.size.2.trans h'.size.2.symm) hmask)
  have hsize := h.size.1.trans h'.size.1.symm
  obtain ⟨⟨size, enabled, blacklisted⟩, c⟩ := r
  obtain ⟨⟨size', enabled', blacklisted'⟩, c'⟩ := r'
  simp only [GnssSvTypeConfig.mk.injEq]
  exact ⟨hsize, henabled, hblacklisted⟩

/-! ## The ids -/

variable {svId : UInt32} {c : Constellation} {p : SvMask} {initialSvId : UInt16}

theorem lt_toUInt32_iff (svId : UInt32) (initialSvId : UInt16) :
    svId < initialSvId.toUInt32 ↔ svId.toNat < initialSvId.toNat := by
  rw [UInt32.lt_iff_toNat_lt, UInt16.toNat_toUInt32]

theorem ge_toUInt32_add_iff (svId : UInt32) (initialSvId : UInt16) :
    svId ≥ initialSvId.toUInt32 + 64 ↔ initialSvId.toNat + 64 ≤ svId.toNat := by
  have hlt := initialSvId.toNat_lt
  have hadd : (initialSvId.toUInt32 + 64).toNat = initialSvId.toNat + 64 := by
    rw [UInt32.toNat_add, UInt16.toNat_toUInt32]
    exact Nat.mod_eq_of_lt (by simp; omega)
  rw [ge_iff_le, UInt32.le_iff_toNat_le, hadd]

/-- The shift does not wrap around. -/
theorem toNat_shiftCnt {t : SvTarget} (hge : t.initialSvId.toNat ≤ svId.toNat)
    (hlt : svId.toNat < t.initialSvId.toNat + 64) :
    (t.shiftCnt svId).toNat = svId.toNat + t.svIndexOffset.toNat - t.initialSvId.toNat := by
  have hinitial := t.initialSvId.toNat_lt
  have hoffset := t.svIndexOffset.toNat_lt
  have hadd : (svId + t.svIndexOffset.toUInt32).toNat = svId.toNat + t.svIndexOffset.toNat := by
    rw [UInt32.toNat_add, UInt16.toNat_toUInt32]
    exact Nat.mod_eq_of_lt (by omega)
  rw [SvTarget.shiftCnt, UInt32.toNat_sub_of_le, hadd, UInt16.toNat_toUInt32]
  rw [UInt32.le_iff_toNat_le, hadd, UInt16.toNat_toUInt32]
  omega

/-- The effect of an id other than 0, where there is a mask -/
theorem effectOf_of_svMaskPtr (hptr : (svTargetOf it).svMaskPtr = some p) (hne : it.svId ≠ 0) :
    effectOf it =
      let t := svTargetOf it
      let i := it.svId.toNat + t.svIndexOffset.toNat - t.initialSvId.toNat
      if it.svId.toNat < t.initialSvId.toNat ∨ t.initialSvId.toNat + 64 ≤ it.svId.toNat then
        .nothing
      else if i < 64 then .bit p i else .undefined := by
  rw [effectOf, hptr]
  simp only [if_neg hne, lt_toUInt32_iff, ge_toUInt32_add_iff]
  split
  · rfl
  · next hin =>
    rw [not_or, Nat.not_lt, Nat.not_le] at hin
    simp only [UInt32.lt_iff_toNat_lt, toNat_shiftCnt hin.1 hin.2]
    rfl

def Constellation.target : Constellation → Option (SvMask × UInt16)
  | glo => some (.glo, gloInitialSvId)
  | bds => some (.bds, bdsInitialSvId)
  | qzss => some (.qzss, qzssInitialSvId)
  | gal => some (.gal, galInitialSvId)
  | navic => some (.navic, navicInitialSvId)
  | gps => none

section

variable (htarget : c.target = some (p, initialSvId))
include htarget

theorem svTargetOf_type (svId : UInt32) :
    svTargetOf ⟨c.type, svId⟩ = ⟨c.mask, some p, initialSvId, 0⟩ := by
  cases c <;> cases htarget <;> rfl

theorem effectOf_type_zero :
    effectOf ⟨c.type, 0⟩ = .all c.mask p := by
  rw [effectOf, svTargetOf_type htarget]
  rfl

theorem effectOf_type (hne : svId ≠ 0) :
    effectOf ⟨c.type, svId⟩ =
      if svId.toNat < initialSvId.toNat ∨ initialSvId.toNat + 64 ≤ svId.toNat then .nothing
      else .bit p (svId.toNat - initialSvId.toNat) := by
  have ht := svTargetOf_type htarget svId
  rw [effectOf_of_svMaskPtr (by rw [ht]) hne, ht]
  dsimp only
  split
  · rfl
  · rw [if_pos (by simp; omega)]
    rfl

end

theorem effectOf_gps (svId : UInt32) : effectOf ⟨.gps, svId⟩ = .nothing := rfl

theorem effectOf_sbas_zero : effectOf ⟨.sbas, 0⟩ = .all 0 .sbas := rfl

theorem ne_zero_of_le {n : ℕ} (h : n + 1 ≤ svId.toNat) : svId ≠ 0 := by
  rintro rfl
  exact absurd h (Nat.not_succ_le_zero n)

theorem svTargetOf_sbas_first (hge : 120 ≤ svId.toNat) (hle : svId.toNat ≤ 158) :
    svTargetOf ⟨.sbas, svId⟩ = ⟨0, some .sbas, sbasInitialSvId, 0⟩ := by
  have hsecond : ¬ svId ≥ sbasInitial2SvId.toUInt32 := by
    rw [ge_iff_le, UInt32.le_iff_toNat_le, Nat.not_le]
    exact Nat.lt_of_le_of_lt hle (by decide)
  have hfirst : svId ≥ sbasInitialSvId.toUInt32 ∧
      svId < sbasInitialSvId.toUInt32 + sbasInitialSvLength.toUInt32 := by
    rw [ge_iff_le, UInt32.le_iff_toNat_le, UInt32.lt_iff_toNat_lt]
    exact ⟨hge, Nat.lt_succ_of_le hle⟩
  rw [svTargetOf]
  dsimp only
  rw [if_neg (ne_zero_of_le hge), if_neg hsecond, if_pos hfirst]

theorem svTargetOf_sbas_second (hge : 183 ≤ svId.toNat) :
    svTargetOf ⟨.sbas, svId⟩ = ⟨0, some .sbas, sbasInitial2SvId, sbasInitialSvLength⟩ := by
  have hsecond : svId ≥ sbasInitial2SvId.toUInt32 := by
    rw [ge_iff_le, UInt32.le_iff_toNat_le]
    exact hge
  rw [svTargetOf]
  dsimp only
  rw [if_neg (ne_zero_of_le hge), if_pos hsecond]

theorem effectOf_sbas_first (hge : 120 ≤ svId.toNat) (hle : svId.toNat ≤ 158) :
    effectOf ⟨.sbas, svId⟩ = .bit .sbas (svId.toNat - 120) := by
  have ht := svTargetOf_sbas_first hge hle
  rw [effectOf_of_svMaskPtr (by rw [ht]) (ne_zero_of_le hge), ht]
  have hinitial : sbasInitialSvId.toNat = 120 := rfl
  dsimp only
  rw [if_neg (by omega), if_pos (by simp; omega), hinitial]
  rfl

/-- From 183 on an id is of the second range, whose bits begin at 39. -/
theorem effectOf_sbas_second (hge : 183 ≤ svId.toNat) :
    effectOf ⟨.sbas, svId⟩ =
      if svId.toNat ≤ 207 then .bit .sbas (svId.toNat - 144)
      else if svId.toNat ≤ 246 then .undefined else .nothing := by
  have ht := svTargetOf_sbas_second hge
  rw [effectOf_of_svMaskPtr (by rw [ht]) (ne_zero_of_le hge), ht]
  have hinitial : sbasInitial2SvId.toNat = 183 := rfl
  have hoffset : sbasInitialSvLength.toNat = 39 := rfl
  dsimp only
  rw [hinitial, hoffset]
  split
  · rw [if_neg (by omega), if_neg (by omega)]
  · split
    · rw [if_pos (by omega)]
      congr 1
    · rw [if_neg (by omega), if_pos (by omega)]

theorem effectOf_sbas_nothing (hne : svId ≠ 0) (hlt : svId.toNat < 183)
    (hfirst : ¬ (120 ≤ svId.toNat ∧ svId.toNat ≤ 158)) :
    effectOf ⟨.sbas, svId⟩ = .nothing := by
  have hnot : ¬ svId ≥ sbasInitial2SvId.toUInt32 := by
    rw [ge_iff_le, UInt32.le_iff_toNat_le, Nat.not_le]
    exact hlt
  have hnot' : ¬ (svId ≥ sbasInitialSvId.toUInt32 ∧
      svId < sbasInitialSvId.toUInt32 + sbasInitialSvLength.toUInt32) := by
    rw [ge_iff_le, UInt32.le_iff_toNat_le, UInt32.lt_iff_toNat_lt]
    exact fun h ↦ hfirst ⟨h.1, Nat.le_of_lt_succ h.2⟩
  have ht : svTargetOf ⟨.sbas, svId⟩ = {} := by
    rw [svTargetOf]
    dsimp only
    rw [if_neg hne, if_neg hnot, if_neg hnot']
  rw [effectOf, ht]

/-! ## The lists -/

/-- A constellation is GPS, SBAS, or one with a mask of its own that can be blacklisted. -/
theorem cases_constellation (constellation : GnssConstellationType) :
    constellation = .gps ∨ constellation = .sbas ∨
      ∃ c p initialSvId,
        constellation = c.type ∧ Constellation.target c = some (p, initialSvId) := by
  cases constellation with
  | gps => exact .inl rfl
  | sbas => exact .inr (.inl rfl)
  | glonass => exact .inr (.inr ⟨.glo, _, _, rfl, rfl⟩)
  | qzss => exact .inr (.inr ⟨.qzss, _, _, rfl, rfl⟩)
  | beidou => exact .inr (.inr ⟨.bds, _, _, rfl, rfl⟩)
  | galileo => exact .inr (.inr ⟨.gal, _, _, rfl, rfl⟩)
  | navic => exact .inr (.inr ⟨.navic, _, _, rfl, rfl⟩)

theorem effectOf_sbas_cases (svId : UInt32) :
    svId = 0 ∧ effectOf ⟨.sbas, svId⟩ = .all 0 .sbas ∨
      120 ≤ svId.toNat ∧ svId.toNat ≤ 158 ∧
        effectOf ⟨.sbas, svId⟩ = .bit .sbas (svId.toNat - 120) ∨
      183 ≤ svId.toNat ∧ svId.toNat ≤ 207 ∧
        effectOf ⟨.sbas, svId⟩ = .bit .sbas (svId.toNat - 144) ∨
      208 ≤ svId.toNat ∧ svId.toNat ≤ 246 ∧ effectOf ⟨.sbas, svId⟩ = .undefined ∨
      svId ≠ 0 ∧ ¬ (120 ≤ svId.toNat ∧ svId.toNat ≤ 158) ∧
        ¬ (183 ≤ svId.toNat ∧ svId.toNat ≤ 246) ∧ effectOf ⟨.sbas, svId⟩ = .nothing := by
  by_cases hzero : svId = 0
  · subst hzero
    exact .inl ⟨rfl, effectOf_sbas_zero⟩
  by_cases hge : 183 ≤ svId.toNat
  · have hsecond := effectOf_sbas_second hge
    by_cases hle : svId.toNat ≤ 207
    · rw [if_pos hle] at hsecond
      exact .inr (.inr (.inl ⟨hge, hle, hsecond⟩))
    by_cases hle' : svId.toNat ≤ 246
    · rw [if_neg hle, if_pos hle'] at hsecond
      exact .inr (.inr (.inr (.inl ⟨Nat.not_le.mp hle, hle', hsecond⟩)))
    · rw [if_neg hle, if_neg hle'] at hsecond
      exact .inr (.inr (.inr (.inr ⟨hzero, by omega, by omega, hsecond⟩)))
  by_cases hfirst : 120 ≤ svId.toNat ∧ svId.toNat ≤ 158
  · exact .inr (.inl ⟨hfirst.1, hfirst.2, effectOf_sbas_first hfirst.1 hfirst.2⟩)
  · exact .inr (.inr (.inr (.inr ⟨hzero, hfirst, fun h ↦ hge h.1,
      effectOf_sbas_nothing hzero (Nat.not_le.mp hge) hfirst⟩)))

theorem effectOf_type_cases (htarget : c.target = some (p, initialSvId)) (svId : UInt32) :
    svId = 0 ∧ effectOf ⟨c.type, svId⟩ = .all c.mask p ∨
      svId ≠ 0 ∧ (initialSvId.toNat ≤ svId.toNat ∧ svId.toNat < initialSvId.toNat + 64) ∧
        effectOf ⟨c.type, svId⟩ = .bit p (svId.toNat - initialSvId.toNat) ∨
      svId ≠ 0 ∧ ¬ (initialSvId.toNat ≤ svId.toNat ∧ svId.toNat < initialSvId.toNat + 64) ∧
        effectOf ⟨c.type, svId⟩ = .nothing := by
  by_cases hzero : svId = 0
  · subst hzero
    exact .inl ⟨rfl, effectOf_type_zero htarget⟩
  have heffect := effectOf_type htarget hzero
  by_cases hin : initialSvId.toNat ≤ svId.toNat ∧ svId.toNat < initialSvId.toNat + 64
  · rw [if_neg (by omega)] at heffect
    exact .inr (.inl ⟨hzero, hin, heffect⟩)
  · rw [if_pos (by omega)] at heffect
    exact .inr (.inr ⟨hzero, hin, heffect⟩)

theorem type_ne_sbas (c : Constellation) : c.type ≠ .sbas := by cases c <;> decide

theorem ne_gps_of_target (htarget : c.target = some (p, initialSvId)) : c ≠ .gps := by
  rintro rfl
  cases htarget

theorem effectOf_eq_undefined_iff :
    effectOf it = .undefined ↔
      it.constellation = .sbas ∧ 208 ≤ it.svId.toNat ∧ it.svId.toNat ≤ 246 := by
  obtain ⟨constellation, svId⟩ := it
  dsimp only
  rcases cases_constellation constellation with rfl | rfl | ⟨c, p, initialSvId, rfl, htarget⟩
  · simp [effectOf_gps]
  · rcases effectOf_sbas_cases svId with ⟨rfl, h⟩ | ⟨hge, hle, h⟩ | ⟨hge, hle, h⟩ | ⟨hge, hle, h⟩ |
      ⟨hne, hfirst, hsecond, h⟩
    · simp [h]
    · simp [h]
      omega
    · simp [h]
      omega
    · simp [h, hge, hle]
    · simp [h]
      omega
  · have hne := type_ne_sbas c
    rcases effectOf_type_cases htarget svId with ⟨-, h⟩ | ⟨-, -, h⟩ | ⟨-, -, h⟩ <;> simp [h, hne]

/-- A constellation is blacklisted by its SV id 0. -/
theorem takes_effectOf_iff {j : ℕ} :
    (effectOf it).Takes j ↔ ∃ c, c ≠ .gps ∧ it = ⟨Constellation.type c, 0⟩ ∧ j = c.bit := by
  obtain ⟨constellation, svId⟩ := it
  rcases cases_constellation constellation with rfl | rfl | ⟨c, p, initialSvId, rfl, htarget⟩
  · rw [effectOf_gps]
    refine iff_of_false id ?_
    rintro ⟨c, hc, heq, -⟩
    cases c <;> simp_all [Constellation.type]
  · refine iff_of_false (fun htakes ↦ ?_) ?_
    · rcases effectOf_sbas_cases svId with ⟨-, h⟩ | ⟨-, -, h⟩ | ⟨-, -, h⟩ | ⟨-, -, h⟩ |
        ⟨-, -, -, h⟩ <;> simp [h, Effect.Takes] at htakes
    · rintro ⟨c, -, heq, -⟩
      exact type_ne_sbas c (congrArg GnssSvIdInfo.constellation heq).symm
  · have hinj : ∀ c', c'.type = c.type ↔ c' = c := fun c' ↦ by
      cases c' <;> cases c <;> decide
    rcases effectOf_type_cases htarget svId with ⟨rfl, h⟩ | ⟨hne, -, h⟩ | ⟨hne, -, h⟩
    · rw [h, Effect.Takes, Constellation.mask, BitVec.getLsbD_twoPow]
      have hlt : c.bit < 64 := by cases c <;> decide
      constructor
      · intro hbit
        rw [Bool.and_eq_true, decide_eq_true_eq, decide_eq_true_eq] at hbit
        exact ⟨c, ne_gps_of_target htarget, rfl, hbit.2.symm⟩
      · rintro ⟨c', -, heq, rfl⟩
        obtain rfl := (hinj c').mp (congrArg GnssSvIdInfo.constellation heq).symm
        simp [hlt]
    · rw [h]
      refine iff_of_false id ?_
      rintro ⟨c', -, heq, -⟩
      exact hne (congrArg GnssSvIdInfo.svId heq)
    · rw [h]
      refine iff_of_false id ?_
      rintro ⟨c', -, heq, -⟩
      exact hne (congrArg GnssSvIdInfo.svId heq)

theorem ignored_sbas_iff (svId : UInt32) :
    Ignored ⟨.sbas, svId⟩ ↔ svId ≠ 0 ∧ ¬ (120 ≤ svId.toNat ∧ svId.toNat ≤ 158) ∧
      ¬ (183 ≤ svId.toNat ∧ svId.toNat ≤ 191) := by
  simp [Ignored, UInt32.le_iff_toNat_le]

/-- A pair that is to be ignored has no effect, or an undefined one, or sets a bit that belongs to
none of the two ranges. -/
theorem effectOf_of_ignored (h : Ignored it) :
    effectOf it = .nothing ∨ effectOf it = .undefined ∨
      it.constellation = .sbas ∧ 192 ≤ it.svId.toNat ∧ it.svId.toNat ≤ 207 ∧
        effectOf it = .bit .sbas (it.svId.toNat - 144) := by
  obtain ⟨constellation, svId⟩ := it
  dsimp only
  rcases cases_constellation constellation with rfl | rfl | ⟨c, p, initialSvId, rfl, htarget⟩
  · exact .inl (effectOf_gps svId)
  · obtain ⟨hzero, hfirst, hsecond⟩ := (ignored_sbas_iff svId).mp h
    rcases effectOf_sbas_cases svId with ⟨heq, -⟩ | ⟨hge, hle, -⟩ | ⟨hge, hle, heffect⟩ |
      ⟨-, -, heffect⟩ | ⟨-, -, -, heffect⟩
    · exact absurd heq hzero
    · exact absurd ⟨hge, hle⟩ hfirst
    · exact .inr (.inr ⟨rfl, by omega, hle, heffect⟩)
    · exact .inr (.inl heffect)
    · exact .inl heffect
  · rcases h with hgps | ⟨hsbas, -⟩
    · exact absurd hgps (by cases c <;> simp_all [Constellation.type, Constellation.target])
    · exact absurd hsbas (type_ne_sbas c)

/-- Apart from the ids that are to be ignored only the whole constellation has bits beyond the two
ranges. -/
theorem eq_of_sets_of_ge {i : ℕ} (h : ¬ Ignored it) (hsets : (effectOf it).Sets .sbas i)
    (hi : 48 ≤ i) : it = ⟨.sbas, 0⟩ := by
  obtain ⟨constellation, svId⟩ := it
  rcases cases_constellation constellation with rfl | rfl | ⟨c, p, initialSvId, rfl, htarget⟩
  · exact absurd (.inl rfl) h
  · rw [ignored_sbas_iff] at h
    rcases effectOf_sbas_cases svId with ⟨rfl, -⟩ | ⟨hge, hle, heffect⟩ | ⟨hge, hle, heffect⟩ |
      ⟨-, -, heffect⟩ | ⟨-, -, -, heffect⟩
    · rfl
    · rw [heffect] at hsets
      have hi' : i = svId.toNat - 120 := hsets.2
      omega
    · rw [heffect] at hsets
      have hi' : i = svId.toNat - 144 := hsets.2
      have hin : 183 ≤ svId.toNat ∧ svId.toNat ≤ 191 :=
        by_contra fun hnot ↦ h ⟨ne_zero_of_le hge, by omega, hnot⟩
      omega
    · rw [heffect] at hsets
      exact hsets.elim
    · rw [heffect] at hsets
      exact hsets.elim
  · have hne : SvMask.sbas ≠ p := by
      cases c <;> cases htarget <;> decide
    rcases effectOf_type_cases htarget svId with ⟨-, heffect⟩ | ⟨-, -, heffect⟩ | ⟨-, -, heffect⟩
    · rw [heffect] at hsets
      exact absurd hsets hne
    · rw [heffect] at hsets
      exact absurd hsets.1 hne
    · rw [heffect] at hsets
      exact hsets.elim

theorem toNat_source (hsvId : svId.toNat < 2 ^ 16) : svId.toUInt16.toNat = svId.toNat := by
  rw [UInt32.toNat_toUInt16]
  exact Nat.mod_eq_of_lt hsvId

theorem source_eq_zero_iff (hsvId : svId.toNat < 2 ^ 16) : svId.toUInt16 = 0 ↔ svId = 0 := by
  rw [← UInt16.toNat_inj, ← UInt32.toNat_inj, toNat_source hsvId]
  rfl

theorem blacklists_type (htarget : c.target = some (p, initialSvId)) (hsvId : svId.toNat < 2 ^ 16)
    (q : SvMask) (i : ℕ) :
    Blacklists (GnssSvIdInfo.source ⟨c.type, svId⟩) q i ↔ q = p ∧ (svId = 0 ∨ svId ≠ 0 ∧
      initialSvId.toNat ≤ svId.toNat ∧ svId.toNat < initialSvId.toNat + 64 ∧
      i = svId.toNat - initialSvId.toNat) := by
  have hmask : svMaskOf (GnssSvIdInfo.source ⟨c.type, svId⟩) = some (p, initialSvId, 0) := by
    cases c <;> cases htarget <;> rfl
  rw [Blacklists, hmask]
  simp only [GnssSvIdInfo.source, ne_eq, source_eq_zero_iff hsvId, toNat_source hsvId,
    UInt16.le_iff_toNat_le]
  rfl

theorem blacklists_sbas_zero (q : SvMask) (i : ℕ) :
    Blacklists (GnssSvIdInfo.source ⟨.sbas, 0⟩) q i ↔ q = .sbas := by
  simp [Blacklists, svMaskOf, GnssSvIdInfo.source, GnssConstellationType.svType]

theorem svMaskOf_source_sbas (hsvId : svId.toNat < 2 ^ 16) (hne : svId ≠ 0) :
    svMaskOf (GnssSvIdInfo.source ⟨.sbas, svId⟩) =
      if 183 ≤ svId.toNat then some (.sbas, sbasInitial2SvId, sbasInitialSvLength)
      else if 120 ≤ svId.toNat ∧ svId.toNat < 159 then some (.sbas, sbasInitialSvId, 0)
      else none := by
  have hzero : svId.toUInt16 ≠ 0 := fun h ↦ hne ((source_eq_zero_iff hsvId).mp h)
  rw [svMaskOf_sbas rfl]
  simp only [GnssSvIdInfo.source, if_neg hzero, toNat_source hsvId]

theorem blacklists_sbas_first (hge : 120 ≤ svId.toNat) (hle : svId.toNat ≤ 158) (q : SvMask)
    (i : ℕ) : Blacklists (GnssSvIdInfo.source ⟨.sbas, svId⟩) q i ↔
      q = .sbas ∧ i = svId.toNat - 120 := by
  have hsvId : svId.toNat < 2 ^ 16 := by omega
  have hne := ne_zero_of_le hge
  have hinitial : sbasInitialSvId.toNat = 120 := rfl
  rw [Blacklists, svMaskOf_source_sbas hsvId hne, if_neg (by omega), if_pos (by omega)]
  simp only [GnssSvIdInfo.source, ne_eq, source_eq_zero_iff hsvId, toNat_source hsvId, hne,
    UInt16.le_iff_toNat_le, hinitial, false_or, not_false_eq_true, true_and, hge]
  have hlt : svId.toNat < 120 + 64 := by omega
  simp [hlt]

theorem blacklists_sbas_second (hge : 183 ≤ svId.toNat) (hsvId : svId.toNat < 2 ^ 16) (q : SvMask)
    (i : ℕ) : Blacklists (GnssSvIdInfo.source ⟨.sbas, svId⟩) q i ↔
      q = .sbas ∧ svId.toNat ≤ 246 ∧ i = svId.toNat - 144 := by
  have hne := ne_zero_of_le hge
  have hinitial : sbasInitial2SvId.toNat = 183 := rfl
  have hoffset : sbasInitialSvLength.toNat = 39 := rfl
  rw [Blacklists, svMaskOf_source_sbas hsvId hne, if_pos hge]
  simp only [GnssSvIdInfo.source, ne_eq, source_eq_zero_iff hsvId, toNat_source hsvId, hne,
    UInt16.le_iff_toNat_le, hinitial, hoffset, false_or, not_false_eq_true, true_and, hge]
  refine and_congr_right fun _ ↦ ?_
  omega

theorem not_blacklists_sbas (hsvId : svId.toNat < 2 ^ 16) (hne : svId ≠ 0)
    (hlt : svId.toNat < 183) (hfirst : ¬ (120 ≤ svId.toNat ∧ svId.toNat ≤ 158)) (q : SvMask)
    (i : ℕ) : ¬ Blacklists (GnssSvIdInfo.source ⟨.sbas, svId⟩) q i := by
  rw [Blacklists, svMaskOf_source_sbas hsvId hne, if_neg (by omega), if_neg (by omega)]
  exact id

/-- The adapter sets the same bits. -/
theorem sets_iff_blacklists (hdef : effectOf it ≠ .undefined) (hsvId : it.svId.toNat < 2 ^ 16)
    (q : SvMask) (i : ℕ) : (effectOf it).Sets q i ↔ Blacklists it.source q i := by
  obtain ⟨constellation, svId⟩ := it
  dsimp only at hsvId
  rcases cases_constellation constellation with rfl | rfl | ⟨c, p, initialSvId, rfl, htarget⟩
  · exact iff_of_false id id
  · rcases effectOf_sbas_cases svId with ⟨rfl, heffect⟩ | ⟨hge, hle, heffect⟩ |
      ⟨hge, hle, heffect⟩ | ⟨-, -, heffect⟩ | ⟨hne, hfirst, hsecond, heffect⟩
    · rw [heffect, blacklists_sbas_zero]
      rfl
    · rw [heffect, blacklists_sbas_first hge hle]
      rfl
    · rw [heffect, blacklists_sbas_second hge hsvId]
      have hle' : svId.toNat ≤ 246 := by omega
      simp [Effect.Sets, hle']
    · exact absurd heffect hdef
    · rw [heffect]
      refine iff_of_false id fun h ↦ ?_
      by_cases hge : 183 ≤ svId.toNat
      · exact hsecond ⟨hge, ((blacklists_sbas_second hge hsvId q i).mp h).2.1⟩
      · exact not_blacklists_sbas hsvId hne (Nat.not_le.mp hge) hfirst q i h
  · rw [blacklists_type htarget hsvId]
    rcases effectOf_type_cases htarget svId with ⟨rfl, h⟩ | ⟨hne, hin, h⟩ | ⟨hne, hout, h⟩
    · simp [h, Effect.Sets]
    · simp [h, Effect.Sets, hne, hin]
    · rw [h]
      refine iff_of_false id ?_
      rintro ⟨-, hzero | ⟨-, hge, hlt, -⟩⟩
      · exact hne hzero
      · exact hout ⟨hge, hlt⟩

variable {r : Configs}

theorem isSome_configConstellations_iff :
    (∃ configs', configConstellations (some l) = some configs') ↔
      ∀ svId : UInt32, 208 ≤ svId → svId ≤ 246 → ⟨.sbas, svId⟩ ∉ l := by
  rw [configConstellations, isSome_foldlM_iff]
  simp only [UInt32.le_iff_toNat_le]
  constructor
  · intro h svId hge hle hmem
    exact h _ hmem (effectOf_eq_undefined_iff.mpr ⟨rfl, hge, hle⟩)
  · intro h it hmem hundef
    obtain ⟨hsbas, hge, hle⟩ := effectOf_eq_undefined_iff.mp hundef
    exact h it.svId hge hle (hsbas ▸ hmem)

theorem mask_initialConfigs (p : SvMask) : initialConfigs.2.mask p = 0 := by
  cases p <;> rfl

section

variable (h : configConstellations (some l) = some r)
include h

/-- Lists with the same pairs give the same. -/
theorem configConstellations_eq_of_mem
    (hmem : ∀ it, it ∈ l' ↔ it ∈ l) : configConstellations (some l') = some r := by
  have hdef : ∀ it ∈ l', effectOf it ≠ .undefined := fun it hit ↦
    isSome_foldlM_iff.mp ⟨r, h⟩ it ((hmem it).mp hit)
  have hsome : ∃ r', l'.foldlM addSvId initialConfigs = some r' := isSome_foldlM_iff.mpr hdef
  obtain ⟨r', h'⟩ := hsome
  have heq := configs_eq_of_effects (collects_of_foldlM h) (collects_of_foldlM h')
    (fun p i _ ↦ by simp only [hmem]) (fun j ↦ by simp only [hmem])
  rw [heq]
  exact h'

/-- The masks of the constellations -/
theorem has_blacklisted_iff (c : Constellation) :
    has r.1.blacklistedSvTypesMask c = true ↔ c ≠ .gps ∧ ⟨c.type, 0⟩ ∈ l := by
  have hinitial : initialConfigs.1.blacklistedSvTypesMask.getLsbD c.bit = false := by
    cases c <;> decide
  rw [has, (collects_of_foldlM h).blacklisted, hinitial]
  simp only [Bool.false_eq_true, false_or, takes_effectOf_iff]
  constructor
  · rintro ⟨it, hmem, c', hc', rfl, hbit⟩
    have hcc' : c = c' := by
      revert hbit
      cases c <;> cases c' <;> decide
    subst hcc'
    exact ⟨hc', hmem⟩
  · rintro ⟨hc, hmem⟩
    exact ⟨_, hmem, c, hc, rfl, rfl⟩

theorem has_enabled_iff (c : Constellation) :
    has r.1.enabledSvTypesMask c = true ↔
      has initialConfigs.1.enabledSvTypesMask c = true ∧
        ¬ has r.1.blacklistedSvTypesMask c = true := by
  have hinitial : initialConfigs.1.blacklistedSvTypesMask.getLsbD c.bit = false := by
    cases c <;> decide
  have hcollects := collects_of_foldlM h
  rw [has, has, has, hcollects.enabled, hcollects.blacklisted, hinitial]
  simp

theorem disjoint_configConstellations :
    r.1.enabledSvTypesMask &&& r.1.blacklistedSvTypesMask = 0 := by
  have hcollects := collects_of_foldlM h
  have hinitial : ∀ j, initialConfigs.1.blacklistedSvTypesMask.getLsbD j = false := fun j ↦
    BitVec.getLsbD_zero
  refine BitVec.eq_of_getLsbD_eq fun j _ ↦ ?_
  rw [BitVec.getLsbD_and, Bool.eq_iff_iff, Bool.and_eq_true, hcollects.enabled,
    hcollects.blacklisted, hinitial]
  simp

theorem mask_eq_convertToGnssSvIdConfig (hsvId : ∀ it ∈ l, it.svId.toNat < 2 ^ 16) (p : SvMask) :
    r.2.mask p = (convertToGnssSvIdConfig (l.map GnssSvIdInfo.source) .zero).2.mask p := by
  have hdef := isSome_foldlM_iff.mp ⟨r, h⟩
  refine BitVec.eq_of_getLsbD_eq fun i hi ↦ Bool.eq_iff_iff.mpr ?_
  rw [(collects_of_foldlM h).mask p i hi, getLsbD_convertToGnssSvIdConfig _ p hi,
    mask_initialConfigs]
  constructor
  · rintro (hzero | ⟨it, hmem, hsets⟩)
    · simp at hzero
    · exact ⟨it.source, mem_map_of_mem hmem,
        (sets_iff_blacklists (hdef it hmem) (hsvId it hmem) p i).mp hsets⟩
  · rintro ⟨source, hmem, hblacklists⟩
    obtain ⟨it, hit, rfl⟩ := mem_map.mp hmem
    exact .inr ⟨it, hit, (sets_iff_blacklists (hdef it hit) (hsvId it hit) p i).mpr hblacklists⟩

/-- Without the pairs that are to be ignored the same comes of the list. -/
theorem ignores_of_settable (hl : Settable l) :
    configConstellations (some (l.filter fun it ↦ ¬ Ignored it)) = some r := by
  have hfilter : ∀ it, it ∈ l.filter (fun it ↦ ¬ Ignored it) ↔ it ∈ l ∧ ¬ Ignored it := fun it ↦ by
    rw [mem_filter, decide_eq_true_eq]
  have hsome : ∃ r', (l.filter fun it ↦ ¬ Ignored it).foldlM addSvId initialConfigs = some r' :=
    isSome_foldlM_iff.mpr fun it hit ↦
      isSome_foldlM_iff.mp ⟨r, h⟩ it ((hfilter it).mp hit).1
  obtain ⟨r', h'⟩ := hsome
  have heq := configs_eq_of_effects (collects_of_foldlM h) (collects_of_foldlM h')
    (fun p i _ ↦ by
      refine ⟨?_, fun ⟨it, hit, hsets⟩ ↦ ⟨it, ((hfilter it).mp hit).1, hsets⟩⟩
      rintro ⟨it, hit, hsets⟩
      by_cases hignored : Ignored it
      · rcases effectOf_of_ignored hignored with heffect | heffect | ⟨hsbas, hge, hle, heffect⟩
        · rw [heffect] at hsets
          exact hsets.elim
        · rw [heffect] at hsets
          exact hsets.elim
        · -- the whole constellation is blacklisted too
          rw [heffect] at hsets
          have hzero : ⟨.sbas, 0⟩ ∈ l :=
            hl.2 ⟨it.svId, UInt32.le_iff_toNat_le.mpr hge, UInt32.le_iff_toNat_le.mpr hle,
              hsbas ▸ hit⟩
          exact ⟨_, (hfilter _).mpr ⟨hzero, by decide⟩, hsets.1⟩
      · exact ⟨it, (hfilter it).mpr ⟨hit, hignored⟩, hsets⟩)
    (fun j ↦ by
      refine ⟨?_, fun ⟨it, hit, htakes⟩ ↦ ⟨it, ((hfilter it).mp hit).1, htakes⟩⟩
      rintro ⟨it, hit, htakes⟩
      by_cases hignored : Ignored it
      · rcases effectOf_of_ignored hignored with heffect | heffect | ⟨-, -, -, heffect⟩ <;>
          exact absurd htakes (by rw [heffect]; exact id)
      · exact ⟨it, (hfilter it).mpr ⟨hit, hignored⟩, htakes⟩)
  rw [heq]
  exact h'

/-- A bit beyond the two ranges is to come from the whole constellation. -/
theorem zero_mem_of_ignores
    (hignores : configConstellations (some (l.filter fun it ↦ ¬ Ignored it)) = some r)
    (hge : 192 ≤ svId.toNat) (hle : svId.toNat ≤ 207) (hmem : ⟨.sbas, svId⟩ ∈ l) :
    ⟨.sbas, 0⟩ ∈ l := by
  have hi : svId.toNat - 144 < 64 := by omega
  have heffect := effectOf_sbas_second (show 183 ≤ svId.toNat by omega)
  rw [if_pos hle] at heffect
  have hsets : (effectOf ⟨.sbas, svId⟩).Sets .sbas (svId.toNat - 144) := by
    rw [heffect]
    exact ⟨rfl, rfl⟩
  have hbit := ((collects_of_foldlM h).mask .sbas _ hi).mpr (.inr ⟨_, hmem, hsets⟩)
  rw [(collects_of_foldlM hignores).mask .sbas _ hi, mask_initialConfigs] at hbit
  rcases hbit with hzero | ⟨it, hit, hsets'⟩
  · simp at hzero
  · rw [mem_filter, decide_eq_true_eq] at hit
    exact eq_of_sets_of_ge hit.2 hsets' (by omega) ▸ hit.1

end

/-- **When the list is encoded as it is to be.** This is so if no SBAS id from 208 to 246 is in the
list, and none from 192 to 207 unless all of SBAS is blacklisted. -/
theorem encodes_iff (l : List GnssSvIdInfo) : Encodes l ↔ Settable l := by
  constructor
  · rintro ⟨r, h, hencoded⟩
    refine ⟨isSome_configConstellations_iff.mp ⟨r, h⟩, ?_⟩
    rintro ⟨svId, hge, hle, hmem⟩
    exact zero_mem_of_ignores h hencoded.ignores (UInt32.le_iff_toNat_le.mp hge)
      (UInt32.le_iff_toNat_le.mp hle) hmem
  · intro hl
    obtain ⟨r, h⟩ := isSome_configConstellations_iff.mpr hl.1
    exact ⟨r, h, ignores_of_settable h hl, has_blacklisted_iff h, has_enabled_iff h,
      disjoint_configConstellations h,
      fun l' hperm ↦ configConstellations_eq_of_mem h fun _ ↦ hperm.mem_iff,
      mask_eq_convertToGnssSvIdConfig h⟩

/-- An SBAS id of the list of 64 bits from 183 on is shifted out of the mask. -/
theorem not_encodes_sbas : ¬ Encodes [⟨.sbas, 208⟩] := by
  rintro ⟨configs, h, -⟩
  have hnone : configConstellations (some [⟨.sbas, 208⟩]) = none := by decide
  cases hnone.symm.trans h

end

end MataDevice.SvConfig
