import MataDevice.Nmea.Coverage

/-!
# The ids in the GSV sentences

In a sentence the id of a satellite is printed without the offset of its constellation. The offset
is a variable of the function, which an SBAS satellite sets and nothing sets back. SBAS satellites
are printed with those of GPS, so a GPS satellite that comes after one of them in the report loses
the offset of SBAS, and the order of the report decides what its id is. In every other signal all
satellites have one offset.

The ids are read from the texts: behind the four fields of the head, every satellite has four
fields, of which the id is the first.
-/

namespace MataDevice.Nmea

open List
open MataDevice.Gnss (GnssSvType)
open MataDevice.Format (bytes signed hex)

/-! ## Fields -/

/-- The first of every four fields -/
def everyFourth : List (List UInt8) → List (List UInt8)
  | field :: _ :: _ :: _ :: fields => field :: everyFourth fields
  | _ => []

/-- The ids in a GSV sentence -/
def idFields (text : List UInt8) : List (List UInt8) := everyFourth ((text.splitOn 44).drop 4)

namespace GnssSv

/-- What is printed as id when an offset is taken off -/
def idField (sv : GnssSv) (svIdOffset : UInt32) : List UInt8 :=
  if sv.type = .glonass ∧ sv.svId = 255 then []
  else signed 2 (sv.svId.toUInt32 - svIdOffset).toInt32.toInt

/-- The offset of a constellation -/
def ownOffset (sv : GnssSv) : ℕ :=
  match sv.type with
  | .sbas => 87
  | .qzss => 192
  | .beidou => 200
  | .galileo => 300
  | .navic => 400
  | .gps | .glonass | .unknown => 0

/-- The id field that a satellite is to have, whatever is printed before it -/
def ownIdField (sv : GnssSv) : List UInt8 :=
  if sv.type = .glonass ∧ sv.svId = 255 then []
  else signed 2 ((sv.svId.toNat : ℤ) - sv.ownOffset)

theorem idField_eq_ownIdField {sv : GnssSv} {svIdOffset : UInt32}
    (h : svIdOffset.toNat = sv.ownOffset) : sv.idField svIdOffset = sv.ownIdField := by
  have hle : svIdOffset ≤ 400 := by
    rw [UInt32.le_iff_toNat_le, h, ownOffset]
    split <;> decide
  rw [idField, ownIdField, toInt_svId_sub sv.svId hle, h]

/-- Of a GPS satellite another number is printed when the offset of SBAS is taken off. -/
theorem idField_ne_ownIdField {sv : GnssSv} (h : sv.type = .gps) :
    sv.idField 87 ≠ sv.ownIdField := by
  have hnot : ¬(sv.type = .glonass ∧ sv.svId = 255) := fun hglo ↦ by cases h.symm.trans hglo.1
  have hown : sv.ownOffset = 0 := by rw [ownOffset, h]
  have h87 : ((87 : UInt32).toNat : ℤ) = 87 := rfl
  rw [idField, ownIdField, if_neg hnot, if_neg hnot, toInt_svId_sub sv.svId (by decide), hown, h87,
    Nat.cast_zero, sub_zero]
  intro heq
  by_cases hle : 87 ≤ sv.svId.toNat
  · obtain ⟨n, hn⟩ := Nat.exists_eq_add_of_le hle
    have hcast : (sv.svId.toNat : ℤ) - 87 = (n : ℕ) := by omega
    rw [hcast] at heq
    have hcount := Format.signed_natCast_inj heq
    omega
  · -- a sign is printed for one of the two only
    rw [signed, if_pos (by omega), signed, if_neg (by omega)] at heq
    have hsign : (45 : UInt8) ∈ Format.pad 2 (Decimal.toText (sv.svId.toNat : ℤ).natAbs) :=
      heq ▸ mem_cons_self
    have hdigit := Format.isDigit_of_mem_pad hsign
    revert hdigit
    decide

end GnssSv

theorem everyFourth_flatMap {α : Type} {f : α → List UInt8} {g h k : α → List UInt8} (l : List α)
    (last : List UInt8) :
    everyFourth ((l.flatMap fun a ↦ [f a, g a, h a, k a]) ++ [last]) = l.map f := by
  induction l with
  | nil => rfl
  | cons a l ih =>
    rw [flatMap_cons, append_assoc, map_cons]
    exact congrArg _ ih

namespace Gsv

variable {svNotify : GnssSvNotification}

theorem comma_not_mem_hex {n : ℕ} (h : n < 256) : 44 ∉ hex 2 n := by
  revert n
  decide +kernel

theorem comma_not_mem_hex_signalId (signal : GsvSignal) : 44 ∉ hex 0 signal.signalId.toNat := by
  cases signal <;> decide

theorem comma_not_mem_idField (sv : GnssSv) (svIdOffset : UInt32) :
    44 ∉ sv.idField svIdOffset := by
  rw [GnssSv.idField]
  split_ifs
  · exact not_mem_nil
  · exact comma_not_mem_signed _ _

/-- The fields from one on, when satellites and the last field follow. -/
theorem splitOn_append_svsText {field last : List UInt8} (hfield : 44 ∉ field) (hlast : 44 ∉ last)
    (svs : List (svNotify.Place × UInt32)) :
    (field ++ (svsText svs ++ 44 :: last)).splitOn 44 =
      field :: (svs.flatMap fun p ↦ [(svNotify.sv p.1).idField p.2,
        signed 2 (roundToInt (svNotify.sv p.1).elevation),
        signed 3 (roundToInt (svNotify.sv p.1).azimuth),
        if (svNotify.sv p.1).cN0Dbhz > 0 then (svNotify.sv p.1).cN0Text else []]) ++ [last] := by
  induction svs generalizing field with
  | nil =>
    rw [svsText, flatMap_nil, nil_append,
      splitOn_append_cons_self_of_not_mem hfield, splitOn_eq_singleton hlast]
    rfl
  | cons p svs ih =>
    have hcN0 : 44 ∉ (if (svNotify.sv p.1).cN0Dbhz > 0 then (svNotify.sv p.1).cN0Text else []) := by
      split_ifs
      · exact comma_not_mem_signed _ _
      · exact not_mem_nil
    have htext : svsText (p :: svs) ++ 44 :: last =
        44 :: ((svNotify.sv p.1).idField p.2 ++
          44 :: (signed 2 (roundToInt (svNotify.sv p.1).elevation) ++
            44 :: (signed 3 (roundToInt (svNotify.sv p.1).azimuth) ++
              44 :: ((if (svNotify.sv p.1).cN0Dbhz > 0 then (svNotify.sv p.1).cN0Text else []) ++
                (svsText svs ++ 44 :: last))))) := by
      rw [svsText_cons, GnssSv.text, GnssSv.positionText, GnssSv.idField]
      simp [bytes]
    rw [htext, splitOn_append_cons_self_of_not_mem hfield,
      splitOn_append_cons_self_of_not_mem (comma_not_mem_idField _ _),
      splitOn_append_cons_self_of_not_mem (comma_not_mem_signed _ _),
      splitOn_append_cons_self_of_not_mem (comma_not_mem_signed _ _), ih hcN0]
    rfl

/-- The ids in the text of a sentence are those of its satellites. -/
theorem idFields_text (g : Gsv svNotify) :
    idFields g.text = g.svs.map fun p ↦ (svNotify.sv p.1).idField p.2 := by
  generalize hchecksum : (g.body.drop 1).foldl (· ^^^ ·) (0 : UInt8) = checksum
  have hstart : 44 ∉ bytes ['$'] ++ g.signal.talker ++ bytes ['G', 'S', 'V'] := by
    cases g.signal <;> decide
  have hlast : 44 ∉ hex 0 g.signal.signalId.toNat ++
      (bytes ['*'] ++ hex 2 checksum.toNat ++ [13, 10]) := by
    simp only [mem_append, comma_not_mem_hex (UInt8.toNat_lt checksum),
      comma_not_mem_hex_signalId, false_or, or_false]
    decide
  have htext : g.text = (bytes ['$'] ++ g.signal.talker ++ bytes ['G', 'S', 'V']) ++
      44 :: (signed 0 g.sentenceCount ++ 44 :: (signed 0 g.sentenceNumber ++
        44 :: (signed 2 g.svCount ++ (svsText g.svs ++ 44 :: (hex 0 g.signal.signalId.toNat ++
          (bytes ['*'] ++ hex 2 checksum.toNat ++ [13, 10])))))) := by
    rw [text, withChecksum, hchecksum, body, gsvHead]
    simp [bytes]
  rw [idFields, htext, splitOn_append_cons_self_of_not_mem hstart,
    splitOn_append_cons_self_of_not_mem (comma_not_mem_signed _ _),
    splitOn_append_cons_self_of_not_mem (comma_not_mem_signed _ _),
    splitOn_append_svsText (comma_not_mem_signed _ _) hlast]
  exact everyFourth_flatMap g.svs _

end Gsv

/-! ## The satellites of a signal -/

/-- An SBAS satellite is printed before a GPS satellite. -/
def Disturbs (sv sv' : GnssSv) : Prop := sv.type = .sbas ∧ sv'.type = .gps

namespace GnssSvNotification

variable {svNotify : GnssSvNotification}

theorem take_withOffsets (svIdOffset : UInt32) (is : List svNotify.Place) (n : ℕ) :
    (withOffsets svIdOffset is).take n = withOffsets svIdOffset (is.take n) := by
  induction is generalizing svIdOffset n with
  | nil => simp [withOffsets]
  | cons i is ih =>
    cases n with
    | zero => rfl
    | succ n => rw [withOffsets, take_succ_cons, take_succ_cons, withOffsets, ih]

/-- The ids of some satellites that are printed one after the other -/
def idsFrom : UInt32 → List GnssSv → List (List UInt8)
  | _, [] => []
  | svIdOffset, sv :: svs =>
    let svIdOffset := if sv.type = .sbas then 87 else svIdOffset
    sv.idField svIdOffset :: idsFrom svIdOffset svs

theorem map_idField_withOffsets (svIdOffset : UInt32) (is : List svNotify.Place) :
    ((withOffsets svIdOffset is).map fun p ↦ (svNotify.sv p.1).idField p.2) =
      idsFrom svIdOffset (is.map svNotify.sv) := by
  induction is generalizing svIdOffset with
  | nil => rfl
  | cons i is ih =>
    rw [withOffsets, map_cons, map_cons, ih, idsFrom]

variable {svs : List GnssSv}

/-- Where all offsets are the one at the start, all ids are right. -/
theorem idsFrom_of_forall {svIdOffset : UInt32}
    (h : ∀ sv ∈ svs, sv.type ≠ .sbas ∧ svIdOffset.toNat = sv.ownOffset) :
    idsFrom svIdOffset svs = svs.map GnssSv.ownIdField := by
  induction svs with
  | nil => rfl
  | cons sv svs ih =>
    rw [forall_mem_cons] at h
    rw [idsFrom, if_neg h.1.1, map_cons, GnssSv.idField_eq_ownIdField h.1.2, ih h.2]

/-- Once an SBAS satellite has been printed, the ids are right if no GPS satellite comes. -/
theorem idsFrom_sbas_iff (htype : ∀ sv ∈ svs, sv.type = .gps ∨ sv.type = .sbas) :
    idsFrom 87 svs = svs.map GnssSv.ownIdField ↔ ∀ sv ∈ svs, sv.type ≠ .gps := by
  induction svs with
  | nil => simp [idsFrom]
  | cons sv svs ih =>
    rw [forall_mem_cons] at htype
    rw [idsFrom, ite_self, map_cons, cons_eq_cons, ih htype.2, forall_mem_cons]
    refine and_congr_left fun _ ↦ ?_
    rcases htype.1 with hgps | hsbas
    · exact iff_of_false (GnssSv.idField_ne_ownIdField hgps) (not_not.mpr hgps)
    · refine iff_of_true (GnssSv.idField_eq_ownIdField ?_) (by rw [hsbas]; decide)
      rw [GnssSv.ownOffset, hsbas]
      rfl

/-- In a list of GPS and SBAS satellites the ids are right if no GPS satellite comes after one of
SBAS. -/
theorem idsFrom_zero_iff (htype : ∀ sv ∈ svs, sv.type = .gps ∨ sv.type = .sbas) :
    idsFrom 0 svs = svs.map GnssSv.ownIdField ↔ svs.Pairwise fun sv sv' ↦ ¬Disturbs sv sv' := by
  induction svs with
  | nil => simp [idsFrom]
  | cons sv svs ih =>
    rw [forall_mem_cons] at htype
    rw [idsFrom, map_cons, cons_eq_cons, pairwise_cons]
    rcases htype.1 with hgps | hsbas
    · have hne : sv.type ≠ .sbas := by rw [hgps]; decide
      have hown : sv.idField 0 = sv.ownIdField :=
        GnssSv.idField_eq_ownIdField (by rw [GnssSv.ownOffset, hgps]; rfl)
      rw [if_neg hne, ih htype.2, and_iff_right hown, and_iff_right fun sv' _ h ↦ hne h.1]
    · have hown : sv.idField 87 = sv.ownIdField :=
        GnssSv.idField_eq_ownIdField (by rw [GnssSv.ownOffset, hsbas]; rfl)
      rw [if_pos hsbas, idsFrom_sbas_iff htype.2, and_iff_right hown]
      constructor
      · intro h
        exact ⟨fun sv' hsv' hboth ↦ h sv' hsv' hboth.2,
          pairwise_of_forall_mem_list fun _ _ sv' hsv' hboth ↦ h sv' hsv' hboth.2⟩
      · exact fun h sv' hsv' hgps ↦ h.1 sv' hsv' ⟨hsbas, hgps⟩

section

variable (svNotify) (signal : GsvSignal)

/-- The ids that `loc_nmea_generate_GSV` prints for a signal -/
def satelliteIds : List (List UInt8) :=
  ((svNotify.svMeta signal).locNmeaGenerateGSV svNotify nmeaSentenceMaxLength).flatMap idFields

/-- The satellites that are printed for a signal, at most four for each sentence -/
def satellitesOf : List GnssSv :=
  (svNotify.gnssSvs.filter (svNotify.svMeta signal).prints).take
    (4 * (svNotify.svMeta signal).sentenceCount)

theorem satelliteIds_eq : svNotify.satelliteIds signal =
    idsFrom (svNotify.svMeta signal).startOffset (svNotify.satellitesOf signal) := by
  have hplaces : ((List.finRange svNotify.gnssSvs.length).filter fun i ↦
      (svNotify.svMeta signal).prints (svNotify.sv i)).map svNotify.sv =
        svNotify.gnssSvs.filter (svNotify.svMeta signal).prints := by
    conv_rhs => rw [← map_sv_finRange svNotify, filter_map]
    rfl
  rw [satelliteIds, locNmeaGenerateGSV_eq, flatMap_map, gsvsOf, flatMap_map]
  simp only [Gsv.idFields_text]
  rw [← map_flatMap, flatMap_range_take_drop, printedSvs, LocNmeaSvMeta.printed,
    take_withOffsets, map_idField_withOffsets, map_take, hplaces, satellitesOf]

end

variable {signal : GsvSignal} {sv : GnssSv}

theorem mem_of_mem_satellitesOf (h : sv ∈ svNotify.satellitesOf signal) :
    sv ∈ svNotify.gnssSvs ∧ (svNotify.svMeta signal).prints sv = true :=
  mem_filter.mp (mem_of_mem_take h)

/-- A satellite is printed for the signals of its constellation. -/
theorem svType_of_mem_satellitesOf (h : sv ∈ svNotify.satellitesOf signal) :
    signal.svType = constellation sv.type := by
  obtain ⟨_, -, hsvType, -⟩ := prints_svMeta_iff.mp (mem_of_mem_satellitesOf h).2
  exact hsvType

theorem startOffset_svMeta : (svNotify.svMeta signal).startOffset =
    if signal.svType = .glonass then 0 else signal.svIdOffset := by
  rw [LocNmeaSvMeta.startOffset, svTypeMask_svMeta, svIdOffset_svMeta]
  cases signal <;> rfl

/-- The ids of a signal are right exactly when no GPS satellite is printed after one of SBAS. -/
theorem satelliteIds_eq_iff (svNotify : GnssSvNotification) (signal : GsvSignal) :
    svNotify.satelliteIds signal = (svNotify.satellitesOf signal).map GnssSv.ownIdField ↔
      (svNotify.satellitesOf signal).Pairwise fun sv sv' ↦ ¬Disturbs sv sv' := by
  rw [satelliteIds_eq, startOffset_svMeta]
  by_cases hgps : signal.svType = .gps
  · have hzero : (if signal.svType = .glonass then 0 else signal.svIdOffset) = 0 := by
      cases signal <;> first | rfl | cases hgps
    rw [hzero]
    refine idsFrom_zero_iff fun sv hsv ↦ ?_
    have hsvType := (svType_of_mem_satellitesOf hsv).symm.trans hgps
    cases htype : sv.type <;> rw [htype] at hsvType <;>
      first | exact Or.inl rfl | exact Or.inr rfl | cases hsvType
  · have hown : ∀ sv ∈ svNotify.satellitesOf signal, sv.type ≠ .sbas ∧
        (if signal.svType = .glonass then 0 else signal.svIdOffset).toNat = sv.ownOffset := by
      intro sv hsv
      have hsvType := svType_of_mem_satellitesOf hsv
      rw [GnssSv.ownOffset]
      cases htype : sv.type <;> rw [htype] at hsvType <;>
        first
          | exact absurd hsvType hgps
          | exact ⟨by decide, by cases signal <;> first | rfl | cases hsvType⟩
    refine iff_of_true (idsFrom_of_forall hown) ?_
    exact pairwise_of_forall_mem_list fun sv hsv _ _ hboth ↦ (hown sv hsv).1 hboth.1

/-! ## The orders of a report -/

/-- Every satellite that is printed has its own id. -/
def OwnIds (svNotify : GnssSvNotification) : Prop :=
  ∀ signal, svNotify.satelliteIds signal =
    (svNotify.satellitesOf signal).map GnssSv.ownIdField

/-- A signal that is announced, since a satellite is counted as it, and for which a satellite of SBAS
and one of GPS are printed if there is room -/
def Mixes (svNotify : GnssSvNotification) (signal : GsvSignal) : Prop :=
  (∃ sv ∈ svNotify.gnssSvs, sv.countedAs = some signal) ∧
    ∃ sv ∈ svNotify.gnssSvs, ∃ sv' ∈ svNotify.gnssSvs, Disturbs sv sv' ∧
      (svNotify.svMeta signal).prints sv = true ∧ (svNotify.svMeta signal).prints sv' = true

theorem prints_svMeta_eq (svNotify svNotify' : GnssSvNotification) (signal : GsvSignal) :
    (svNotify.svMeta signal).prints = (svNotify'.svMeta signal).prints := by
  funext sv
  rw [Bool.eq_iff_iff, prints_svMeta_iff, prints_svMeta_iff]

theorem sentenceCount_pos_iff : 0 < (svNotify.svMeta signal).sentenceCount ↔
    ∃ sv ∈ svNotify.gnssSvs, sv.countedAs = some signal := by
  have hcount : 0 < (svNotify.svMeta signal).sentenceCount ↔
      0 < (svNotify.svMeta signal).svCount := by
    rw [sentenceCount_eq]
    omega
  rw [hcount, svCount_svMeta, countP_pos_iff]
  simp only [decide_eq_true_eq]

theorem Mixes.perm {svNotify' : GnssSvNotification} (h : svNotify'.Mixes signal)
    (hperm : svNotify'.gnssSvs.Perm svNotify.gnssSvs) : svNotify.Mixes signal := by
  obtain ⟨⟨sv, hsv, hcounted⟩, sbas, hsbas, gps, hgps, hdisturbs, hprints, hprints'⟩ := h
  rw [prints_svMeta_eq svNotify' svNotify] at hprints hprints'
  exact ⟨⟨sv, hperm.mem_iff.mp hsv, hcounted⟩, sbas, hperm.mem_iff.mp hsbas, gps,
    hperm.mem_iff.mp hgps, hdisturbs, hprints, hprints'⟩

/-- Where no signal mixes SBAS and GPS, no id is wrong. -/
theorem ownIds_of_not_mixes (h : ∀ signal, ¬svNotify.Mixes signal) : svNotify.OwnIds := by
  intro signal
  refine (satelliteIds_eq_iff svNotify signal).mpr
    (pairwise_of_forall_mem_list fun sv hsv sv' hsv' hdisturbs ↦ ?_)
  obtain ⟨hmem, hprints⟩ := mem_of_mem_satellitesOf hsv
  obtain ⟨hmem', hprints'⟩ := mem_of_mem_satellitesOf hsv'
  refine h signal ⟨sentenceCount_pos_iff.mp (Nat.pos_of_ne_zero fun hzero ↦ ?_),
    sv, hmem, sv', hmem', hdisturbs, hprints, hprints'⟩
  rw [satellitesOf, hzero, Nat.mul_zero, take_zero] at hsv
  cases hsv

/-- Where a signal mixes them, there is an order in which an SBAS satellite is printed first and a
GPS satellite second. -/
theorem exists_perm_of_mixes (h : svNotify.Mixes signal) :
    ∃ svNotify' : GnssSvNotification, svNotify'.gnssSvs.Perm svNotify.gnssSvs ∧
      ¬svNotify'.OwnIds := by
  obtain ⟨⟨sv, hsv, hcounted⟩, sbas, hsbas, gps, hgps, hdisturbs, hprints, hprints'⟩ := h
  have hne : gps ≠ sbas := by
    rintro rfl
    cases hdisturbs.1.symm.trans hdisturbs.2
  have hperm : (sbas :: gps :: (svNotify.gnssSvs.erase sbas).erase gps).Perm svNotify.gnssSvs :=
    ((perm_cons_erase ((mem_erase_of_ne hne).mpr hgps)).symm.cons sbas).trans
      (perm_cons_erase hsbas).symm
  let svNotify' : GnssSvNotification := ⟨_, hperm.length_eq.trans_le svNotify.count_le⟩
  refine ⟨svNotify', hperm, fun hown ↦ ?_⟩
  have hpairwise := (satelliteIds_eq_iff svNotify' signal).mp (hown signal)
  have hpos : 0 < (svNotify'.svMeta signal).sentenceCount :=
    sentenceCount_pos_iff.mpr ⟨sv, hperm.mem_iff.mpr hsv, hcounted⟩
  obtain ⟨n, hn⟩ := Nat.exists_eq_add_of_le (show 2 ≤ 4 * (svNotify'.svMeta signal).sentenceCount by
    omega)
  rw [prints_svMeta_eq svNotify svNotify'] at hprints hprints'
  rw [satellitesOf, hn, Nat.add_comm, filter_cons_of_pos hprints,
    filter_cons_of_pos hprints', take_succ_cons, take_succ_cons,
    pairwise_cons] at hpairwise
  exact hpairwise.1 gps mem_cons_self hdisturbs

end GnssSvNotification

/-- In one order of a report the ids are right exactly when in no signal a GPS satellite is printed
after one of SBAS, and they are right in all orders exactly when no signal mixes the two. -/
theorem gsv_ids_iff (svNotify : GnssSvNotification) :
    (svNotify.OwnIds ↔ ∀ signal,
      (svNotify.satellitesOf signal).Pairwise fun sv sv' ↦ ¬Disturbs sv sv') ∧
    ((∀ svNotify' : GnssSvNotification, svNotify'.gnssSvs.Perm svNotify.gnssSvs →
        svNotify'.OwnIds) ↔ ∀ signal, ¬svNotify.Mixes signal) := by
  refine ⟨forall_congr' fun signal ↦ GnssSvNotification.satelliteIds_eq_iff svNotify signal, ?_⟩
  constructor
  · intro h signal hmixes
    obtain ⟨svNotify', hperm, hnot⟩ := GnssSvNotification.exists_perm_of_mixes hmixes
    exact hnot (h svNotify' hperm)
  · intro h svNotify' hperm
    exact GnssSvNotification.ownIds_of_not_mixes fun signal hmixes ↦ h signal (hmixes.perm hperm)

/-- A GPS and an SBAS satellite -/
def mixedReport : GnssSvNotification where
  gnssSvs := [⟨5, .gps, 40, 30, 90, false, GnssSignal.gpsL1ca.mask⟩,
    ⟨133, .sbas, 40, 30, 90, false, GnssSignal.sbasL1.mask⟩]
  count_le := by decide

/-- The other way round the id of the GPS satellite is another one. -/
theorem not_gsv_ids : ∃ svNotify' : GnssSvNotification,
    svNotify'.gnssSvs.Perm mixedReport.gnssSvs ∧ ¬svNotify'.OwnIds := by
  have hmixes : mixedReport.Mixes .gpsL1ca :=
    ⟨⟨_, mem_cons_self, rfl⟩, _, mem_cons_of_mem _ (mem_singleton.mpr rfl), _,
      mem_cons_self, ⟨rfl, rfl⟩, rfl, rfl⟩
  exact GnssSvNotification.exists_perm_of_mixes hmixes

end MataDevice.Nmea
