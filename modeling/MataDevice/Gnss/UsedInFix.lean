import MataDevice.Lib.History
import MataDevice.Nmea.Signals

/-!
# The satellites used in a fix

A position says in masks which satellites have been used for it, for each constellation or, with
multi-band data, for each signal. The adapter keeps them for the next SV report, in which it marks
the satellites that the masks name, and then drops them.

A mark is only ever added to a satellite. So a report is marked exactly if the satellites that come
with a mark are among those that have been used.
-/

namespace MataDevice.Gnss

open List
open MataDevice.Nmea (GnssSignal GnssSignalTypeMask GnssSv GnssSvNotification)

/-! ## Positions -/

/-- `GnssSvUsedInPosition` -/
structure GnssSvUsedInPosition where
  gpsSvUsedIdsMask : UInt64
  gloSvUsedIdsMask : UInt64
  galSvUsedIdsMask : UInt64
  bdsSvUsedIdsMask : UInt64
  qzssSvUsedIdsMask : UInt64
  navicSvUsedIdsMask : UInt64
  deriving DecidableEq

/-- `GnssSvMbUsedInPosition`, without the mask of SBAS, which nothing here reads -/
structure GnssSvMbUsedInPosition where
  gpsL1caSvUsedIdsMask : UInt64
  gpsL1cSvUsedIdsMask : UInt64
  gpsL2SvUsedIdsMask : UInt64
  gpsL5SvUsedIdsMask : UInt64
  gloG1SvUsedIdsMask : UInt64
  gloG2SvUsedIdsMask : UInt64
  galE1SvUsedIdsMask : UInt64
  galE5aSvUsedIdsMask : UInt64
  galE5bSvUsedIdsMask : UInt64
  bdsB1iSvUsedIdsMask : UInt64
  bdsB1cSvUsedIdsMask : UInt64
  bdsB2iSvUsedIdsMask : UInt64
  bdsB2aiSvUsedIdsMask : UInt64
  qzssL1caSvUsedIdsMask : UInt64
  qzssL1sSvUsedIdsMask : UInt64
  qzssL2SvUsedIdsMask : UInt64
  qzssL5SvUsedIdsMask : UInt64
  bdsB2aqSvUsedIdsMask : UInt64
  deriving DecidableEq

/-- `loc_sess_status` -/
inductive LocSessStatus
  | success
  | intermediate
  | failure
  deriving DecidableEq

/-- What decides for whom a position is: whether the engine hub is there, and the configuration -/
structure ReportConfig where
  initEngHubProxy : Bool
  /-- `INTERMEDIATE_POS` is `LOC_SESS_INTERMEDIATE`. -/
  intermediatePos : Bool
  accuracyThres : UInt32
  allowFlpNetworkFixes : UInt32

/-- What `reportPosition` gets, as far as it is about the satellites -/
structure PositionReport where
  status : LocSessStatus
  techMask : UInt32
  accuracy : Option ℚ
  flags : UInt64
  gnssSvUsedIds : GnssSvUsedInPosition
  gnssMbSvUsedIds : GnssSvMbUsedInPosition

/-- `LocApiBase::needReport` -/
def needReport (config : ReportConfig) (report : PositionReport) : Bool :=
  match report.status with
  | .success => report.techMask &&& (0x01 ||| 0x08 ||| 0x80) != 0
  | .intermediate =>
    config.intermediatePos && !(report.accuracy.any fun accuracy ↦
      config.accuracyThres != 0 && decide ((config.accuracyThres.toNat : ℚ) < accuracy))
  | .failure => false

def needReportForGnssClient (config : ReportConfig) (report : PositionReport) : Bool :=
  if config.initEngHubProxy then true else needReport config report

def needReportForFlpClient (config : ReportConfig) (report : PositionReport) : Bool :=
  if report.status = .intermediate ∧ report.techMask &&& 0x08 = 0 ∧
      config.allowFlpNetworkFixes = 0 ∨ report.status = .failure then false
  else true

/-- What the adapter keeps of the satellites of a position -/
structure UsedSvState where
  mGnssSvIdUsedInPosAvail : Bool
  mGnssSvIdUsedInPosition : GnssSvUsedInPosition
  mGnssMbSvIdUsedInPosAvail : Bool
  mGnssMbSvIdUsedInPosition : GnssSvMbUsedInPosition

def UsedSvState.init : UsedSvState :=
  ⟨false, ⟨0, 0, 0, 0, 0, 0⟩, false, ⟨0, 0, 0, 0, 0, 0, 0, 0, 0, 0, 0, 0, 0, 0, 0, 0, 0, 0⟩⟩

/-- `GPS_LOCATION_EXTENDED_HAS_GNSS_SV_USED_DATA` -/
def hasGnssSvUsedData : UInt64 := 0x1000

/-- `GPS_LOCATION_EXTENDED_HAS_MULTIBAND` -/
def hasMultiband : UInt64 := 0x400000000

namespace UsedSvState

/-- The part of `reportPosition` that is about the satellites -/
def reportPosition (s : UsedSvState) (config : ReportConfig) (report : PositionReport) :
    UsedSvState :=
  let reportToGnssClient := needReportForGnssClient config report
  let reportToFlpClient := needReportForFlpClient config report
  if reportToGnssClient || reportToFlpClient then
    let s := { s with mGnssSvIdUsedInPosAvail := false, mGnssMbSvIdUsedInPosAvail := false }
    if reportToGnssClient ∧ report.flags &&& hasGnssSvUsedData ≠ 0 then
      let s := { s with
        mGnssSvIdUsedInPosAvail := true
        mGnssSvIdUsedInPosition := report.gnssSvUsedIds }
      if report.flags &&& hasMultiband ≠ 0 then
        { s with
          mGnssMbSvIdUsedInPosAvail := true
          mGnssMbSvIdUsedInPosition := report.gnssMbSvUsedIds }
      else s
    else s
  else s

end UsedSvState

/-! ## Satellites -/

/-- The mask of a constellation; there is none for SBAS. -/
def GnssSvUsedInPosition.mask (ids : GnssSvUsedInPosition) : GnssSvType → UInt64
  | .gps => ids.gpsSvUsedIdsMask
  | .glonass => ids.gloSvUsedIdsMask
  | .beidou => ids.bdsSvUsedIdsMask
  | .galileo => ids.galSvUsedIdsMask
  | .qzss => ids.qzssSvUsedIdsMask
  | .navic => ids.navicSvUsedIdsMask
  | .sbas | .unknown => 0

/-- The mask of a signal of a constellation; there is none for a set of signals. -/
def GnssSvMbUsedInPosition.mask (ids : GnssSvMbUsedInPosition) (type : GnssSvType)
    (signalTypeMask : GnssSignalTypeMask) : UInt64 :=
  match type with
  | .gps =>
    if signalTypeMask = GnssSignal.gpsL1ca.mask then ids.gpsL1caSvUsedIdsMask
    else if signalTypeMask = GnssSignal.gpsL1c.mask then ids.gpsL1cSvUsedIdsMask
    else if signalTypeMask = GnssSignal.gpsL2.mask then ids.gpsL2SvUsedIdsMask
    else if signalTypeMask = GnssSignal.gpsL5.mask then ids.gpsL5SvUsedIdsMask
    else 0
  | .glonass =>
    if signalTypeMask = GnssSignal.glonassG1.mask then ids.gloG1SvUsedIdsMask
    else if signalTypeMask = GnssSignal.glonassG2.mask then ids.gloG2SvUsedIdsMask
    else 0
  | .beidou =>
    if signalTypeMask = GnssSignal.beidouB1i.mask then ids.bdsB1iSvUsedIdsMask
    else if signalTypeMask = GnssSignal.beidouB1c.mask then ids.bdsB1cSvUsedIdsMask
    else if signalTypeMask = GnssSignal.beidouB2i.mask then ids.bdsB2iSvUsedIdsMask
    else if signalTypeMask = GnssSignal.beidouB2ai.mask then ids.bdsB2aiSvUsedIdsMask
    else if signalTypeMask = GnssSignal.beidouB2aq.mask then ids.bdsB2aqSvUsedIdsMask
    else 0
  | .galileo =>
    if signalTypeMask = GnssSignal.galileoE1.mask then ids.galE1SvUsedIdsMask
    else if signalTypeMask = GnssSignal.galileoE5a.mask then ids.galE5aSvUsedIdsMask
    else if signalTypeMask = GnssSignal.galileoE5b.mask then ids.galE5bSvUsedIdsMask
    else 0
  | .qzss =>
    if signalTypeMask = GnssSignal.qzssL1ca.mask then ids.qzssL1caSvUsedIdsMask
    else if signalTypeMask = GnssSignal.qzssL1s.mask then ids.qzssL1sSvUsedIdsMask
    else if signalTypeMask = GnssSignal.qzssL2.mask then ids.qzssL2SvUsedIdsMask
    else if signalTypeMask = GnssSignal.qzssL5.mask then ids.qzssL5SvUsedIdsMask
    else 0
  | .navic | .sbas | .unknown => 0

/-- The first id of a constellation -/
def firstSvId : GnssSvType → UInt16
  | .glonass => 65
  | .beidou => 201
  | .galileo => 301
  | .qzss => 193
  | .navic => 401
  | .gps | .sbas | .unknown => 1

/-- `1ULL << n`, which is not defined for `n` from 64 on -/
def shiftOne (n : ℕ) : Option UInt64 := if n < 64 then some ⟨1#64 <<< n⟩ else none

namespace UsedSvState

/-- `svUsedIdMask` -/
def svUsedIdMask (s : UsedSvState) (sv : GnssSv) : UInt64 :=
  if s.mGnssSvIdUsedInPosAvail then
    -- there are no signals of NavIC
    if s.mGnssMbSvIdUsedInPosAvail ∧ sv.type ≠ .navic then
      s.mGnssMbSvIdUsedInPosition.mask sv.type sv.gnssSignalTypeMask
    else s.mGnssSvIdUsedInPosition.mask sv.type
  else 0

/-- `gnssSvId`, the id in the range of its constellation -/
def gnssSvId (sv : GnssSv) : UInt16 :=
  match sv.type with
  | .gps | .sbas | .unknown => sv.svId
  | _ => sv.svId - firstSvId sv.type + 1

/-- Marks a satellite if it has been used. -/
def markSv (s : UsedSvState) (sv : GnssSv) : Option GnssSv :=
  let id := gnssSvId sv
  -- `svFitsMask`
  if 1 ≤ id ∧ id ≤ 64 then do
    let bit ← shiftOne (id.toNat - 1)
    if s.svUsedIdMask sv &&& bit ≠ 0 then some { sv with usedInFix := true } else some sv
  else some sv

/-- `reportSv`: the satellites that the clients get. There is no result where the shift is not
defined. -/
def reportSv (s : UsedSvState) (svNotify : GnssSvNotification) :
    Option (UsedSvState × List GnssSv) := do
  let gnssSvs ← svNotify.gnssSvs.mapM s.markSv
  some ({ s with mGnssSvIdUsedInPosAvail := false, mGnssMbSvIdUsedInPosAvail := false }, gnssSvs)

end UsedSvState

/-! ## Runs -/

inductive SvEvent
  | reportPosition (config : ReportConfig) (report : PositionReport)
  | reportSv (svNotify : GnssSvNotification)

/-- One step, with the SV report that the clients get -/
def UsedSvState.step (s : UsedSvState) : SvEvent → Option (UsedSvState × List (List GnssSv))
  | .reportPosition config report => some (s.reportPosition config report, [])
  | .reportSv svNotify => (s.reportSv svNotify).map fun reported ↦ (reported.1, [reported.2])

/-- The satellites of a position: for each constellation, and for each signal -/
structure UsedSvs where
  ids : GnssSvUsedInPosition
  mbIds : Option GnssSvMbUsedInPosition

/-- The satellites of a position that is reported to GNSS clients -/
def PositionReport.usedSvs (config : ReportConfig) (report : PositionReport) : Option UsedSvs :=
  if needReportForGnssClient config report ∧ report.flags &&& hasGnssSvUsedData ≠ 0 then
    some ⟨report.gnssSvUsedIds,
      if report.flags &&& hasMultiband ≠ 0 then some report.gnssMbSvUsedIds else none⟩
  else none

/-- What an event does with the satellites that are kept; a position that is not reported does
nothing. -/
def SvEvent.keeps : SvEvent → Option (Option UsedSvs)
  | .reportPosition config report =>
    if needReportForGnssClient config report || needReportForFlpClient config report then
      some (report.usedSvs config)
    else none
  | .reportSv _ => some none

def itemKeeps : Item SvEvent (List GnssSv) → Option (Option UsedSvs)
  | .event e => e.keeps
  | .out _ => none

/-- The satellites of the last reported position, unless an SV report has come after it -/
def keptSvs (hist : List (Item SvEvent (List GnssSv))) : Option UsedSvs :=
  (latest itemKeeps hist).join

/-- The mask that a satellite is looked up in -/
def UsedSvs.mask (used : UsedSvs) (sv : GnssSv) : UInt64 :=
  match used.mbIds with
  | none => used.ids.mask sv.type
  | some mbIds =>
    if sv.type = .navic then used.ids.mask sv.type
    else mbIds.mask sv.type sv.gnssSignalTypeMask

/-- The mask has the bit of the satellite in the range of its constellation. -/
def UsedSvs.Contains (used : UsedSvs) (sv : GnssSv) : Prop :=
  ∃ k < 64, sv.svId.toNat = (firstSvId sv.type).toNat + k ∧
    (used.mask sv).toBitVec.getLsbD k = true

/-- The satellite has been used in the last reported position. -/
def IsUsed (hist : List (Item SvEvent (List GnssSv))) (sv : GnssSv) : Prop :=
  ∃ used, keptSvs hist = some used ∧ used.Contains sv

/-- In every SV report exactly the satellites that have been used are marked, and nothing else of
them is changed. -/
def IsMarkedExactly (hist : List (Item SvEvent (List GnssSv))) : Prop :=
  ∀ before svNotify svs after,
    hist = before ++ .event (.reportSv svNotify) :: .out svs :: after →
    List.Forall₂ (fun sv sv' ↦ (sv'.usedInFix = true ↔ IsUsed before sv) ∧
      { sv' with usedInFix := sv.usedInFix } = sv) svNotify.gnssSvs svs

/-! ## One satellite -/

namespace UsedSvState

/-- What the state keeps -/
def kept (s : UsedSvState) : Option UsedSvs :=
  if s.mGnssSvIdUsedInPosAvail then
    some ⟨s.mGnssSvIdUsedInPosition,
      if s.mGnssMbSvIdUsedInPosAvail then some s.mGnssMbSvIdUsedInPosition else none⟩
  else none

theorem svUsedIdMask_eq (s : UsedSvState) (sv : GnssSv) :
    s.svUsedIdMask sv = s.kept.elim 0 fun used ↦ used.mask sv := by
  rw [svUsedIdMask, kept]
  cases s.mGnssSvIdUsedInPosAvail with
  | false => rfl
  | true =>
    rw [if_pos rfl, if_pos rfl, Option.elim_some, UsedSvs.mask]
    cases s.mGnssMbSvIdUsedInPosAvail with
    | false => simp
    | true =>
      by_cases hnavic : sv.type = .navic
      · simp [hnavic]
      · simp [hnavic]

theorem toNat_gnssSvId (sv : GnssSv) :
    (gnssSvId sv).toNat = (sv.svId.toNat + (65537 - (firstSvId sv.type).toNat)) % 65536 := by
  have hsv := sv.svId.toNat_lt
  have hself : sv.svId.toNat = (sv.svId.toNat + (65537 - (1 : UInt16).toNat)) % 65536 := by
    rw [UInt16.toNat_one]
    omega
  have hrebase (first : UInt16) : (sv.svId - first + 1).toNat =
      (sv.svId.toNat + (65537 - first.toNat)) % 65536 := by
    have hfirst := first.toNat_lt
    rw [UInt16.toNat_add, UInt16.toNat_sub, UInt16.toNat_one]
    omega
  rw [gnssSvId]
  cases sv.type with
  | unknown => exact hself
  | gps => exact hself
  | sbas => exact hself
  | glonass => exact hrebase _
  | qzss => exact hrebase _
  | beidou => exact hrebase _
  | galileo => exact hrebase _
  | navic => exact hrebase _

/-- The rebased id fits the mask just if the id is one of the first 64 of its constellation. -/
theorem fits_iff (sv : GnssSv) (k : ℕ) :
    (1 ≤ gnssSvId sv ∧ gnssSvId sv ≤ 64) ∧ (gnssSvId sv).toNat - 1 = k ↔
      k < 64 ∧ sv.svId.toNat = (firstSvId sv.type).toNat + k := by
  have hid := toNat_gnssSvId sv
  have hsv := sv.svId.toNat_lt
  have hfirst : 1 ≤ (firstSvId sv.type).toNat ∧ (firstSvId sv.type).toNat ≤ 401 := by
    cases sv.type <;> decide
  rw [UInt16.le_iff_toNat_le, UInt16.le_iff_toNat_le, UInt16.toNat_one,
    show (64 : UInt16).toNat = 64 from rfl]
  omega

theorem and_shiftOne {mask bit : UInt64} {n : ℕ} (h : shiftOne n = some bit) :
    mask &&& bit ≠ 0 ↔ mask.toBitVec.getLsbD n = true := by
  rw [shiftOne] at h
  split_ifs at h with hn
  obtain rfl := Option.some_inj.mp h
  have hand : mask.toBitVec &&& 1#64 <<< n =
      if mask.toBitVec.getLsbD n then 1#64 <<< n else 0#64 := BitVec.and_twoPow mask.toBitVec n
  have hbit : 1#64 <<< n ≠ 0#64 := by
    rw [ne_eq, ← BitVec.toNat_inj, BitVec.toNat_shiftLeft, Nat.shiftLeft_eq, BitVec.toNat_ofNat,
      Nat.mod_eq_of_lt (show 1 % 2 ^ 64 * 2 ^ n < 2 ^ 64 by
        rw [show 1 % 2 ^ 64 * 2 ^ n = 2 ^ n from Nat.one_mul _]
        exact Nat.pow_lt_pow_right (by decide) hn)]
    exact (Nat.mul_pos (by decide) (Nat.two_pow_pos n)).ne'
  rw [ne_eq, ← UInt64.toBitVec_inj, UInt64.toBitVec_and, hand]
  split_ifs with hget
  · exact iff_of_true hbit hget
  · exact iff_of_false (fun h ↦ h rfl) hget

/-- What becomes of one satellite -/
theorem exists_markSv (s : UsedSvState) (sv : GnssSv) :
    ∃ sv', s.markSv sv = some sv' ∧
      (sv'.usedInFix = true ↔ sv.usedInFix = true ∨
        ∃ used, s.kept = some used ∧ used.Contains sv) ∧
      { sv' with usedInFix := sv.usedInFix } = sv := by
  have hcontains : (∃ used, s.kept = some used ∧ used.Contains sv) ↔
      ∃ k, (k < 64 ∧ sv.svId.toNat = (firstSvId sv.type).toNat + k) ∧
        (s.svUsedIdMask sv).toBitVec.getLsbD k = true := by
    rw [svUsedIdMask_eq]
    cases s.kept with
    | none =>
      refine iff_of_false (fun ⟨_, hused, _⟩ ↦ Option.some_ne_none _ hused.symm) ?_
      rintro ⟨k, -, hbit⟩
      rw [Option.elim_none, UInt64.toBitVec_zero, BitVec.getLsbD_zero] at hbit
      cases hbit
    | some used =>
      rw [Option.elim_some]
      constructor
      · rintro ⟨_, hused, k, hk, hid, hbit⟩
        obtain rfl := Option.some_inj.mp hused
        exact ⟨k, ⟨hk, hid⟩, hbit⟩
      · rintro ⟨k, ⟨hk, hid⟩, hbit⟩
        exact ⟨used, rfl, k, hk, hid, hbit⟩
  rw [hcontains, markSv]
  split_ifs with hfits
  · obtain ⟨hk, hid⟩ := (fits_iff sv _).mp ⟨hfits, rfl⟩
    obtain ⟨bit, hbit⟩ : ∃ bit, shiftOne ((gnssSvId sv).toNat - 1) = some bit :=
      ⟨_, if_pos hk⟩
    have hmask : s.svUsedIdMask sv &&& bit ≠ 0 ↔ _ := and_shiftOne hbit
    rw [hbit]
    dsimp only [Option.bind_eq_bind, Option.bind_some]
    split_ifs with hand
    · exact ⟨_, rfl, iff_of_true rfl (Or.inr ⟨_, ⟨hk, hid⟩, hmask.mp hand⟩), rfl⟩
    · refine ⟨_, rfl, (or_iff_left ?_).symm, rfl⟩
      rintro ⟨k, ⟨-, hid'⟩, hget⟩
      obtain rfl : k = (gnssSvId sv).toNat - 1 := by omega
      exact hand (hmask.mpr hget)
  · refine ⟨sv, rfl, (or_iff_left ?_).symm, rfl⟩
    rintro ⟨k, hk, -⟩
    exact hfits ((fits_iff sv k).mpr hk).1

theorem exists_mapM_markSv (s : UsedSvState) (svs : List GnssSv) :
    ∃ svs', svs.mapM s.markSv = some svs' ∧ List.Forall₂ (fun sv sv' ↦
      (sv'.usedInFix = true ↔ sv.usedInFix = true ∨
        ∃ used, s.kept = some used ∧ used.Contains sv) ∧
      { sv' with usedInFix := sv.usedInFix } = sv) svs svs' := by
  induction svs with
  | nil => exact ⟨[], rfl, List.Forall₂.nil⟩
  | cons sv svs ih =>
    obtain ⟨sv', hmark, hsv⟩ := exists_markSv s sv
    obtain ⟨svs', hmap, hsvs⟩ := ih
    refine ⟨sv' :: svs', ?_, List.Forall₂.cons hsv hsvs⟩
    rw [mapM_cons, hmark, hmap]
    rfl

theorem kept_reportPosition (s : UsedSvState) (config : ReportConfig) (report : PositionReport) :
    (s.reportPosition config report).kept =
      ((SvEvent.reportPosition config report).keeps.getD s.kept) := by
  rw [UsedSvState.reportPosition, SvEvent.keeps, PositionReport.usedSvs]
  dsimp only
  split_ifs <;> rfl

end UsedSvState

/-! ## Runs of reports -/

theorem forall₂_iff_of_forall₂ {α β : Type} {R S : α → β → Prop} {p : α → Prop} {l : List α}
    {l' : List β} (h : List.Forall₂ S l l') (hiff : ∀ a b, S a b → (R a b ↔ p a)) :
    List.Forall₂ R l l' ↔ ∀ a ∈ l, p a := by
  induction h with
  | nil => exact iff_of_true .nil fun a hmem ↦ absurd hmem not_mem_nil
  | cons hab _ ih => rw [forall₂_cons, forall_mem_cons, hiff _ _ hab, ih]

/-- What is kept after a step -/
theorem keptSvs_append_entry (hist : List (Item SvEvent (List GnssSv))) (e : SvEvent)
    (outs : List (List GnssSv)) :
    keptSvs (hist ++ entry e outs) = e.keeps.getD (keptSvs hist) := by
  rw [keptSvs, latest_append_entry (fun _ ↦ rfl), keptSvs, itemKeeps]
  cases e.keeps with
  | none => rfl
  | some kept => rfl

/-- A run and the state that it ends in: what is kept, and what has become of each SV report -/
structure IsReported (hist : List (Item SvEvent (List GnssSv))) (s : UsedSvState) : Prop where
  kept : s.kept = keptSvs hist
  reports : ∀ before svNotify after, hist = before ++ .event (.reportSv svNotify) :: after →
    ∃ svs after', after = .out svs :: after' ∧ List.Forall₂ (fun sv sv' ↦
      (sv'.usedInFix = true ↔ sv.usedInFix = true ∨ IsUsed before sv) ∧
      { sv' with usedInFix := sv.usedInFix } = sv) svNotify.gnssSvs svs

theorem IsReported.step {hist : List (Item SvEvent (List GnssSv))} {s s' : UsedSvState}
    {e : SvEvent} {outs : List (List GnssSv)} (h : IsReported hist s)
    (hstep : s.step e = some (s', outs)) : IsReported (hist ++ entry e outs) s' := by
  cases e with
  | reportPosition config report =>
    obtain ⟨rfl, rfl⟩ := some_pair_inj hstep
    refine ⟨?_, fun before svNotify after hhist ↦ ?_⟩
    · rw [keptSvs_append_entry, s.kept_reportPosition, h.kept]
    · rcases append_entry_eq hhist with ⟨mid, hmid, rfl⟩ | ⟨-, he, -⟩
      · obtain ⟨svs, after, rfl, hsvs⟩ := h.reports before svNotify mid hmid
        exact ⟨svs, _, rfl, hsvs⟩
      · cases he
  | reportSv svNotify =>
    obtain ⟨svs, hmap, hsvs⟩ := s.exists_mapM_markSv svNotify.gnssSvs
    rw [UsedSvState.step, UsedSvState.reportSv, hmap] at hstep
    obtain ⟨rfl, rfl⟩ := some_pair_inj hstep
    refine ⟨?_, fun before svNotify' after hhist ↦ ?_⟩
    · rw [keptSvs_append_entry]
      rfl
    · rcases append_entry_eq hhist with ⟨mid, hmid, rfl⟩ | ⟨rfl, he, rfl⟩
      · obtain ⟨svs, after, rfl, hsvs⟩ := h.reports before svNotify' mid hmid
        exact ⟨svs, _, rfl, hsvs⟩
      · obtain rfl := SvEvent.reportSv.inj he
        rw [h.kept] at hsvs
        exact ⟨svs, [], rfl, hsvs⟩

/-- **The marks of the satellites used in a fix.** No step shifts by 64 or more. In a run of
positions and SV reports exactly the satellites that have been used in the last reported position
are marked just if no others come with a mark. -/
theorem used_in_fix_iff {hist : List (Item SvEvent (List GnssSv))} {s : UsedSvState}
    (h : Run UsedSvState.step (fun _ _ ↦ True) .init hist s) :
    (∀ e, (s.step e).isSome = true) ∧
      (IsMarkedExactly hist ↔ ∀ before svNotify after,
        hist = before ++ .event (.reportSv svNotify) :: after →
        ∀ sv ∈ svNotify.gnssSvs, sv.usedInFix = true → IsUsed before sv) := by
  have hreported : IsReported hist s := by
    refine h.invariant ⟨rfl, fun before svNotify after hhist ↦ ?_⟩ fun hrep _ hstep ↦
      hrep.step hstep
    exact absurd hhist (append_ne_nil_of_right_ne_nil _ (cons_ne_nil _ _)).symm
  have hreport {before : List (Item SvEvent (List GnssSv))} {svNotify : GnssSvNotification}
      {svs : List GnssSv} (hsvs : List.Forall₂ (fun sv sv' ↦
        (sv'.usedInFix = true ↔ sv.usedInFix = true ∨ IsUsed before sv) ∧
        { sv' with usedInFix := sv.usedInFix } = sv) svNotify.gnssSvs svs) :=
    forall₂_iff_of_forall₂
      (R := fun sv sv' ↦ (sv'.usedInFix = true ↔ IsUsed before sv) ∧
        { sv' with usedInFix := sv.usedInFix } = sv)
      (p := fun sv ↦ sv.usedInFix = true → IsUsed before sv) hsvs fun sv sv' hsv ↦ by
        rw [hsv.1, and_iff_left hsv.2]
        exact or_iff_right_iff_imp
  refine ⟨fun e ↦ ?_, fun hexact before svNotify after hhist ↦ ?_,
    fun hmarks before svNotify svs after hhist ↦ ?_⟩
  · cases e with
    | reportPosition config report => rfl
    | reportSv svNotify =>
      obtain ⟨svs, hmap, -⟩ := s.exists_mapM_markSv svNotify.gnssSvs
      rw [UsedSvState.step, UsedSvState.reportSv, hmap]
      rfl
  · obtain ⟨svs, after', rfl, hsvs⟩ := hreported.reports before svNotify after hhist
    exact (hreport hsvs).mp (hexact before svNotify svs after' hhist)
  · obtain ⟨svs', after', heq, hsvs⟩ := hreported.reports before svNotify _ hhist
    obtain rfl := Item.out.inj (List.cons.inj heq).1
    exact (hreport hsvs).mpr (hmarks before svNotify _ hhist)

/-! ## A satellite that comes with a mark -/

/-- A position for which the first satellite of GPS has been used -/
def sampleReport : PositionReport :=
  ⟨.success, 1, none, hasGnssSvUsedData, ⟨1, 0, 0, 0, 0, 0⟩,
    ⟨0, 0, 0, 0, 0, 0, 0, 0, 0, 0, 0, 0, 0, 0, 0, 0, 0, 0⟩⟩

/-- The first satellite of GPS, with or without a mark -/
def sampleSv (usedInFix : Bool) : GnssSv := ⟨1, .gps, 0, 0, 0, usedInFix, GnssSignal.gpsL1ca.mask⟩

def sampleNotify (usedInFix : Bool) : GnssSvNotification :=
  ⟨[sampleSv usedInFix], Nat.le_of_ble_eq_true rfl⟩

/-- A position and the satellite used for it -/
theorem used_in_fix_iff_unmarked :
    ∃ hist s, Run UsedSvState.step (fun _ _ ↦ True) .init hist s ∧
      .out [sampleSv true] ∈ hist ∧ IsMarkedExactly hist := by
  have hfix : Run UsedSvState.step (fun _ _ ↦ True) .init
      ([] ++ entry (.reportPosition ⟨false, false, 0, 0⟩ sampleReport) []) _ :=
    Run.start.step trivial rfl
  have hrun : Run UsedSvState.step (fun _ _ ↦ True) .init
      (_ ++ entry (.reportSv (sampleNotify false)) [[sampleSv true]]) _ := hfix.step trivial rfl
  refine ⟨_, _, hrun, mem_append_right _ (mem_cons_of_mem _ mem_cons_self),
    (used_in_fix_iff hrun).2.mpr fun before svNotify after hhist sv hmem hused ↦ ?_⟩
  rcases append_entry_eq hhist with ⟨mid, hmid, -⟩ | ⟨-, he, -⟩
  · rcases append_entry_eq hmid with ⟨mid', hmid', -⟩ | ⟨-, he, -⟩
    · exact absurd hmid' (append_ne_nil_of_right_ne_nil _ (cons_ne_nil _ _)).symm
    · cases he
  · obtain rfl := SvEvent.reportSv.inj he
    obtain rfl := mem_singleton.mp hmem
    cases hused

/-- A satellite with a mark, and no position -/
theorem not_used_in_fix_marked :
    ∃ hist s, Run UsedSvState.step (fun _ _ ↦ True) .init hist s ∧ ¬ IsMarkedExactly hist := by
  have hrun : Run UsedSvState.step (fun _ _ ↦ True) .init
      ([] ++ entry (.reportSv (sampleNotify true)) [[sampleSv true]]) _ :=
    Run.start.step trivial rfl
  refine ⟨_, _, hrun, fun hexact ↦ ?_⟩
  have hmarks := hexact [] (sampleNotify true) [sampleSv true] [] rfl
  obtain ⟨used, hkept, -⟩ := (forall₂_cons.mp hmarks).1.1.mp rfl
  cases hkept

end MataDevice.Gnss
