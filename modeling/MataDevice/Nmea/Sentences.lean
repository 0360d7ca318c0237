import MataDevice.Nmea.Gsv

/-!
# What the GSV sentences say

A sentence is described by the numbers in its head and by the places in the report of the satellites
that are printed in it. The texts of `loc_nmea_generate_sv` are the texts of such sentences: the
satellites that are printed for a signal, in the order of the report, are cut into groups of four,
and there are as many groups as the number of satellites that were counted asks for. No text is cut
off at the end of the buffer.
-/

namespace MataDevice.Nmea

open List
open MataDevice.Gnss (GnssSvType)
open MataDevice.Format (bytes signed hex snprintf)

/-! ## Descriptions of sentences -/

namespace GnssSvNotification

variable (svNotify : GnssSvNotification)

/-- The place of an SV in the report. -/
abbrev Place : Type := Fin svNotify.gnssSvs.length

def sv (i : svNotify.Place) : GnssSv := svNotify.gnssSvs.get i

end GnssSvNotification

/-- A GSV sentence about a report. An SV is printed with the offset that is taken off its id. -/
structure Gsv (svNotify : GnssSvNotification) where
  signal : GsvSignal
  sentenceCount : ℕ
  sentenceNumber : ℕ
  svCount : ℕ
  svs : List (svNotify.Place × UInt32)
  deriving DecidableEq

namespace GsvSignal

def talker : GsvSignal → List UInt8
  | gpsL1ca | gpsL5 | gpsL2 => bytes ['G', 'P']
  | glonassG1 | glonassG2 => bytes ['G', 'L']
  | galileoE1 | galileoE5a | galileoE5b => bytes ['G', 'A']
  | qzssL1ca | qzssL5 | qzssL2 => bytes ['G', 'Q']
  | beidouB1i | beidouB1c | beidouB2ai => bytes ['G', 'B']
  | navicL5 => bytes ['G', 'I']

def signalId (signal : GsvSignal) : UInt32 := convertSignalTypeToSignalId signal.signal.mask

def svTypeMask (signal : GsvSignal) : UInt32 :=
  match signal.svType with
  | .gps => 1 <<< svTypeValue .gps ||| 1 <<< svTypeValue .sbas
  | svType => 1 <<< svTypeValue svType

/-- What is taken off the ids of the SVs. -/
def svIdOffset (signal : GsvSignal) : UInt32 :=
  match signal.svType with
  | .glonass => 64
  | .galileo => 300
  | .qzss => 192
  | .beidou => 200
  | .navic => 400
  | _ => 0

end GsvSignal

def GnssSv.text (sv : GnssSv) (svIdOffset : UInt32) : List UInt8 :=
  sv.positionText svIdOffset ++ if sv.cN0Dbhz > 0 then sv.cN0Text else []

/-- A sentence with its checksum and its end. -/
def withChecksum (sentence : List UInt8) : List UInt8 :=
  sentence ++
    (bytes ['*'] ++ hex 2 ((sentence.drop 1).foldl (· ^^^ ·) 0 : UInt8).toNat ++ [13, 10])

namespace Gsv

variable {svNotify : GnssSvNotification}

def svsText (svs : List (svNotify.Place × UInt32)) : List UInt8 :=
  svs.flatMap fun p ↦ (svNotify.sv p.1).text p.2

theorem svsText_cons (p : svNotify.Place × UInt32) (svs : List (svNotify.Place × UInt32)) :
    svsText (p :: svs) = (svNotify.sv p.1).text p.2 ++ svsText svs := flatMap_cons

/-- A sentence without its checksum. -/
def body (g : Gsv svNotify) : List UInt8 :=
  gsvHead g.signal.talker g.sentenceCount g.sentenceNumber g.svCount ++ svsText g.svs ++
    (bytes [','] ++ hex 0 g.signal.signalId.toNat)

def text (g : Gsv svNotify) : List UInt8 := withChecksum g.body

end Gsv

/-! ## Lengths -/

theorem natAbs_roundToInt_lt (x : ℚ) : (roundToInt x).natAbs < 10 ^ 10 := by
  rw [roundToInt]
  omega

variable {svIdOffset : UInt32}

/-- The id that is printed, for an offset that the code uses. -/
theorem toInt_svId_sub (svId : UInt16) (h : svIdOffset ≤ 400) :
    (svId.toUInt32 - svIdOffset).toInt32.toInt = (svId.toNat : ℤ) - svIdOffset.toNat := by
  have hsvId := svId.toNat_lt
  have hoffset : svIdOffset.toNat ≤ 400 := h
  have hleft : svId.toUInt32.toBitVec.toInt = svId.toNat := by
    rw [BitVec.toInt_eq_toNat_of_lt]
    · simp
    · simp only [UInt32.toNat_toBitVec, UInt16.toNat_toUInt32]
      omega
  have hright : svIdOffset.toBitVec.toInt = svIdOffset.toNat := by
    rw [BitVec.toInt_eq_toNat_of_lt]
    · simp
    · simp only [UInt32.toNat_toBitVec]
      omega
  change (svId.toUInt32 - svIdOffset).toBitVec.toInt = _
  rw [UInt32.toBitVec_sub, BitVec.toInt_sub, hleft, hright, Int.bmod_eq_of_le (by omega) (by omega)]

theorem length_svId_le (svId : UInt16) (h : svIdOffset ≤ 400) :
    (signed 2 (svId.toUInt32 - svIdOffset).toInt32.toInt).length ≤ 5 := by
  have hsvId := svId.toNat_lt
  have hoffset : svIdOffset.toNat ≤ 400 := h
  rw [toInt_svId_sub svId h]
  by_cases hle : svIdOffset.toNat ≤ svId.toNat
  · obtain ⟨n, hn⟩ := Nat.exists_eq_add_of_le hle
    have hcast : (svId.toNat : ℤ) - svIdOffset.toNat = (n : ℕ) := by omega
    rw [hcast]
    exact Format.length_signed_natCast_le (k := 5) (by omega) (by omega)
  · exact Format.length_signed_le (k := 4) (by omega) (by omega)

theorem length_positionText_le (sv : GnssSv) (h : svIdOffset ≤ 400) :
    (sv.positionText svIdOffset).length ≤ 31 := by
  have hsvId := length_svId_le sv.svId h
  have helevation := Format.length_signed_le (w := 2) (by omega)
    (natAbs_roundToInt_lt sv.elevation)
  have hazimuth := Format.length_signed_le (w := 3) (by omega) (natAbs_roundToInt_lt sv.azimuth)
  simp only [GnssSv.positionText, length_append, bytes, length_map, length_singleton]
  split_ifs
  · rw [length_nil]
    omega
  · omega

theorem length_cN0Text_le (sv : GnssSv) : sv.cN0Text.length ≤ 11 :=
  Format.length_signed_le (w := 2) (by omega) (natAbs_roundToInt_lt sv.cN0Dbhz)

theorem length_text_le (sv : GnssSv) (hoffset : svIdOffset ≤ 400) :
    (sv.text svIdOffset).length ≤ 42 := by
  have hposition := length_positionText_le sv hoffset
  have hcN0 := length_cN0Text_le sv
  rw [GnssSv.text, length_append]
  split_ifs
  · omega
  · rw [length_nil]
    omega

theorem length_gsvHead_le {talker : List UInt8} (htalker : talker.length = 2)
    {sentenceCount sentenceNumber svCount : ℕ} (hcount : sentenceCount < 100)
    (hnumber : sentenceNumber < 100) (hsvCount : svCount < 1000) :
    (gsvHead talker sentenceCount sentenceNumber svCount).length ≤ 16 := by
  have hcount' := Format.length_signed_natCast_le (w := 0) (k := 2) (by omega) hcount
  have hnumber' := Format.length_signed_natCast_le (w := 0) (k := 2) (by omega) hnumber
  have hsvCount' := Format.length_signed_natCast_le (w := 2) (k := 3) (by omega) hsvCount
  simp only [gsvHead, length_append, bytes, length_map, length_cons, length_nil,
    htalker]
  omega

/-! ## The loops -/

theorem print_of_lt {bufSize : ℕ} {sentence text : List UInt8}
    (h : sentence.length + text.length < bufSize) :
    print bufSize sentence text = some (sentence ++ text) :=
  if_neg (by omega)

namespace GnssSvNotification

variable {svNotify : GnssSvNotification}

/-- The SVs that are printed one after the other, with their offsets: an SBAS satellite changes the
offset for all that come after it. -/
def withOffsets : UInt32 → List svNotify.Place → List (svNotify.Place × UInt32)
  | _, [] => []
  | svIdOffset, i :: is =>
    let svIdOffset := if (svNotify.sv i).type = .sbas then 87 else svIdOffset
    (i, svIdOffset) :: withOffsets svIdOffset is

theorem map_fst_withOffsets (svIdOffset : UInt32) (is : List svNotify.Place) :
    (withOffsets svIdOffset is).map Prod.fst = is := by
  induction is generalizing svIdOffset with
  | nil => rfl
  | cons i is ih => rw [withOffsets, map_cons, ih]

end GnssSvNotification

open GnssSvNotification

namespace LocNmeaSvMeta

variable {svNotify : GnssSvNotification} (svMeta : LocNmeaSvMeta)

/-- Whether an SV is printed in the sentences. -/
def prints (sv : GnssSv) : Bool :=
  match sv.signalType with
  | none => false
  | some signalType => svMeta.selects sv.type signalType

variable (svNotify) in
/-- The SVs at some places of the report that are printed, with their offsets. -/
def printed (svIdOffset : UInt32) (is : List svNotify.Place) : List (svNotify.Place × UInt32) :=
  withOffsets svIdOffset (is.filter fun i ↦ svMeta.prints (svNotify.sv i))

variable {svMeta} {bufSize : ℕ} {svIdOffset : UInt32}

theorem printed_cons_of_prints {i : svNotify.Place} (h : svMeta.prints (svNotify.sv i) = true)
    (is : List svNotify.Place) :
    svMeta.printed svNotify svIdOffset (i :: is) =
      (i, if (svNotify.sv i).type = .sbas then 87 else svIdOffset) ::
        svMeta.printed svNotify (if (svNotify.sv i).type = .sbas then 87 else svIdOffset) is := by
  rw [printed, filter_cons_of_pos (p := fun i ↦ svMeta.prints (svNotify.sv i)) h]
  rfl

theorem printed_cons_of_not_prints {i : svNotify.Place}
    (h : svMeta.prints (svNotify.sv i) = false) (is : List svNotify.Place) :
    svMeta.printed svNotify svIdOffset (i :: is) = svMeta.printed svNotify svIdOffset is := by
  have hneg : ¬svMeta.prints (svNotify.sv i) = true := by
    rw [h]
    exact Bool.false_ne_true
  rw [printed, filter_cons_of_neg (p := fun i ↦ svMeta.prints (svNotify.sv i)) hneg]
  rfl

variable {sentence : List UInt8}

/-- What is printed of an SV fits. -/
theorem printSvs_cons_of_prints {i : ℕ} (hi : i < 4) {sv : GnssSv} (h : svMeta.prints sv = true)
    (hoffset : svIdOffset ≤ 400) (hlength : sentence.length + 42 < bufSize)
    (svs : List GnssSv) :
    svMeta.printSvs bufSize i svIdOffset sentence (sv :: svs) =
      svMeta.printSvs bufSize (i + 1) (if sv.type = .sbas then 87 else svIdOffset)
        (sentence ++ sv.text (if sv.type = .sbas then 87 else svIdOffset)) svs := by
  obtain ⟨signalType, hsignal, hselects⟩ :
      ∃ signalType, sv.signalType = some signalType ∧ svMeta.selects sv.type signalType = true := by
    rw [prints] at h
    split at h
    · cases h
    · next signalType hsignal => exact ⟨signalType, hsignal, h⟩
  have hoffset' : (if sv.type = .sbas then 87 else svIdOffset) ≤ 400 := by
    split_ifs
    · decide
    · exact hoffset
  have hposition := length_positionText_le sv hoffset'
  have hcN0 := length_cN0Text_le sv
  rw [printSvs, if_pos hi, hsignal]
  dsimp only
  rw [if_pos hselects, print_of_lt (by omega)]
  dsimp only
  by_cases hpos : sv.cN0Dbhz > 0
  · rw [if_pos hpos, print_of_lt (by rw [length_append]; omega), GnssSv.text, if_pos hpos,
      append_assoc]
  · rw [if_neg hpos, GnssSv.text, if_neg hpos, List.append_nil]

theorem printSvs_cons_of_not_prints {i : ℕ} (hi : i < 4) {sv : GnssSv}
    (h : svMeta.prints sv = false) (sentence : List UInt8) (svs : List GnssSv) :
    svMeta.printSvs bufSize i svIdOffset sentence (sv :: svs) =
      svMeta.printSvs bufSize i svIdOffset sentence svs := by
  rw [printSvs, if_pos hi]
  rw [prints] at h
  cases hsignal : sv.signalType with
  | none => rfl
  | some signalType =>
    rw [hsignal] at h
    dsimp only at h ⊢
    rw [if_neg (by rw [h]; simp)]

variable (svMeta) in
/-- The inner loop prints the next SVs, as many as there is room for, and leaves the others. -/
theorem printSvs_eq (is : List svNotify.Place) {i : ℕ}
    (hoffset : svIdOffset ≤ 400) (hlength : sentence.length + 42 * (4 - i) < bufSize) :
    ∃ svIdOffset' is', svIdOffset' ≤ 400 ∧
      svMeta.printSvs bufSize i svIdOffset sentence (is.map svNotify.sv) =
        some (sentence ++ Gsv.svsText ((svMeta.printed svNotify svIdOffset is).take (4 - i)),
          svIdOffset', is'.map svNotify.sv) ∧
      svMeta.printed svNotify svIdOffset' is' =
        (svMeta.printed svNotify svIdOffset is).drop (4 - i) ∧
      (Gsv.svsText ((svMeta.printed svNotify svIdOffset is).take (4 - i))).length ≤ 42 * (4 - i) := by
  induction is generalizing i sentence svIdOffset with
  | nil =>
    refine ⟨svIdOffset, [], hoffset, ?_, ?_, ?_⟩
    · simp [printSvs, printed, withOffsets, Gsv.svsText]
    · simp [printed, withOffsets]
    · simp [printed, withOffsets, Gsv.svsText]
  | cons j is ih =>
    rw [map_cons]
    by_cases hi : i < 4
    · cases hprints : svMeta.prints (svNotify.sv j) with
      | false =>
        rw [printSvs_cons_of_not_prints hi hprints, printed_cons_of_not_prints hprints]
        exact ih hoffset hlength
      | true =>
        have hroom : 4 - i = (4 - (i + 1)) + 1 := by omega
        have hoffset' : (if (svNotify.sv j).type = .sbas then 87 else svIdOffset) ≤ 400 := by
          split_ifs
          · decide
          · exact hoffset
        have htext := length_text_le (svNotify.sv j) hoffset'
        rw [printSvs_cons_of_prints hi hprints hoffset (by omega), printed_cons_of_prints hprints,
          hroom, take_succ_cons, drop_succ_cons, Gsv.svsText_cons]
        have hlength' : (sentence ++ (svNotify.sv j).text
            (if (svNotify.sv j).type = .sbas then 87 else svIdOffset)).length +
              42 * (4 - (i + 1)) < bufSize := by
          rw [length_append]
          omega
        obtain ⟨svIdOffset', is', hle, hprint, hrest, hshort⟩ := ih hoffset' hlength'
        refine ⟨svIdOffset', is', hle, ?_, hrest, ?_⟩
        · rw [hprint, append_assoc]
        · rw [length_append]
          dsimp only
          omega
    · have hroom : 4 - i = 0 := by omega
      refine ⟨svIdOffset, j :: is, hoffset, ?_, ?_, ?_⟩
      · rw [printSvs, if_neg hi, hroom, take_zero, map_cons]
        simp [Gsv.svsText]
      · rw [hroom, drop_zero]
      · rw [hroom]
        rfl

theorem locNmeaPutChecksum_of_lt {maxSize : ℕ} (hpos : 0 < sentence.length)
    (h : sentence.length + 5 < maxSize) :
    locNmeaPutChecksum sentence maxSize = withChecksum sentence := by
  have hhex := Format.length_hex_two (UInt8.toNat_lt ((sentence.drop 1).foldl (· ^^^ ·) 0))
  rw [locNmeaPutChecksum, withChecksum, Format.snprintf_of_lt]
  simp only [length_append, hhex, bytes, length_map, length_cons, length_nil,
    length_drop]
  omega

/-- The outer loop prints the sentences that are left. -/
theorem printSentences_eq {signal : GsvSignal} (htalker : svMeta.talker = signal.talker)
    (hsignal : svMeta.signalId = signal.signalId) (hsvCount : svMeta.svCount < 1000)
    {sentenceCount left : ℕ} (hcount : sentenceCount < 100) (hleft : left ≤ sentenceCount)
    (hoffset : svIdOffset ≤ 400) (is : List svNotify.Place) :
    svMeta.printSentences nmeaSentenceMaxLength sentenceCount left svIdOffset (is.map svNotify.sv) =
      (List.range left).map fun k ↦ Gsv.text (⟨signal, sentenceCount, sentenceCount - left + k + 1,
        svMeta.svCount, ((svMeta.printed svNotify svIdOffset is).drop (4 * k)).take 4⟩ :
          Gsv svNotify) := by
  induction left generalizing svIdOffset is with
  | zero => rfl
  | succ left ih =>
    have hhead : (gsvHead signal.talker sentenceCount (sentenceCount - left)
        svMeta.svCount).length ≤ 16 :=
      length_gsvHead_le (by cases signal <;> rfl) hcount (by omega) hsvCount
    have hid : (bytes [','] ++ hex 0 signal.signalId.toNat).length = 2 := by
      cases signal <;> rfl
    have hlength : (gsvHead signal.talker sentenceCount (sentenceCount - left)
        svMeta.svCount).length + 42 * (4 - 0) < nmeaSentenceMaxLength := by
      rw [nmeaSentenceMaxLength]
      omega
    obtain ⟨svIdOffset', is', hle, hprint, hrest, hshort⟩ :=
      printSvs_eq svMeta is hoffset hlength
    have hprinted : print nmeaSentenceMaxLength [] (gsvHead signal.talker sentenceCount
        (sentenceCount - left) svMeta.svCount) = some (gsvHead signal.talker sentenceCount
          (sentenceCount - left) svMeta.svCount) :=
      print_of_lt (by rw [length_nil]; omega)
    rw [printSentences, htalker, hsignal, hprinted, Option.bind_some, hprint]
    dsimp only
    rw [ih (by omega) hle, hrest, range_succ_eq_map, map_cons, map_map]
    have hnumber : sentenceCount - (left + 1) + 0 + 1 = sentenceCount - left := by omega
    rw [nmeaSentenceMaxLength] at hlength ⊢
    congr 1
    · rw [Format.snprintf_of_lt (by rw [hid, length_append]; omega), locNmeaPutChecksum_of_lt,
        Gsv.text, Gsv.body, hnumber, Nat.mul_zero, drop_zero]
      · rw [length_append, hid]
        omega
      · rw [length_append, hid, length_append]
        omega
    · refine map_congr_left fun k _ ↦ ?_
      have hnumber' : sentenceCount - left + k + 1 = sentenceCount - (left + 1) + (k + 1) + 1 := by
        omega
      have hdrop : 4 - 0 + 4 * k = 4 * (k + 1) := by omega
      rw [Function.comp_apply, hnumber', drop_drop, hdrop]

end LocNmeaSvMeta

/-! ## Counting -/

/-- The signal as which an SV is counted. -/
def GnssSv.countedAs (sv : GnssSv) : Option GsvSignal :=
  match sv.type with
  | .gps | .sbas =>
    if sv.gnssSignalTypeMask = GnssSignal.gpsL5.mask then some .gpsL5
    else if sv.gnssSignalTypeMask = GnssSignal.gpsL2.mask then some .gpsL2
    else some .gpsL1ca
  | .glonass =>
    if sv.gnssSignalTypeMask = GnssSignal.glonassG2.mask then some .glonassG2 else some .glonassG1
  | .galileo =>
    if sv.gnssSignalTypeMask = GnssSignal.galileoE5a.mask then some .galileoE5a
    else if sv.gnssSignalTypeMask = GnssSignal.galileoE5b.mask then some .galileoE5b
    else some .galileoE1
  | .qzss =>
    if sv.gnssSignalTypeMask = GnssSignal.qzssL5.mask then some .qzssL5
    else if sv.gnssSignalTypeMask = GnssSignal.qzssL2.mask then some .qzssL2
    else some .qzssL1ca
  | .beidou =>
    if sv.gnssSignalTypeMask = GnssSignal.beidouB2ai.mask ∨
        sv.gnssSignalTypeMask = GnssSignal.beidouB2aq.mask then some .beidouB2ai
    else if sv.gnssSignalTypeMask = GnssSignal.beidouB1c.mask then some .beidouB1c
    else some .beidouB1i
  | .navic => some .navicL5
  | .unknown => none

namespace LocSvCacheInfo

/-- The counter of a signal. -/
def count (info : LocSvCacheInfo) : GsvSignal → ℕ
  | .gpsL1ca => info.gpsL1Count
  | .gpsL5 => info.gpsL5Count
  | .gpsL2 => info.gpsL2Count
  | .glonassG1 => info.gloG1Count
  | .glonassG2 => info.gloG2Count
  | .galileoE1 => info.galE1Count
  | .galileoE5a => info.galE5Count
  | .galileoE5b => info.galE5bCount
  | .qzssL1ca => info.qzssL1Count
  | .qzssL5 => info.qzssL5Count
  | .qzssL2 => info.qzssL2Count
  | .beidouB1i => info.bdsB1iCount
  | .beidouB1c => info.bdsB1cCount
  | .beidouB2ai => info.bdsB2Count
  | .navicL5 => info.navicL5Count

/-- One SV more has been counted, as the given signal. -/
def Counts (info info' : LocSvCacheInfo) (counted : Option GsvSignal) : Prop :=
  ∀ signal, info'.count signal = info.count signal + if counted = some signal then 1 else 0

theorem Counts.ite {info a b : LocSvCacheInfo} {s t : Option GsvSignal} {p : Prop} [Decidable p]
    (ha : Counts info a s) (hb : Counts info b t) :
    Counts info (if p then a else b) (if p then s else t) := by
  split_ifs
  · exact ha
  · exact hb

theorem counts_countSv (info : LocSvCacheInfo) (sv : GnssSv) :
    Counts info (info.countSv sv) sv.countedAs := by
  rw [countSv, GnssSv.countedAs]
  cases sv.usedInFix
  all_goals
    cases sv.type
    all_goals
      repeat' apply Counts.ite
      all_goals
        intro signal
        cases signal <;> rfl

theorem count_foldl (svs : List GnssSv) (info : LocSvCacheInfo) (signal : GsvSignal) :
    (svs.foldl countSv info).count signal =
      info.count signal + svs.countP fun sv ↦ sv.countedAs = some signal := by
  induction svs generalizing info with
  | nil => rfl
  | cons sv svs ih =>
    rw [foldl_cons, ih, counts_countSv, countP_cons]
    simp only [decide_eq_true_eq]
    omega

end LocSvCacheInfo

/-! ## The sentences of a report -/

theorem isSome_locNmeaSvMetaInit (info : LocSvCacheInfo) (signal : GsvSignal) :
    (info.locNmeaSvMetaInit signal.svType signal.signal.mask false).isSome = true := by
  cases signal <;> rfl

namespace GnssSvNotification

section

variable (svNotify : GnssSvNotification) (signal : GsvSignal)

/-- What the sentences of a signal are made from. -/
def svMeta : LocNmeaSvMeta := Option.get _ (isSome_locNmeaSvMetaInit svNotify.cacheInfo signal)

/-- The SVs that are printed for a signal, if there are enough sentences for them. -/
def printedSvs : List (svNotify.Place × UInt32) :=
  (svNotify.svMeta signal).printed svNotify (svNotify.svMeta signal).startOffset (List.finRange _)

/-- The sentences of a signal. -/
def gsvsOf : List (Gsv svNotify) :=
  (List.range (svNotify.svMeta signal).sentenceCount).map fun k ↦
    ⟨signal, (svNotify.svMeta signal).sentenceCount, k + 1, (svNotify.svMeta signal).svCount,
      ((svNotify.printedSvs signal).drop (4 * k)).take 4⟩

def gsvs : List (Gsv svNotify) := GsvSignal.all.flatMap svNotify.gsvsOf

end

variable {svNotify : GnssSvNotification} {signal : GsvSignal}

@[simp] theorem talker_svMeta : (svNotify.svMeta signal).talker = signal.talker := by
  cases signal <;> rfl

@[simp] theorem signalId_svMeta : (svNotify.svMeta signal).signalId = signal.signalId := by
  cases signal <;> rfl

@[simp] theorem svTypeMask_svMeta : (svNotify.svMeta signal).svTypeMask = signal.svTypeMask := by
  cases signal <;> rfl

@[simp] theorem svIdOffset_svMeta : (svNotify.svMeta signal).svIdOffset = signal.svIdOffset := by
  cases signal <;> rfl

theorem startOffset_svMeta_le : (svNotify.svMeta signal).startOffset ≤ 400 := by
  rw [LocNmeaSvMeta.startOffset, svTypeMask_svMeta, svIdOffset_svMeta]
  cases signal <;> decide

theorem svCount_svMeta : (svNotify.svMeta signal).svCount =
    svNotify.gnssSvs.countP fun sv ↦ sv.countedAs = some signal := by
  have hcount := LocSvCacheInfo.count_foldl svNotify.gnssSvs .zero signal
  have hzero : LocSvCacheInfo.zero.count signal = 0 := by
    cases signal <;> rfl
  have hmeta : (svNotify.svMeta signal).svCount = svNotify.cacheInfo.count signal := by
    cases signal <;> rfl
  rw [hmeta, cacheInfo, hcount, hzero, Nat.zero_add]

theorem svCount_svMeta_le : (svNotify.svMeta signal).svCount ≤ 128 := by
  rw [svCount_svMeta]
  exact countP_le_length.trans svNotify.count_le

theorem sentenceCount_eq (svMeta : LocNmeaSvMeta) :
    svMeta.sentenceCount = (svMeta.svCount + 3) / 4 := by
  rw [LocNmeaSvMeta.sentenceCount]
  split_ifs <;> omega

theorem map_sv_finRange (svNotify : GnssSvNotification) :
    (List.finRange svNotify.gnssSvs.length).map svNotify.sv = svNotify.gnssSvs :=
  map_getElem_finRange _

theorem locNmeaGenerateGSV_eq :
    (svNotify.svMeta signal).locNmeaGenerateGSV svNotify nmeaSentenceMaxLength =
      (svNotify.gsvsOf signal).map Gsv.text := by
  have hle : (svNotify.svMeta signal).svCount ≤ 128 := svCount_svMeta_le
  have hsentences := sentenceCount_eq (svNotify.svMeta signal)
  rw [LocNmeaSvMeta.locNmeaGenerateGSV, gsvsOf, map_map]
  split_ifs with hzero
  · have hnone : (svNotify.svMeta signal).sentenceCount = 0 := by omega
    rw [hnone]
    rfl
  · have hcount : (svNotify.svMeta signal).sentenceCount < 100 := by omega
    rw [← map_sv_finRange, LocNmeaSvMeta.printSentences_eq talker_svMeta signalId_svMeta (by omega)
      hcount le_rfl startOffset_svMeta_le]
    refine map_congr_left fun k _ ↦ ?_
    rw [Nat.sub_self, Nat.zero_add]
    rfl

/-- The texts that are generated are those of the sentences. -/
theorem locNmeaGenerateSv_eq (svNotify : GnssSvNotification) :
    locNmeaGenerateSv svNotify = svNotify.gsvs.map Gsv.text := by
  rw [locNmeaGenerateSv, gsvs, map_flatMap]
  refine flatMap_congr fun signal _ ↦ ?_
  have hmeta : svNotify.cacheInfo.locNmeaSvMetaInit signal.svType signal.signal.mask false =
      some (svNotify.svMeta signal) := (Option.some_get _).symm
  rw [hmeta]
  exact locNmeaGenerateGSV_eq

end GnssSvNotification

end MataDevice.Nmea
