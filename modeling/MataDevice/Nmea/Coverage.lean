import MataDevice.Nmea.Sentences

/-!
# Which reports the GSV sentences cover

A satellite is counted by its mask and printed by the signal id of its mask. Where the two do not
agree, the head of a sentence announces a satellite that is printed nowhere, or under another
signal: a mask that is none of the signals counted apart counts as the default signal, whatever its
id is. So the sentences cover exactly the reports in which each such mask has the id of the default
signal.
-/

namespace MataDevice.Nmea

open List
open MataDevice.Gnss (GnssSvType)
open MataDevice.Format (bytes signed hex)

/-! ## What a text tells -/

namespace GsvSignal

theorem length_talker (signal : GsvSignal) : signal.talker.length = 2 := by
  cases signal <;> rfl

theorem length_suffix (signal : GsvSignal) :
    (bytes [','] ++ hex 0 signal.signalId.toNat).length = 2 := by
  cases signal <;> rfl

theorem comma_not_mem_talker (signal : GsvSignal) : 44 ∉ signal.talker := by
  cases signal <;> decide

/-- No two signals of a constellation have the same id. -/
theorem eq_of_svType_of_signalId {s t : GsvSignal} (hsvType : s.svType = t.svType)
    (hsignalId : s.signalId = t.signalId) : s = t := by
  cases s <;> cases t <;>
    first | rfl | exact absurd hsvType (by decide) | exact absurd hsignalId (by decide)

/-- The talker and the end of a sentence tell its signal. -/
theorem eq_of_talker_of_suffix {s t : GsvSignal} (htalker : s.talker = t.talker)
    (hsuffix : bytes [','] ++ hex 0 s.signalId.toNat = bytes [','] ++ hex 0 t.signalId.toNat) :
    s = t := by
  cases s <;> cases t <;>
    first | rfl | exact absurd htalker (by decide) | exact absurd hsuffix (by decide)

end GsvSignal

theorem comma_not_mem_signed (w : ℕ) (n : ℤ) : 44 ∉ signed w n :=
  Format.not_mem_signed (by decide) (by decide)

theorem count_comma_signed (w : ℕ) (n : ℤ) : (signed w n).count 44 = 0 :=
  count_eq_zero_of_not_mem (comma_not_mem_signed w n)

theorem count_comma_text (sv : GnssSv) (svIdOffset : UInt32) :
    (sv.text svIdOffset).count 44 = 4 := by
  have hcomma : (bytes [',']).count 44 = 1 := rfl
  have hsvId : ∀ p : Prop, ∀ _ : Decidable p, ∀ n : ℤ,
      (if p then [] else signed 2 n).count 44 = 0 := by
    intro p _ n
    split_ifs
    · rfl
    · exact count_comma_signed 2 n
  have hcN0 : (if sv.cN0Dbhz > 0 then sv.cN0Text else []).count 44 = 0 := by
    split_ifs
    · exact count_comma_signed _ _
    · rfl
  rw [GnssSv.text, GnssSv.positionText]
  simp only [count_append, hcN0, hcomma, count_comma_signed, hsvId]

theorem exists_text_eq_cons (sv : GnssSv) (svIdOffset : UInt32) :
    ∃ rest, sv.text svIdOffset = 44 :: rest :=
  ⟨_, rfl⟩

namespace Gsv

variable {svNotify : GnssSvNotification} {g g' : Gsv svNotify}

theorem count_comma_svsText (svs : List (svNotify.Place × UInt32)) :
    (svsText svs).count 44 = 4 * svs.length := by
  induction svs with
  | nil => rfl
  | cons p svs ih =>
    rw [svsText_cons, count_append, count_comma_text, ih, length_cons]
    omega

/-- The head of a sentence is followed by a separator. -/
theorem exists_svsText_eq_cons (svs : List (svNotify.Place × UInt32)) (signal : GsvSignal) :
    ∃ rest, svsText svs ++ (bytes [','] ++ hex 0 signal.signalId.toNat) = 44 :: rest := by
  cases svs with
  | nil => exact ⟨_, rfl⟩
  | cons p svs =>
    obtain ⟨rest, hrest⟩ := exists_text_eq_cons (svNotify.sv p.1) p.2
    rw [svsText_cons, hrest]
    exact ⟨_, rfl⟩

theorem count_comma_gsvHead (signal : GsvSignal) (sentenceCount sentenceNumber svCount : ℕ) :
    (gsvHead signal.talker sentenceCount sentenceNumber svCount).count 44 = 3 := by
  have htalker := count_eq_zero_of_not_mem signal.comma_not_mem_talker
  have hcomma : (bytes [',']).count 44 = 1 := rfl
  have hdollar : (bytes ['$']).count 44 = 0 := rfl
  have hgsv : (bytes ['G', 'S', 'V', ',']).count 44 = 1 := rfl
  simp only [gsvHead, count_append, htalker, hcomma, hdollar, hgsv, count_comma_signed]

theorem body_eq_of_text_eq (h : g.text = g'.text) : g.body = g'.body := by
  have hlength : ∀ body : List UInt8, (bytes ['*'] ++
      hex 2 ((body.drop 1).foldl (· ^^^ ·) 0 : UInt8).toNat ++ [13, 10]).length = 5 := by
    intro body
    simp only [length_append, Format.length_hex_two (UInt8.toNat_lt _), bytes, length_map,
      length_cons, length_nil]
  exact append_inj_left' h ((hlength _).trans (hlength _).symm)

/-- A text tells the signal of the sentence and how many SVs are announced and printed. -/
theorem eq_of_text_eq (h : g.text = g'.text) :
    g.signal = g'.signal ∧ g.svCount = g'.svCount ∧ g.svs.length = g'.svs.length := by
  have hbody := body_eq_of_text_eq h
  have hlength := g.signal.length_suffix.trans g'.signal.length_suffix.symm
  have hsuffix := append_inj_right' hbody hlength
  have hfront := append_inj_left' hbody hlength
  have htalker : g.signal.talker = g'.signal.talker := by
    rw [gsvHead, gsvHead] at hfront
    simp only [append_assoc] at hfront
    have hrest := (append_inj hfront rfl).2
    exact (append_inj hrest (g.signal.length_talker.trans g'.signal.length_talker.symm)).1
  have hsignal := GsvSignal.eq_of_talker_of_suffix htalker hsuffix
  refine ⟨hsignal, ?_, ?_⟩
  · -- the third number stands between the third separator and the fourth
    obtain ⟨rest, hrest⟩ := exists_svsText_eq_cons g.svs g.signal
    obtain ⟨rest', hrest'⟩ := exists_svsText_eq_cons g'.svs g'.signal
    rw [body, body, append_assoc, append_assoc, hrest, hrest', htalker, gsvHead,
      gsvHead] at hbody
    simp only [append_assoc] at hbody
    have hnumbers := (append_inj (append_inj (append_inj hbody rfl).2 rfl).2 rfl).2
    have hsecond := (Format.append_cons_inj (comma_not_mem_signed _ _) (comma_not_mem_signed _ _)
      hnumbers).2
    have hthird := (Format.append_cons_inj (comma_not_mem_signed _ _) (comma_not_mem_signed _ _)
      hsecond).2
    have hcount := (Format.append_cons_inj (comma_not_mem_signed _ _) (comma_not_mem_signed _ _)
      hthird).1
    exact Format.signed_natCast_inj hcount
  · have hcommas := congrArg (List.count 44) hfront
    rw [count_append, count_append, count_comma_gsvHead, count_comma_gsvHead,
      count_comma_svsText, count_comma_svsText] at hcommas
    omega

end Gsv

/-! ## Counting and printing -/

/-- SBAS satellites are reported with those of GPS. -/
def constellation : GnssSvType → GnssSvType
  | .sbas => .gps
  | svType => svType

/-- The default signals of the constellations. -/
def GsvSignal.isDefault : GsvSignal → Bool
  | .gpsL1ca | .glonassG1 | .galileoE1 | .qzssL1ca | .beidouB1i | .navicL5 => true
  | _ => false

/-- Whether an SV is counted as the signal that it is printed for: there is no mask, or the mask is
one of those that are counted apart, or it has the id of the default signal. -/
def GnssSv.Agrees (sv : GnssSv) : Prop :=
  sv.gnssSignalTypeMask = 0 ∨
    match sv.type with
    | .gps | .sbas =>
      sv.gnssSignalTypeMask = GnssSignal.gpsL5.mask ∨
        sv.gnssSignalTypeMask = GnssSignal.gpsL2.mask ∨
        convertSignalTypeToSignalId sv.gnssSignalTypeMask = SignalId.gpsL1ca
    | .glonass =>
      sv.gnssSignalTypeMask = GnssSignal.glonassG2.mask ∨
        convertSignalTypeToSignalId sv.gnssSignalTypeMask = SignalId.gloG1ca
    | .galileo =>
      sv.gnssSignalTypeMask = GnssSignal.galileoE5a.mask ∨
        sv.gnssSignalTypeMask = GnssSignal.galileoE5b.mask ∨
        convertSignalTypeToSignalId sv.gnssSignalTypeMask = SignalId.galL1bc
    | .qzss =>
      sv.gnssSignalTypeMask = GnssSignal.qzssL5.mask ∨
        sv.gnssSignalTypeMask = GnssSignal.qzssL2.mask ∨
        convertSignalTypeToSignalId sv.gnssSignalTypeMask = SignalId.qzssL1ca
    | .beidou =>
      sv.gnssSignalTypeMask = GnssSignal.beidouB2ai.mask ∨
        sv.gnssSignalTypeMask = GnssSignal.beidouB2aq.mask ∨
        sv.gnssSignalTypeMask = GnssSignal.beidouB1c.mask ∨
        convertSignalTypeToSignalId sv.gnssSignalTypeMask = SignalId.bdsB1i
    | .navic => convertSignalTypeToSignalId sv.gnssSignalTypeMask = SignalId.navicL5sps
    | .unknown => True

/-- A mask that is counted apart, or else one of the others. -/
theorem or_iff_forall_mem_ite {p : Prop} [Decidable p] {P : GsvSignal → Prop} {Q : Prop}
    {s : GsvSignal} {o : Option GsvSignal} (hs : p → P s) (h : Q ↔ ∀ t ∈ o, P t) :
    p ∨ Q ↔ ∀ t ∈ (if p then some s else o), P t := by
  by_cases hp : p
  · simp [hp, hs hp]
  · simp [hp, h]

theorem eq_iff_forall_mem_some {s : GsvSignal} {signalId signalId' : UInt32}
    (hs : s.signalId = signalId) :
    signalId' = signalId ↔ ∀ t ∈ some s, t.signalId = signalId' := by
  simp [hs, eq_comm]

/-- An SV agrees if the id by which it is printed is the one of the signal that it is counted as. -/
theorem GnssSv.agrees_iff (sv : GnssSv) : sv.Agrees ↔
    ∀ signalType ∈ sv.signalType, ∀ s ∈ sv.countedAs,
      s.signalId = convertSignalTypeToSignalId signalType := by
  obtain ⟨svId, type, cN0Dbhz, elevation, azimuth, usedInFix, mask⟩ := sv
  by_cases hzero : mask = 0
  · -- the default signal, in both classifications
    subst hzero
    refine ⟨fun _ signalType hsignal s hs ↦ ?_, fun _ ↦ Or.inl rfl⟩
    cases type <;> cases hsignal <;> cases hs <;> rfl
  · have hsignal : GnssSv.signalType ⟨svId, type, cN0Dbhz, elevation, azimuth, usedInFix, mask⟩ =
        some mask := if_neg hzero
    rw [Agrees, hsignal]
    dsimp only
    rw [or_iff_right hzero]
    simp only [Option.mem_some_iff, forall_eq', countedAs]
    cases type with
    | unknown => simp
    | navic => exact eq_iff_forall_mem_some rfl
    | glonass =>
      exact or_iff_forall_mem_ite (by rintro rfl; decide) (eq_iff_forall_mem_some rfl)
    | beidou =>
      dsimp only
      rw [← or_assoc]
      refine or_iff_forall_mem_ite ?_ (or_iff_forall_mem_ite (by rintro rfl; decide)
        (eq_iff_forall_mem_some rfl))
      rintro (rfl | rfl) <;> decide
    | _ =>
      exact or_iff_forall_mem_ite (by rintro rfl; decide)
        (or_iff_forall_mem_ite (by rintro rfl; decide) (eq_iff_forall_mem_some rfl))

theorem svTypeMask_and_ne_zero_iff (signal : GsvSignal) (type : GnssSvType) :
    signal.svTypeMask &&& (1 <<< svTypeValue type) ≠ 0 ↔ signal.svType = constellation type := by
  cases signal <;> cases type <;> decide

theorem ne_unknown_of_svType {signal : GsvSignal} {type : GnssSvType}
    (h : signal.svType = constellation type) : type ≠ .unknown := by
  rintro rfl
  cases signal <;> cases h

theorem GsvSignal.eq_of_isDefault {s t : GsvSignal} (hs : s.isDefault = true)
    (ht : t.isDefault = true) (h : s.svType = t.svType) : s = t := by
  cases s <;> cases hs <;> cases t <;> cases ht <;> first | rfl | cases h

namespace GnssSv

variable {sv : GnssSv} {s : GsvSignal}

/-- An SV is counted among those of its constellation. -/
theorem svType_of_countedAs (h : sv.countedAs = some s) : s.svType = constellation sv.type := by
  obtain ⟨svId, type, cN0Dbhz, elevation, azimuth, usedInFix, mask⟩ := sv
  cases type
  all_goals
    simp only [countedAs] at h
    repeat' split at h
    all_goals
      cases h <;> rfl

theorem isSome_countedAs_iff (sv : GnssSv) : sv.countedAs.isSome = true ↔ sv.type ≠ .unknown := by
  obtain ⟨svId, type, cN0Dbhz, elevation, azimuth, usedInFix, mask⟩ := sv
  cases type
  all_goals
    simp only [countedAs]
    repeat' split
    all_goals
      simp

theorem isSome_signalType (h : sv.type ≠ .unknown) : sv.signalType.isSome = true := by
  rw [signalType]
  split_ifs
  · cases htype : sv.type <;> first | rfl | exact absurd htype h
  · rfl

/-- Only the SVs that are counted as a default signal may have another id. -/
theorem isDefault_or_agrees (h : sv.countedAs = some s) : s.isDefault = true ∨ sv.Agrees := by
  obtain ⟨svId, type, cN0Dbhz, elevation, azimuth, usedInFix, mask⟩ := sv
  cases type
  all_goals
    simp only [countedAs] at h
    repeat' split at h
    all_goals
      cases h <;> first | exact Or.inl rfl | exact Or.inr (Or.inr (by tauto))

end GnssSv

namespace GnssSvNotification

variable {svNotify : GnssSvNotification} {signal : GsvSignal} {sv : GnssSv}

/-- An SV is printed for the signals of its constellation that have the id of its mask. -/
theorem prints_svMeta_iff : (svNotify.svMeta signal).prints sv = true ↔
    ∃ signalType ∈ sv.signalType, signal.svType = constellation sv.type ∧
      signal.signalId = convertSignalTypeToSignalId signalType := by
  rw [LocNmeaSvMeta.prints]
  cases sv.signalType with
  | none => simp
  | some signalType =>
    simp only [LocNmeaSvMeta.selects, svTypeMask_svMeta, signalId_svMeta, Bool.and_eq_true,
      decide_eq_true_iff, Option.mem_some_iff, exists_eq_left']
    rw [svTypeMask_and_ne_zero_iff]

theorem prints_svMeta_of_agrees (h : sv.Agrees) :
    (svNotify.svMeta signal).prints sv = decide (sv.countedAs = some signal) := by
  rw [Bool.eq_iff_iff, decide_eq_true_iff, prints_svMeta_iff]
  rw [GnssSv.agrees_iff] at h
  constructor
  · rintro ⟨signalType, hsignal, hsvType, hid⟩
    have hknown := ne_unknown_of_svType hsvType
    obtain ⟨s, hs⟩ := Option.isSome_iff_exists.mp (sv.isSome_countedAs_iff.mpr hknown)
    have hs' := GnssSv.svType_of_countedAs hs
    rw [hs, GsvSignal.eq_of_svType_of_signalId (hs'.trans hsvType.symm)
      ((h signalType hsignal s hs).trans hid.symm)]
  · intro hs
    have hknown : sv.type ≠ .unknown := sv.isSome_countedAs_iff.mp (by rw [hs]; rfl)
    obtain ⟨signalType, hsignal⟩ := Option.isSome_iff_exists.mp (GnssSv.isSome_signalType hknown)
    exact ⟨signalType, hsignal, GnssSv.svType_of_countedAs hs, h signalType hsignal signal hs⟩

/-- An SV that does not agree is counted as a signal for which fewer are printed: it is not printed
there, and all that are printed there are counted there. -/
theorem exists_of_not_agrees (svNotify : GnssSvNotification) (h : ¬sv.Agrees) :
    ∃ s, sv.countedAs = some s ∧ (svNotify.svMeta s).prints sv = false ∧
      ∀ sv', (svNotify.svMeta s).prints sv' = true → sv'.countedAs = some s := by
  have hiff := sv.agrees_iff
  rw [iff_false_left h] at hiff
  push Not at hiff
  obtain ⟨signalType, hsignal, s, hs, hid⟩ := hiff
  have hdefault := (GnssSv.isDefault_or_agrees hs).resolve_right h
  refine ⟨s, hs, ?_, fun sv' hprints ↦ ?_⟩
  · rw [← Bool.not_eq_true, prints_svMeta_iff]
    rintro ⟨signalType', hsignal', -, hid'⟩
    obtain rfl := Option.mem_unique hsignal hsignal'
    exact hid hid'
  · by_cases hagrees : sv'.Agrees
    · rw [prints_svMeta_of_agrees hagrees] at hprints
      exact of_decide_eq_true hprints
    · obtain ⟨signalType', -, hsvType, -⟩ := prints_svMeta_iff.mp hprints
      have hknown := ne_unknown_of_svType hsvType
      obtain ⟨t, ht⟩ := Option.isSome_iff_exists.mp (sv'.isSome_countedAs_iff.mpr hknown)
      have hdefault' := (GnssSv.isDefault_or_agrees ht).resolve_right hagrees
      rw [ht, GsvSignal.eq_of_isDefault hdefault' hdefault
        ((GnssSv.svType_of_countedAs ht).trans hsvType.symm)]

end GnssSvNotification

/-! ## Covering a report -/

namespace Gsv

variable {svNotify : GnssSvNotification}

/-- The sentences of a signal. -/
def ofSignal (gs : List (Gsv svNotify)) (signal : GsvSignal) : List (Gsv svNotify) :=
  gs.filter fun g ↦ g.signal = signal

/-- The SVs that are printed in some sentences, one after the other. -/
def places (gs : List (Gsv svNotify)) : List svNotify.Place :=
  gs.flatMap fun g ↦ g.svs.map Prod.fst

/-- The sentences of each signal are numbered from one, they announce how many they are, which is as
many as it takes, and how many SVs are printed in them; and every SV of a known constellation is
printed once, in the order of the report among those of the signal. -/
structure Covers (gs : List (Gsv svNotify)) : Prop where
  numbered : ∀ signal, (ofSignal gs signal).map sentenceNumber =
    List.range' 1 (ofSignal gs signal).length
  announced : ∀ g ∈ gs, g.sentenceCount = (ofSignal gs g.signal).length ∧
    g.sentenceCount = (g.svCount + 3) / 4 ∧ g.svCount = (places (ofSignal gs g.signal)).length
  once : ∀ i, (svNotify.sv i).type ≠ .unknown → (places gs).count i = 1
  inOrder : ∀ signal, (places (ofSignal gs signal)).Pairwise (· < ·)

theorem length_places (gs : List (Gsv svNotify)) :
    (places gs).length = (gs.map fun g ↦ g.svs.length).sum := by
  simp [places, length_flatMap]

end Gsv

namespace GnssSvNotification

section

variable (svNotify : GnssSvNotification) (signal : GsvSignal)

/-- The SVs that are printed for a signal if there is room for them. -/
def printedPlaces : List svNotify.Place :=
  (List.finRange svNotify.gnssSvs.length).filter fun i ↦
    (svNotify.svMeta signal).prints (svNotify.sv i)

theorem map_fst_printedSvs : (svNotify.printedSvs signal).map Prod.fst =
    svNotify.printedPlaces signal :=
  map_fst_withOffsets _ _

theorem length_gsvsOf : (svNotify.gsvsOf signal).length =
    (svNotify.svMeta signal).sentenceCount := by
  rw [gsvsOf, length_map, length_range]

theorem eq_of_mem_gsvsOf {svNotify : GnssSvNotification} {signal : GsvSignal} {g : Gsv svNotify}
    (h : g ∈ svNotify.gsvsOf signal) : g.signal = signal ∧
      g.sentenceCount = (svNotify.svMeta signal).sentenceCount ∧
      g.svCount = (svNotify.svMeta signal).svCount := by
  obtain ⟨k, -, rfl⟩ := mem_map.mp h
  exact ⟨rfl, rfl, rfl⟩

theorem ofSignal_gsvs : Gsv.ofSignal svNotify.gsvs signal = svNotify.gsvsOf signal := by
  have hfilter : ∀ s, (svNotify.gsvsOf s).filter (fun g ↦ g.signal = signal) =
      if s = signal then svNotify.gsvsOf s else [] := by
    intro s
    split_ifs with hs
    · rw [filter_eq_self]
      exact fun g hg ↦ decide_eq_true ((eq_of_mem_gsvsOf hg).1.trans hs)
    · rw [filter_eq_nil_iff]
      exact fun g hg hsignal ↦ hs ((eq_of_mem_gsvsOf hg).1.symm.trans (of_decide_eq_true hsignal))
  rw [Gsv.ofSignal, gsvs, filter_flatMap]
  simp only [hfilter]
  cases signal <;> simp [GsvSignal.all]

/-- Groups of one size are cut off one after the other. -/
theorem flatMap_range_take_drop {α : Type} (l : List α) (size n : ℕ) :
    (List.range n).flatMap (fun k ↦ (l.drop (size * k)).take size) = l.take (size * n) := by
  induction n with
  | zero => rfl
  | succ n ih =>
    rw [range_succ, flatMap_append, ih, flatMap_singleton, Nat.mul_succ, take_add]

theorem places_gsvsOf : Gsv.places (svNotify.gsvsOf signal) =
    (svNotify.printedPlaces signal).take (4 * (svNotify.svMeta signal).sentenceCount) := by
  rw [Gsv.places, gsvsOf, flatMap_map, ← map_fst_printedSvs, ← map_take,
    ← flatMap_range_take_drop, map_flatMap]

theorem length_printedPlaces : (svNotify.printedPlaces signal).length =
    svNotify.gnssSvs.countP (svNotify.svMeta signal).prints := by
  conv_rhs => rw [← map_sv_finRange svNotify, countP_map]
  rw [printedPlaces, ← countP_eq_length_filter]
  rfl

end

variable {svNotify : GnssSvNotification}

/-! ## Reports that agree -/

section Agrees

variable (h : ∀ sv ∈ svNotify.gnssSvs, sv.Agrees)

include h

theorem printedPlaces_of_agrees (signal : GsvSignal) : svNotify.printedPlaces signal =
    (List.finRange svNotify.gnssSvs.length).filter fun i ↦
      (svNotify.sv i).countedAs = some signal := by
  refine filter_congr fun i _ ↦ ?_
  exact prints_svMeta_of_agrees (h _ (get_mem svNotify.gnssSvs i))

theorem length_printedPlaces_of_agrees (signal : GsvSignal) :
    (svNotify.printedPlaces signal).length = (svNotify.svMeta signal).svCount := by
  rw [length_printedPlaces, svCount_svMeta]
  exact countP_congr fun sv hsv ↦ by rw [prints_svMeta_of_agrees (h sv hsv)]

/-- There is room for all SVs of a signal. -/
theorem places_gsvsOf_of_agrees (signal : GsvSignal) :
    Gsv.places (svNotify.gsvsOf signal) = svNotify.printedPlaces signal := by
  have hlength := length_printedPlaces_of_agrees h signal
  have hsentences := sentenceCount_eq (svNotify.svMeta signal)
  rw [places_gsvsOf]
  exact take_of_length_le (by omega)

theorem count_places_gsvs_of_agrees (i : svNotify.Place) :
    (Gsv.places svNotify.gsvs).count i =
      (GsvSignal.all.map fun s ↦ if (svNotify.sv i).countedAs = some s then 1 else 0).sum := by
  have hplaces : Gsv.places svNotify.gsvs = GsvSignal.all.flatMap svNotify.printedPlaces := by
    rw [Gsv.places, gsvs, flatMap_assoc]
    exact flatMap_congr fun s _ ↦ places_gsvsOf_of_agrees h s
  rw [hplaces, count_flatMap]
  refine congrArg List.sum (map_congr_left fun s _ ↦ ?_)
  rw [Function.comp_apply, printedPlaces_of_agrees h]
  split_ifs with hs
  · rw [count_filter (by simpa using hs)]
    exact count_eq_one_of_mem (nodup_finRange _) (mem_finRange i)
  · refine count_eq_zero_of_not_mem fun hmem ↦ hs ?_
    simpa using (mem_filter.mp hmem).2

theorem covers_gsvs_of_agrees : Gsv.Covers svNotify.gsvs := by
  refine ⟨fun signal ↦ ?_, fun g hg ↦ ?_, fun i hi ↦ ?_, fun signal ↦ ?_⟩
  · rw [ofSignal_gsvs, length_gsvsOf, gsvsOf, map_map, range'_eq_map_range]
    exact map_congr_left fun k _ ↦ Nat.add_comm k 1
  · obtain ⟨s, -, hs⟩ := mem_flatMap.mp hg
    obtain ⟨rfl, hsentenceCount, hsvCount⟩ := eq_of_mem_gsvsOf hs
    rw [ofSignal_gsvs, length_gsvsOf, places_gsvsOf_of_agrees h,
      length_printedPlaces_of_agrees h, hsentenceCount, hsvCount]
    exact ⟨rfl, sentenceCount_eq _, rfl⟩
  · obtain ⟨s, hs⟩ := Option.isSome_iff_exists.mp ((svNotify.sv i).isSome_countedAs_iff.mpr hi)
    rw [count_places_gsvs_of_agrees h, hs]
    cases s <;> rfl
  · rw [ofSignal_gsvs, places_gsvsOf_of_agrees h, printedPlaces]
    exact (pairwise_lt_finRange _).filter _

end Agrees

/-! ## Reports that do not agree -/

variable {gs gs' : List (Gsv svNotify)}

/-- The numbers that a text tells of its sentence. -/
theorem map_numbers_of_map_text_eq (h : gs.map Gsv.text = gs'.map Gsv.text) :
    gs.map (fun g ↦ (g.signal, g.svCount, g.svs.length)) =
      gs'.map fun g ↦ (g.signal, g.svCount, g.svs.length) := by
  induction gs generalizing gs' with
  | nil =>
    rw [map_nil, eq_comm, map_eq_nil_iff] at h
    rw [h]
  | cons g gs ih =>
    cases gs' with
    | nil => cases h
    | cons g' gs' =>
      rw [map_cons, map_cons, cons_eq_cons] at h
      obtain ⟨hsignal, hsvCount, hsvs⟩ := Gsv.eq_of_text_eq h.1
      rw [map_cons, map_cons, hsignal, hsvCount, hsvs, ih h.2]

theorem map_length_ofSignal_of_map_text_eq
    (h : gs.map Gsv.text = gs'.map Gsv.text) (signal : GsvSignal) :
    (Gsv.ofSignal gs signal).map (fun g ↦ (g.svCount, g.svs.length)) =
      (Gsv.ofSignal gs' signal).map fun g ↦ (g.svCount, g.svs.length) := by
  have hfilter : ∀ gs : List (Gsv svNotify),
      (Gsv.ofSignal gs signal).map (fun g ↦ (g.svCount, g.svs.length)) =
        ((gs.map fun g ↦ (g.signal, g.svCount, g.svs.length)).filter
          fun n ↦ n.1 = signal).map Prod.snd := by
    intro gs
    rw [filter_map, map_map]
    rfl
  rw [hfilter, hfilter, map_numbers_of_map_text_eq h]

theorem countP_lt_countP {α : Type} {p q : α → Bool} {l : List α} {a : α}
    (h : ∀ x, p x = true → q x = true) (ha : a ∈ l) (hp : p a = false) (hq : q a = true) :
    l.countP p < l.countP q := by
  have hsub := monotone_filter_right l h
  rw [countP_eq_length_filter, countP_eq_length_filter]
  refine lt_of_not_ge fun hle ↦ ?_
  have hmem : a ∈ l.filter q := mem_filter.mpr ⟨ha, hq⟩
  rw [← hsub.eq_of_length_le hle, mem_filter, hp] at hmem
  exact Bool.false_ne_true hmem.2

theorem not_covers_of_not_agrees {sv : GnssSv} (hsv : sv ∈ svNotify.gnssSvs) (h : ¬sv.Agrees)
    {gs : List (Gsv svNotify)} (hgs : locNmeaGenerateSv svNotify = gs.map Gsv.text) :
    ¬Gsv.Covers gs := by
  intro hcovers
  obtain ⟨s, hs, hnot, hall⟩ := exists_of_not_agrees svNotify h
  -- fewer SVs are printed for this signal than are announced
  have hlt : (svNotify.printedPlaces s).length < (svNotify.svMeta s).svCount := by
    rw [length_printedPlaces, svCount_svMeta]
    exact countP_lt_countP (fun sv' hsv' ↦ decide_eq_true (hall sv' hsv')) hsv hnot
      (decide_eq_true hs)
  have htexts : gs.map Gsv.text = svNotify.gsvs.map Gsv.text :=
    hgs.symm.trans (locNmeaGenerateSv_eq svNotify)
  have hnumbers := map_length_ofSignal_of_map_text_eq htexts s
  rw [ofSignal_gsvs] at hnumbers
  have hprinted : (Gsv.places (Gsv.ofSignal gs s)).length =
      (Gsv.places (svNotify.gsvsOf s)).length := by
    have hlengths := congrArg (List.map Prod.snd) hnumbers
    rw [map_map, map_map] at hlengths
    rw [Gsv.length_places, Gsv.length_places]
    exact congrArg List.sum hlengths
  have hle : (Gsv.places (svNotify.gsvsOf s)).length ≤ (svNotify.printedPlaces s).length := by
    rw [places_gsvsOf]
    exact length_take_le' _ _
  -- there is a sentence of the signal, and it announces them
  obtain ⟨g, hg, hsvCount⟩ : ∃ g ∈ Gsv.ofSignal gs s, g.svCount = (svNotify.svMeta s).svCount := by
    have hsentences := sentenceCount_eq (svNotify.svMeta s)
    have hpos : 0 < (svNotify.gsvsOf s).length := by
      rw [length_gsvsOf]
      omega
    obtain ⟨g₀, hg₀⟩ := exists_mem_of_length_pos hpos
    have hmem : (g₀.svCount, g₀.svs.length) ∈
        (Gsv.ofSignal gs s).map fun g ↦ (g.svCount, g.svs.length) := by
      rw [hnumbers]
      exact mem_map_of_mem hg₀
    obtain ⟨g, hg, heq⟩ := mem_map.mp hmem
    exact ⟨g, hg, (Prod.ext_iff.mp heq).1.trans (eq_of_mem_gsvsOf hg₀).2.2⟩
  obtain ⟨hgmem, hsignal⟩ := mem_filter.mp hg
  have hannounced := (hcovers.announced g hgmem).2.2
  rw [of_decide_eq_true hsignal] at hannounced
  omega

end GnssSvNotification

/-- The texts that are generated for a report are those of sentences that cover it, if and only if
every SV is counted as the signal that it is printed for. -/
theorem gsv_covers_iff (svNotify : GnssSvNotification) :
    (∃ gs : List (Gsv svNotify), locNmeaGenerateSv svNotify = gs.map Gsv.text ∧ Gsv.Covers gs) ↔
      ∀ sv ∈ svNotify.gnssSvs, sv.Agrees := by
  constructor
  · rintro ⟨gs, htexts, hcovers⟩ sv hsv
    by_contra h
    exact GnssSvNotification.not_covers_of_not_agrees hsv h htexts hcovers
  · intro h
    exact ⟨svNotify.gsvs, GnssSvNotification.locNmeaGenerateSv_eq svNotify,
      GnssSvNotification.covers_gsvs_of_agrees h⟩

/-- A report of one GPS satellite with the signal L1C, and one with L1CA. -/
def l1cReport : GnssSvNotification where
  gnssSvs := [⟨5, .gps, 40, 30, 90, false, GnssSignal.gpsL1c.mask⟩,
    ⟨7, .gps, 40, 30, 90, false, GnssSignal.gpsL1ca.mask⟩]
  count_le := by decide

/-- Two satellites are announced and one is printed. -/
theorem not_gsv_covers :
    ¬∃ gs : List (Gsv l1cReport), locNmeaGenerateSv l1cReport = gs.map Gsv.text ∧
      Gsv.Covers gs := by
  rintro ⟨gs, htexts, hcovers⟩
  refine GnssSvNotification.not_covers_of_not_agrees mem_cons_self ?_ htexts hcovers
  rw [GnssSv.Agrees]
  decide

end MataDevice.Nmea
