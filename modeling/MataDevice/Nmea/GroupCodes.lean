import MataDevice.Nmea.Gsa
import MataDevice.Nmea.SatelliteIds

/-!
# The codes of the groups of GSA sentences

What the GSA sentences of one call say is read from their texts: the ids, and the three numbers in
the tag block. The sentences of a call list all satellites that are used, twelve in a sentence. A
group of sentences has one code, until the code comes to the end of its range: the code is set to
one behind the first tag block, so the first sentence of this group has another code than the
others. Every call with a group takes one code, so it depends on the number of these calls whether
that happens.
-/

namespace MataDevice.Nmea

open List
open MataDevice.Format (bytes signed hex)
open MataDevice.Decimal (value)

/-! ## Fields -/

/-- The ids in a GSA sentence; the fields that stay empty are left out. -/
def usedFields (text : List UInt8) : List ℕ :=
  ((((text.splitOn 44).drop 3).take 12).filter (· ≠ [])).map value

/-- The numbers in the tag block of a sentence -/
def tagFields (text : List UInt8) : List ℕ :=
  (((text.drop 3).takeWhile (· ≠ 42)).splitOn 45).map value

theorem value_signed_natCast (w n : ℕ) : value (signed w n) = n := by
  rw [signed, if_neg (by omega), Format.value_pad, Int.natAbs_natCast, Decimal.value_toText]

theorem signed_two_ne_nil (n : ℕ) : signed 2 n ≠ [] := by
  intro h
  have hlength := congrArg List.length h
  rw [signed, if_neg (by omega), Format.length_pad, length_nil] at hlength
  omega

theorem minus_not_mem_signed_natCast (n : ℕ) : 45 ∉ signed 0 n := by
  rw [signed, if_neg (by omega)]
  intro hmem
  have hdigit := Format.isDigit_of_mem_pad hmem
  revert hdigit
  decide

theorem star_not_mem_signed (w : ℕ) (n : ℤ) : 42 ∉ signed w n :=
  Format.not_mem_signed (by decide) rfl

/-- Fields with separators behind them are taken apart again. -/
theorem splitOn_fieldsText_append {fields : List (List UInt8)} (h : ∀ field ∈ fields, 44 ∉ field)
    (rest : List UInt8) :
    (fieldsText fields ++ rest).splitOn 44 = fields ++ rest.splitOn 44 := by
  induction fields with
  | nil => rfl
  | cons field fields ih =>
    rw [forall_mem_cons] at h
    have htext : fieldsText (field :: fields) ++ rest = field ++ 44 :: (fieldsText fields ++ rest) := by
      rw [fieldsText_cons]
      simp [bytes]
    rw [htext, splitOn_append_cons_self_of_not_mem h.1, ih h.2, cons_append]

theorem comma_not_mem_of_mem_gsaIdFields {ids : List ℕ} {field : List UInt8}
    (h : field ∈ gsaIdFields ids) : 44 ∉ field := by
  rcases mem_append.mp h with h | h
  · obtain ⟨id, -, rfl⟩ := mem_map.mp h
    exact comma_not_mem_signed _ _
  · rw [eq_of_mem_replicate h]
    exact not_mem_nil

/-- The fields of the ids have the ids as their values. -/
theorem map_value_gsaIdFields (ids : List ℕ) :
    ((gsaIdFields ids).filter (· ≠ [])).map value = ids.take 12 := by
  have hids : ((ids.take 12).map fun id : ℕ ↦ signed 2 id).filter (· ≠ []) =
      (ids.take 12).map fun id : ℕ ↦ signed 2 id := by
    refine filter_eq_self.mpr fun field hfield ↦ ?_
    obtain ⟨id, -, rfl⟩ := mem_map.mp hfield
    exact decide_eq_true (signed_two_ne_nil id)
  have hempty : (List.replicate (12 - ids.length) ([] : List UInt8)).filter (· ≠ []) = [] :=
    filter_replicate_of_neg (by simp)
  rw [gsaIdFields, filter_append, hids, hempty, List.append_nil, map_map]
  exact map_congr_left (fun id _ ↦ value_signed_natCast 2 id) |>.trans (map_id _)

/-- The numbers in a tag block, whatever comes after it -/
theorem tagFields_tagText_append (sentenceNumber sentenceCount code : ℕ) (rest : List UInt8) :
    tagFields (tagText sentenceNumber sentenceCount code ++ rest) =
      [sentenceNumber, sentenceCount, code] := by
  let numbers : List UInt8 :=
    signed 0 sentenceNumber ++ 45 :: (signed 0 sentenceCount ++ 45 :: signed 0 code)
  have htext : ∃ rest', tagText sentenceNumber sentenceCount code ++ rest =
      bytes ['\\', 'g', ':'] ++ (numbers ++ 42 :: rest') := by
    refine ⟨hex 2 (((tagHead sentenceNumber sentenceCount code).drop 1).foldl (· ^^^ ·) 0 :
      UInt8).toNat ++ bytes ['\\'] ++ rest, ?_⟩
    rw [tagText, tagHead]
    simp [numbers, bytes]
  obtain ⟨rest', htext⟩ := htext
  have hstar : ∀ b ∈ numbers, decide (b ≠ 42) = true := by
    intro b hb
    refine decide_eq_true ?_
    rintro rfl
    simp [numbers, star_not_mem_signed] at hb
  have hdrop : (bytes ['\\', 'g', ':'] ++ (numbers ++ 42 :: rest')).drop 3 = numbers ++ 42 :: rest' :=
    rfl
  rw [tagFields, htext, hdrop, takeWhile_append_of_pos hstar,
    takeWhile_cons_of_neg (by simp), List.append_nil,
    splitOn_append_cons_self_of_not_mem (minus_not_mem_signed_natCast _),
    splitOn_append_cons_self_of_not_mem (minus_not_mem_signed_natCast _),
    splitOn_eq_singleton (minus_not_mem_signed_natCast _)]
  simp only [map_cons, map_nil, value_signed_natCast]

/-! ## Calls -/

/-- A call of `loc_nmea_generate_GSA` in a fix, with grouping enabled -/
structure GsaCall where
  info : LocSvCacheInfo
  signal : GsvSignal
  dops : Option Dops

theorem isSome_locNmeaSvMetaInit_combined (info : LocSvCacheInfo) (signal : GsvSignal) :
    (info.locNmeaSvMetaInit signal.svType signal.signal.mask true).isSome = true := by
  cases signal <;> rfl

namespace GsaCall

section

variable (call : GsaCall)

def svMeta : LocNmeaSvMeta :=
  Option.get _ (isSome_locNmeaSvMetaInit_combined call.info call.signal)

/-- The sentences and the code after them -/
def generate (code : UInt32) : List (List UInt8) × UInt32 :=
  call.svMeta.locNmeaGenerateGSA call.dops nmeaSentenceMaxLength true code

/-- The id of a bit of the mask: they count from one, for GLONASS from 65. -/
def idOf (b : ℕ) : ℕ := b + 1 + if call.signal.svType = .glonass then 64 else 0

/-- The satellites that are used, by their ids -/
def usedIds : List ℕ :=
  ((List.range 64).filter fun b ↦ call.svMeta.mask.toBitVec.getLsbD b).map call.idOf

/-- More satellites are used than there is room for in one sentence. -/
def IsGroup : Prop := 12 < call.usedIds.length

instance : Decidable call.IsGroup := inferInstanceAs (Decidable (_ < _))

end

variable {call : GsaCall}

theorem length_talker_svMeta : call.svMeta.talker.length = 2 := by
  have hite : ∀ {p : Prop} [Decidable p] (c c' : Char),
      (bytes (if p then ['G', 'N'] else [c, c'])).length = 2 := by
    intro p _ c c'
    split_ifs <;> rfl
  obtain ⟨info, signal, dops⟩ := call
  cases signal <;> exact hite _ _

theorem systemId_svMeta_lt : call.svMeta.systemId < 10 := by
  obtain ⟨info, signal, dops⟩ := call
  cases signal <;> exact Nat.lt_of_sub_eq_succ rfl

/-- Of the offsets only that of GLONASS is used. -/
theorem gsaSvIdOffset_svMeta : call.svMeta.gsaSvIdOffset =
    UInt32.ofNat (if call.signal.svType = .glonass then 64 else 0) := by
  have htypeMask : call.svMeta.svTypeMask = call.signal.svTypeMask := by
    obtain ⟨info, signal, dops⟩ := call
    cases signal <;> rfl
  have hoffset : call.svMeta.svIdOffset = call.signal.svIdOffset := by
    obtain ⟨info, signal, dops⟩ := call
    cases signal <;> rfl
  rw [LocNmeaSvMeta.gsaSvIdOffset, htypeMask, hoffset]
  cases call.signal <;> decide

theorem svUsedList_svMeta : call.svMeta.svUsedList = call.usedIds.map UInt32.ofNat := by
  have hone : (1 : UInt8).toNat = 1 := rfl
  rw [LocNmeaSvMeta.svUsedList, usedSvs_eq _ _ (by decide), usedIds, map_map,
    gsaSvIdOffset_svMeta]
  refine map_congr_left fun b _ ↦ ?_
  rw [Function.comp_apply, idOf, ← UInt32.ofNat_add, hone, Nat.add_comm 1 b]

theorem length_usedIds_le : call.usedIds.length ≤ 64 := by
  rw [usedIds, length_map]
  exact (length_filter_le _ _).trans_eq length_range

theorem le_of_mem_usedIds {id : ℕ} (h : id ∈ call.usedIds) : id ≤ 128 := by
  obtain ⟨b, hb, rfl⟩ := mem_map.mp h
  have hlt := mem_range.mp (mem_of_mem_filter hb)
  rw [idOf]
  split_ifs <;> omega

/-- The ids are in increasing order. -/
theorem pairwise_usedIds : call.usedIds.Pairwise (· < ·) := by
  refine List.Pairwise.map _ (fun b b' hlt ↦ ?_) (pairwise_lt_range.filter _)
  rw [idOf, idOf]
  omega

/-! ## What a call prints -/

/-- What a call prints with a code in the range, and the code after it -/
theorem generate_eq {code : ℕ} (h : code < 100000) :
    call.generate (UInt32.ofNat code) =
      ((List.range ((call.usedIds.length + 11) / 12)).map fun j ↦ call.svMeta.gsaText call.dops
          (if call.IsGroup then tagText (j + 1) ((call.usedIds.length + 11) / 12)
            (if j = 0 then code else nextCode code)
          else []) (call.usedIds.drop (12 * j)),
        UInt32.ofNat (if call.IsGroup then nextCode code + 1 else code)) :=
  LocNmeaSvMeta.locNmeaGenerateGSA_eq length_talker_svMeta systemId_svMeta_lt svUsedList_svMeta
    length_usedIds_le (fun _ ↦ le_of_mem_usedIds) h

theorem comma_not_mem_talker_svMeta : 44 ∉ call.svMeta.talker := by
  have hite : ∀ {p : Prop} [Decidable p] (c c' : Char), 44 ∉ bytes [c, c'] →
      44 ∉ bytes (if p then ['G', 'N'] else [c, c']) := by
    intro p _ c c' h
    split_ifs
    · decide
    · exact h
  obtain ⟨info, signal, dops⟩ := call
  cases signal <;> exact hite _ _ (by decide)

/-- The ids in a sentence are the first twelve. -/
theorem usedFields_gsaText {tag : List UInt8} (htag : 44 ∉ tag) (ids : List ℕ) :
    usedFields (call.svMeta.gsaText call.dops tag ids) = ids.take 12 := by
  have hstart : 44 ∉ tag ++ bytes ['$'] ++ call.svMeta.talker ++ bytes ['G', 'S', 'A'] := by
    simp only [mem_append, htag, comma_not_mem_talker_svMeta, false_or]
    decide
  have hfixType : 44 ∉ call.svMeta.fixType := by
    rw [LocNmeaSvMeta.fixType]
    split_ifs <;> decide
  obtain ⟨rest, htext⟩ : ∃ rest, call.svMeta.gsaText call.dops tag ids =
      (tag ++ bytes ['$'] ++ call.svMeta.talker ++ bytes ['G', 'S', 'A']) ++
        44 :: ([65] ++ 44 :: (call.svMeta.fixType ++ 44 :: (fieldsText (gsaIdFields ids) ++ rest))) := by
    obtain ⟨checksum, hchecksum⟩ : ∃ checksum, withChecksum (call.svMeta.gsaHead ++
        fieldsText (gsaIdFields ids) ++ dopsText call.dops ++ signed 0 call.svMeta.systemId) =
          call.svMeta.gsaHead ++ fieldsText (gsaIdFields ids) ++ dopsText call.dops ++
            signed 0 call.svMeta.systemId ++ checksum := ⟨_, rfl⟩
    refine ⟨dopsText call.dops ++ (signed 0 call.svMeta.systemId ++ checksum), ?_⟩
    rw [LocNmeaSvMeta.gsaText, hchecksum, LocNmeaSvMeta.gsaHead]
    simp [bytes]
  rw [usedFields, htext, splitOn_append_cons_self_of_not_mem hstart,
    splitOn_append_cons_self_of_not_mem (by decide),
    splitOn_append_cons_self_of_not_mem hfixType,
    splitOn_fieldsText_append fun _ ↦ comma_not_mem_of_mem_gsaIdFields, drop_succ_cons,
    drop_succ_cons, drop_succ_cons, drop_zero,
    take_left' (length_gsaIdFields ids), map_value_gsaIdFields]

theorem comma_not_mem_tagText (sentenceNumber sentenceCount code : ℕ) :
    44 ∉ tagText sentenceNumber sentenceCount code := by
  rw [tagText, tagHead]
  simp only [mem_append, comma_not_mem_signed, Gsv.comma_not_mem_hex (UInt8.toNat_lt _),
    or_false]
  decide

/-- The sentences list the satellites that are used, each of them once and in increasing order,
twelve in a sentence. -/
structure Lists (call : GsaCall) (texts : List (List UInt8)) : Prop where
  length_eq : texts.length = (call.usedIds.length + 11) / 12
  flatMap_eq : texts.flatMap usedFields = call.usedIds
  increasing : (texts.flatMap usedFields).Pairwise (· < ·)
  twelve : texts.map usedFields =
    (List.range texts.length).map fun j ↦ (call.usedIds.drop (12 * j)).take 12

theorem lists_generate {code : ℕ} (h : code < 100000) :
    call.Lists (call.generate (UInt32.ofNat code)).1 := by
  have hlength : (call.generate (UInt32.ofNat code)).1.length =
      (call.usedIds.length + 11) / 12 := by
    rw [generate_eq h, length_map, length_range]
  have htwelve : (call.generate (UInt32.ofNat code)).1.map usedFields =
      (List.range (call.generate (UInt32.ofNat code)).1.length).map fun j ↦
        (call.usedIds.drop (12 * j)).take 12 := by
    rw [hlength, generate_eq h, map_map]
    refine map_congr_left fun j _ ↦ usedFields_gsaText ?_ _
    split_ifs
    · exact comma_not_mem_tagText _ _ _
    · exact comma_not_mem_tagText _ _ _
    · exact not_mem_nil
  have hflat : (call.generate (UInt32.ofNat code)).1.flatMap usedFields = call.usedIds := by
    rw [flatMap_def, htwelve, ← flatMap_def,
      GnssSvNotification.flatMap_range_take_drop, hlength]
    exact take_of_length_le (by omega)
  exact ⟨hlength, hflat, hflat ▸ pairwise_usedIds, htwelve⟩

/-! ## Codes -/

/-- The sentences are numbered and have one code. -/
def Numbers (texts : List (List UInt8)) (code : ℕ) : Prop :=
  texts.map tagFields = (List.range texts.length).map fun j ↦ [j + 1, texts.length, code]

/-- The numbers in the tag blocks of a group -/
theorem map_tagFields_generate (hgroup : call.IsGroup) {code : ℕ} (h : code < 100000) :
    (call.generate (UInt32.ofNat code)).1.map tagFields =
      (List.range (call.generate (UInt32.ofNat code)).1.length).map fun j ↦
        [j + 1, (call.generate (UInt32.ofNat code)).1.length,
          if j = 0 then code else nextCode code] := by
  rw [(lists_generate h).length_eq, generate_eq h, map_map]
  refine map_congr_left fun j _ ↦ ?_
  rw [Function.comp_apply, if_pos hgroup, LocNmeaSvMeta.gsaText, tagFields_tagText_append]

/-- Before the end of the range the sentences of a group have one code. -/
theorem numbers_generate (hgroup : call.IsGroup) {code : ℕ} (h : code < 99999) :
    Numbers (call.generate (UInt32.ofNat code)).1 code := by
  have hnext : nextCode code = code := if_neg (by omega)
  rw [Numbers, map_tagFields_generate hgroup (by omega)]
  simp only [hnext, ite_self]

/-- At the end of the range they have two. -/
theorem not_numbers_generate (hgroup : call.IsGroup) (code : ℕ) :
    ¬Numbers (call.generate (UInt32.ofNat 99999)).1 code := by
  intro hnumbers
  have hlength := (@lists_generate call 99999 (by omega)).length_eq
  have hgroup' : 12 < call.usedIds.length := hgroup
  obtain ⟨n, hn⟩ := Nat.exists_eq_add_of_le (show 2 ≤ (call.usedIds.length + 11) / 12 by omega)
  rw [Numbers, map_tagFields_generate hgroup (by omega), hlength, hn, map_inj_left] at hnumbers
  have hfirst := hnumbers 0 (mem_range.mpr (by omega))
  have hsecond := hnumbers 1 (mem_range.mpr (by omega))
  rw [if_pos rfl] at hfirst
  rw [if_neg Nat.one_ne_zero, nextCode, if_pos rfl] at hsecond
  simp only [List.cons.injEq] at hfirst hsecond
  omega

end GsaCall

/-- The codes that are printed for a call -/
def groupCodes (texts : List (List UInt8)) : List ℕ :=
  texts.flatMap fun text ↦ (tagFields text).drop 2

theorem GsaCall.Numbers.eq_of_mem_groupCodes {texts : List (List UInt8)} {code c : ℕ}
    (h : Numbers texts code) (hc : c ∈ groupCodes texts) : c = code := by
  obtain ⟨text, htext, hc⟩ := mem_flatMap.mp hc
  obtain ⟨j, -, hfields⟩ := mem_map.mp (h ▸ mem_map_of_mem htext)
  rw [← hfields] at hc
  exact mem_singleton.mp hc

/-! ## Runs -/

/-- Calls one after the other from a code on, each with its sentences -/
def runGsa : UInt32 → List GsaCall → List (GsaCall × List (List UInt8))
  | _, [] => []
  | code, call :: calls =>
    (call, (call.generate code).1) :: runGsa (call.generate code).2 calls

/-- What a run is to print: the satellites of every call, and one code for every group, which is in
the range and not the code of the group before. -/
structure Coded (run : List (GsaCall × List (List UInt8))) : Prop where
  lists : ∀ p ∈ run, p.1.Lists p.2
  numbers : ∀ p ∈ run, p.1.IsGroup → ∃ code, 1 ≤ code ∧ code ≤ 99999 ∧ GsaCall.Numbers p.2 code
  differ : (run.filter (·.1.IsGroup)).IsChain fun p q ↦
    ∀ code ∈ groupCodes p.2, code ∉ groupCodes q.2

variable {code : ℕ} {calls : List GsaCall}

theorem GsaCall.snd_generate (call : GsaCall) (hcode : code < 100000) :
    (call.generate (UInt32.ofNat code)).2 =
      UInt32.ofNat (if call.IsGroup then nextCode code + 1 else code) := by
  rw [generate_eq hcode]

theorem lists_of_mem_runGsa (hcode : code < 100000) {p : GsaCall × List (List UInt8)}
    (hp : p ∈ runGsa (UInt32.ofNat code) calls) : p.1.Lists p.2 := by
  induction calls generalizing code with
  | nil => cases hp
  | cons call calls ih =>
    have hnext := nextCode_lt hcode
    rw [runGsa, call.snd_generate hcode] at hp
    rcases mem_cons.mp hp with rfl | hp
    · exact GsaCall.lists_generate hcode
    · refine ih ?_ hp
      split_ifs <;> omega

/-- While there are codes left, every group has its own, and the codes increase. -/
theorem numbers_of_countP_le (hcode : code + calls.countP (·.IsGroup) ≤ 99999) :
    (∀ p ∈ runGsa (UInt32.ofNat code) calls, p.1.IsGroup →
      ∃ code', code ≤ code' ∧ code' < 99999 ∧ GsaCall.Numbers p.2 code') ∧
    ((runGsa (UInt32.ofNat code) calls).filter (·.1.IsGroup)).Pairwise fun p q ↦
      ∀ c ∈ groupCodes p.2, c ∉ groupCodes q.2 := by
  induction calls generalizing code with
  | nil => exact ⟨fun _ hp ↦ absurd hp not_mem_nil, List.Pairwise.nil⟩
  | cons call calls ih =>
    rw [countP_cons] at hcode
    rw [runGsa, call.snd_generate (by omega)]
    by_cases hgroup : call.IsGroup
    · -- the group has this code, and those after it have greater ones
      simp only [hgroup, decide_true, if_true] at hcode ⊢
      have hnext : nextCode code = code := if_neg (by omega)
      have hnumbers := @GsaCall.numbers_generate _ hgroup code (by omega)
      rw [hnext]
      obtain ⟨hrest, hpairwise⟩ := @ih (code + 1) (by omega)
      rw [filter_cons, if_pos (decide_eq_true hgroup), forall_mem_cons, pairwise_cons]
      refine ⟨⟨fun _ ↦ ⟨code, le_rfl, by omega, hnumbers⟩, fun p hp hp' ↦ ?_⟩,
        fun q hq c hc hc' ↦ ?_, hpairwise⟩
      · obtain ⟨code', hle, hlt, hp⟩ := hrest p hp hp'
        exact ⟨code', by omega, hlt, hp⟩
      · obtain ⟨hq, hqgroup⟩ := mem_filter.mp hq
        obtain ⟨code', hle, -, hq⟩ := hrest q hq (of_decide_eq_true hqgroup)
        have hcode' := hnumbers.eq_of_mem_groupCodes hc
        have hcode'' := hq.eq_of_mem_groupCodes hc'
        omega
    · simp only [hgroup, decide_false, if_false, Bool.false_eq_true, Nat.add_zero] at hcode ⊢
      obtain ⟨hrest, hpairwise⟩ := ih hcode
      rw [filter_cons, if_neg (by simpa using hgroup), forall_mem_cons]
      exact ⟨⟨fun h ↦ absurd h hgroup, hrest⟩, hpairwise⟩

/-- With more groups than codes that are left, the code comes to its end in one of them. -/
theorem exists_not_numbers (hcode : code < 100000) (h : 99999 < code + calls.countP (·.IsGroup)) :
    ∃ p ∈ runGsa (UInt32.ofNat code) calls, p.1.IsGroup ∧ ∀ code', ¬GsaCall.Numbers p.2 code' := by
  induction calls generalizing code with
  | nil =>
    rw [countP_nil] at h
    omega
  | cons call calls ih =>
    rw [countP_cons] at h
    rw [runGsa, call.snd_generate hcode]
    by_cases hgroup : call.IsGroup
    · by_cases hlast : code = 99999
      · subst hlast
        exact ⟨_, mem_cons_self, hgroup, GsaCall.not_numbers_generate hgroup⟩
      · simp only [hgroup, decide_true, if_true] at h
        have hnext : nextCode code = code := if_neg hlast
        rw [if_pos hgroup, hnext]
        obtain ⟨p, hp, hnot⟩ := @ih (code + 1) (by omega) (by omega)
        exact ⟨p, mem_cons_of_mem _ hp, hnot⟩
    · simp only [hgroup, decide_false, if_false, Bool.false_eq_true, Nat.add_zero] at h
      rw [if_neg hgroup]
      obtain ⟨p, hp, hnot⟩ := ih hcode h
      exact ⟨p, mem_cons_of_mem _ hp, hnot⟩

/-- From the start of the process on, a run is as it is to be exactly when it has at most 99998
groups. -/
theorem gsa_group_codes_iff (calls : List GsaCall) :
    Coded (runGsa 1 calls) ↔ calls.countP (·.IsGroup) ≤ 99998 := by
  constructor
  · intro h
    by_contra hlt
    obtain ⟨p, hp, hgroup, hnot⟩ := @exists_not_numbers 1 calls (by omega) (by omega)
    obtain ⟨code, -, -, hnumbers⟩ := h.numbers p hp hgroup
    exact hnot code hnumbers
  · intro h
    obtain ⟨hnumbers, hpairwise⟩ := @numbers_of_countP_le 1 calls (by omega)
    refine ⟨fun p hp ↦ @lists_of_mem_runGsa 1 _ (by omega) _ hp, fun p hp hgroup ↦ ?_,
      hpairwise.isChain⟩
    obtain ⟨code, hle, hlt, hcode⟩ := hnumbers p hp hgroup
    exact ⟨code, hle, hlt.le, hcode⟩

/-- A fix with thirteen satellites of GPS -/
def fullCall : GsaCall where
  info := { LocSvCacheInfo.zero with gpsUsedMask := 0x1fff }
  signal := .gpsL1ca
  dops := none

/-- The last of 99999 groups has two codes. -/
theorem not_gsa_group_codes : ¬Coded (runGsa 1 (List.replicate 99999 fullCall)) := by
  intro h
  have hcount : (List.replicate 99999 fullCall).countP (·.IsGroup) = 99999 := by
    rw [countP_replicate, if_pos (by decide)]
  obtain ⟨p, hp, hgroup, hnot⟩ := @exists_not_numbers 1 _ (by omega) (by rw [hcount]; omega)
  obtain ⟨code, -, -, hnumbers⟩ := h.numbers p hp hgroup
  exact hnot code hnumbers

end MataDevice.Nmea
