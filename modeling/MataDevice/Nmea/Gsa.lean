import MataDevice.Nmea.Sentences

/-!
# The GSA sentences of a fix

`loc_nmea_generate_GSA` lists the satellites of a constellation that are used in the fix, twelve in
a sentence. When there are more than twelve and grouping is enabled, every sentence has a tag block
before it, with the number of the sentence, how many there are, and a code for the group. The code
is a static variable: after the last sentence of a group it is increased, and in the loop, after the
tag block has been printed, it is set to one where it has come to the end of its range.

The dilutions of precision are floating-point numbers. They come as the text that is printed for
them, which is short enough for the buffer.
-/

namespace MataDevice.Nmea

open List
open MataDevice.Gnss (GnssSvType)
open MataDevice.Format (bytes signed hex snprintf)

/-- `MAX_TAG_BLOCK_GROUP_CODE` -/
def maxTagBlockGroupCode : UInt32 := 99999

/-- The dilutions of precision, each with a separator behind it -/
structure Dops where
  text : List UInt8
  length_le : text.length ≤ 118

/-! ## Texts -/

/-- What is printed for the dilutions of precision -/
def dopsText : Option Dops → List UInt8
  | some dops => dops.text
  | none => bytes [',', ',', ',']

/-- `loc_nmea_put_checksum` for a tag block -/
def locNmeaPutTagChecksum (sentence : List UInt8) (maxSize : ℕ) : List UInt8 :=
  let checksum := (sentence.drop 1).foldl (· ^^^ ·) 0
  let length := (sentence.drop 1).length
  sentence ++ snprintf (maxSize - length - 1) (bytes ['*'] ++ hex 2 checksum.toNat ++ bytes ['\\'])

/-- `\g:` with the number of the sentence, how many sentences there are, and the code -/
def tagBlock (sentenceNumber sentenceCount : ℕ) (code : UInt32) : List UInt8 :=
  bytes ['\\', 'g', ':'] ++ signed 0 sentenceNumber ++ bytes ['-'] ++ signed 0 sentenceCount ++
    bytes ['-'] ++ signed 0 code.toInt32.toInt

namespace LocNmeaSvMeta

variable (svMeta : LocNmeaSvMeta)

def fixType : List UInt8 :=
  if svMeta.totalSvUsedCount = 0 then bytes ['1']
  else if svMeta.totalSvUsedCount ≤ 3 then bytes ['2']
  else bytes ['3']

def gsaHead : List UInt8 :=
  bytes ['$'] ++ svMeta.talker ++ bytes ['G', 'S', 'A', ',', 'A', ','] ++ svMeta.fixType ++
    bytes [',']

/-! ## The satellites -/

/-- The offset of the ids; only GLONASS has one here. -/
def gsaSvIdOffset : UInt32 :=
  if svMeta.svTypeMask &&& (1 <<< svTypeValue .glonass) = 0 then 0 else svMeta.svIdOffset

end LocNmeaSvMeta

/-- The loop that fills `svUsedList`, for at most `n` bits; 64 turns shift every mask to zero. -/
def usedSvs (svIdOffset : UInt32) : ℕ → UInt64 → UInt8 → List UInt32
  | 0, _, _ => []
  | n + 1, mask, i =>
    if mask > 0 then
      (if mask &&& 1 ≠ 0 then [i.toUInt32 + svIdOffset] else []) ++
        usedSvs svIdOffset n (mask >>> 1) (i + 1)
    else []

def LocNmeaSvMeta.svUsedList (svMeta : LocNmeaSvMeta) : List UInt32 :=
  usedSvs svMeta.gsaSvIdOffset 64 svMeta.mask 1

/-- The loop over the twelve ids of a sentence, with `n` of them to print; the ids that are left
after it. -/
def printIds (bufSize : ℕ) : ℕ → List UInt32 → List UInt8 → Option (List UInt8 × List UInt32)
  | 0, ids, sentence => some (sentence, ids)
  | n + 1, [], sentence => (print bufSize sentence (bytes [','])).bind (printIds bufSize n [])
  | n + 1, id :: ids, sentence =>
    (print bufSize sentence (signed 2 id.toInt32.toInt ++ bytes [','])).bind
      (printIds bufSize n ids)

/-! ## The sentences -/

namespace LocNmeaSvMeta

/-- One sentence behind its tag block, and the ids that are left. -/
def printGsa (svMeta : LocNmeaSvMeta) (dops : Option Dops) (bufSize : ℕ) (tag : List UInt8)
    (ids : List UInt32) : Option (List UInt8 × List UInt32) :=
  (print bufSize tag svMeta.gsaHead).bind fun sentence ↦
    (printIds bufSize 12 ids sentence).map fun printed ↦
      let sentence := printed.1 ++ snprintf (bufSize - printed.1.length) (dopsText dops)
      let sentence := sentence ++ snprintf (bufSize - sentence.length) (signed 0 svMeta.systemId)
      (tag ++ locNmeaPutChecksum (sentence.drop tag.length) (bufSize - tag.length), printed.2)

/-- The loop over the sentences, with `left` of them to print: the sentences, the code, and whether
the loop has come to its end. -/
def gsaSentences (svMeta : LocNmeaSvMeta) (dops : Option Dops) (bufSize : ℕ)
    (isTagBlockGroupingEnabled : Bool) (svUsedCount sentenceCount : ℕ) :
    ℕ → UInt32 → List UInt32 → List (List UInt8) × UInt32 × Bool
  | 0, code, _ => ([], code, true)
  | left + 1, code, ids =>
    let grouped : Bool := svUsedCount > 12 && isTagBlockGroupingEnabled
    let tag :=
      if grouped then
        locNmeaPutTagChecksum
          (snprintf bufSize (tagBlock (sentenceCount - left) sentenceCount code)) bufSize
      else []
    let code := if grouped ∧ code = maxTagBlockGroupCode then 1 else code
    match svMeta.printGsa dops bufSize tag ids with
    | none => ([], code, false)
    | some (sentence, ids) =>
      if !isTagBlockGroupingEnabled then ([sentence], code, true)
      else
        let rest := svMeta.gsaSentences dops bufSize isTagBlockGroupingEnabled svUsedCount
          sentenceCount left code ids
        (sentence :: rest.1, rest.2)

/-- `loc_nmea_generate_GSA`: the sentences and the code that it leaves. -/
def locNmeaGenerateGSA (svMeta : LocNmeaSvMeta) (dops : Option Dops) (bufSize : ℕ)
    (isTagBlockGroupingEnabled : Bool) (code : UInt32) : List (List UInt8) × UInt32 :=
  let svUsedList := svMeta.svUsedList
  let svUsedCount := svUsedList.length
  if svUsedCount = 0 then ([], code)
  else
    let sentenceCount := svUsedCount / 12 + if svUsedCount % 12 ≠ 0 then 1 else 0
    let printed := svMeta.gsaSentences dops bufSize isTagBlockGroupingEnabled svUsedCount
      sentenceCount sentenceCount code svUsedList
    (printed.1,
      if printed.2.2 ∧ svUsedCount > 12 ∧ isTagBlockGroupingEnabled then printed.2.1 + 1
      else printed.2.1)

end LocNmeaSvMeta

/-! ## What is printed -/

theorem and_one_ne_zero_iff (mask : UInt64) :
    mask &&& 1 ≠ 0 ↔ mask.toBitVec.getLsbD 0 = true := by
  rw [ne_eq, ← UInt64.toNat_inj, UInt64.toNat_and, UInt64.toNat_one, UInt64.toNat_zero,
    Nat.and_one_is_mod, BitVec.getLsbD, UInt64.toNat_toBitVec, Nat.testBit_zero, decide_eq_true_iff]
  omega

theorem getLsbD_shiftRight_one (mask : UInt64) (b : ℕ) :
    (mask >>> 1).toBitVec.getLsbD b = mask.toBitVec.getLsbD (b + 1) := by
  rw [UInt64.toBitVec_shiftRight, Nat.add_comm]
  exact BitVec.getLsbD_ushiftRight ..

/-- The loop finds the bits of the mask, in their order. -/
theorem usedSvs_eq (svIdOffset : UInt32) {n : ℕ} (mask : UInt64) {i : UInt8}
    (h : i.toNat + n < 256) :
    usedSvs svIdOffset n mask i =
      ((List.range n).filter fun b ↦ mask.toBitVec.getLsbD b).map
        fun b ↦ UInt32.ofNat (i.toNat + b) + svIdOffset := by
  induction n generalizing mask i with
  | zero => rfl
  | succ n ih =>
    have hi : (i + 1).toNat = i.toNat + 1 := by
      rw [UInt8.toNat_add, UInt8.toNat_one]
      omega
    have hid : i.toUInt32 = UInt32.ofNat (i.toNat + 0) := (UInt32.ofNat_uInt8ToNat i).symm
    rw [usedSvs]
    split_ifs with hpos hbit
    · rw [ih _ (by omega), range_succ_eq_map, filter_cons_of_pos
        ((and_one_ne_zero_iff mask).mp hbit), filter_map, map_cons, map_map, hid]
      simp only [Function.comp_def, getLsbD_shiftRight_one, hi, Nat.add_right_comm _ 1]
      rfl
    · rw [ih _ (by omega), range_succ_eq_map, filter_cons_of_neg
        (mt (and_one_ne_zero_iff mask).mpr hbit), filter_map, map_map]
      simp only [Function.comp_def, getLsbD_shiftRight_one, hi, Nat.add_right_comm _ 1]
      rfl
    · obtain rfl : mask = 0 := UInt64.not_lt.mp hpos |> UInt64.le_zero_iff.mp
      rw [filter_eq_nil_iff.mpr fun b _ ↦ by simp]
      rfl

/-- The fields of the ids of one sentence, as many of them empty as there are ids missing -/
def gsaIdFields (ids : List ℕ) : List (List UInt8) :=
  (ids.take 12).map (fun id : ℕ ↦ signed 2 id) ++ List.replicate (12 - ids.length) []

/-- Fields, each with a separator behind it -/
def fieldsText (fields : List (List UInt8)) : List UInt8 := fields.flatMap (· ++ bytes [','])

theorem fieldsText_cons (field : List UInt8) (fields : List (List UInt8)) :
    fieldsText (field :: fields) = field ++ bytes [','] ++ fieldsText fields := flatMap_cons

theorem toInt_toInt32_ofNat {n : ℕ} (h : n < 2 ^ 31) : (UInt32.ofNat n).toInt32.toInt = n := by
  change (UInt32.ofNat n).toBitVec.toInt = n
  have hto : (UInt32.ofNat n).toBitVec.toNat = n := by
    rw [UInt32.toNat_toBitVec, UInt32.toNat_ofNat', Nat.mod_eq_of_lt (by omega)]
  rw [BitVec.toInt_eq_toNat_of_lt (by omega), hto]

theorem length_id_le {id : ℕ} (h : id ≤ 128) : (signed 2 (id : ℤ)).length ≤ 3 :=
  Format.length_signed_natCast_le (k := 3) (by omega) (by omega)

/-- The loop over the ids prints their fields and leaves the ids of the next sentences. -/
theorem printIds_eq {bufSize n : ℕ} {ids : List ℕ} (hids : ∀ id ∈ ids, id ≤ 128)
    {sentence : List UInt8} (h : sentence.length + 4 * n < bufSize) :
    printIds bufSize n (ids.map UInt32.ofNat) sentence =
      some (sentence ++ fieldsText ((ids.take n).map (fun id : ℕ ↦ signed 2 id) ++
        List.replicate (n - ids.length) []), (ids.drop n).map UInt32.ofNat) := by
  induction n generalizing ids sentence with
  | zero => simp [printIds, fieldsText]
  | succ n ih =>
    have hsep : (bytes [',']).length = 1 := rfl
    cases ids with
    | nil =>
      have hnext := @ih [] hids (sentence ++ bytes [','])
        (by rw [length_append, hsep]; omega)
      rw [map_nil] at hnext
      rw [map_nil, printIds, print_of_lt (by omega), Option.bind_some, hnext]
      simp [fieldsText, replicate_succ]
    | cons id ids =>
      rw [forall_mem_cons] at hids
      have hid := length_id_le hids.1
      have hlength : (signed 2 (id : ℤ) ++ bytes [',']).length ≤ 4 := by
        rw [length_append, hsep]
        omega
      rw [map_cons, printIds, toInt_toInt32_ofNat (by omega), print_of_lt (by omega),
        Option.bind_some, ih hids.2 (by rw [length_append]; omega), take_succ_cons,
        map_cons, cons_append, fieldsText_cons, append_assoc, length_cons,
        Nat.add_sub_add_right, drop_succ_cons]

theorem length_gsaIdFields (ids : List ℕ) : (gsaIdFields ids).length = 12 := by
  rw [gsaIdFields, length_append, length_map, length_take, length_replicate]
  omega

theorem length_fieldsText_gsaIdFields_le {ids : List ℕ} (hids : ∀ id ∈ ids, id ≤ 128) :
    (fieldsText (gsaIdFields ids)).length ≤ 48 := by
  have hfield : ∀ field ∈ gsaIdFields ids, (field ++ bytes [',']).length ≤ 4 := by
    intro field hfield
    rw [length_append]
    rcases mem_append.mp hfield with hfield | hfield
    · obtain ⟨id, hid, rfl⟩ := mem_map.mp hfield
      exact Nat.add_le_add_right (length_id_le (hids id (mem_of_mem_take hid))) 1
    · rw [eq_of_mem_replicate hfield]
      decide
  rw [fieldsText, length_flatMap]
  refine (sum_le_card_nsmul _ 4 ?_).trans_eq (by rw [length_map, length_gsaIdFields]; rfl)
  simpa using hfield

/-! ## The tag block -/

/-- The tag block of a sentence without its checksum -/
def tagHead (sentenceNumber sentenceCount code : ℕ) : List UInt8 :=
  bytes ['\\', 'g', ':'] ++ signed 0 sentenceNumber ++ bytes ['-'] ++ signed 0 sentenceCount ++
    bytes ['-'] ++ signed 0 code

/-- The tag block of a sentence -/
def tagText (sentenceNumber sentenceCount code : ℕ) : List UInt8 :=
  let tag := tagHead sentenceNumber sentenceCount code
  tag ++ (bytes ['*'] ++ hex 2 ((tag.drop 1).foldl (· ^^^ ·) 0 : UInt8).toNat ++ bytes ['\\'])

variable {sentenceNumber sentenceCount code : ℕ}

theorem length_tagText_le (hnumber : sentenceNumber < 10)
    (hcount : sentenceCount < 10) (hcode : code < 100000) :
    (tagText sentenceNumber sentenceCount code).length ≤ 16 := by
  have hnumber' := Format.length_signed_natCast_le (w := 0) (k := 1) (by omega) hnumber
  have hcount' := Format.length_signed_natCast_le (w := 0) (k := 1) (by omega) hcount
  have hcode' := Format.length_signed_natCast_le (w := 0) (k := 5) (by omega) hcode
  rw [tagText]
  simp only [tagHead, length_append, bytes, length_map, length_cons, length_nil,
    Format.length_hex_two (UInt8.toNat_lt _)]
  omega

theorem tagBlock_eq (hnumber : sentenceNumber < 10)
    (hcount : sentenceCount < 10) (hcode : code < 100000) :
    locNmeaPutTagChecksum (snprintf nmeaSentenceMaxLength
      (tagBlock sentenceNumber sentenceCount (UInt32.ofNat code))) nmeaSentenceMaxLength =
        tagText sentenceNumber sentenceCount code := by
  have hlength := length_tagText_le hnumber hcount hcode
  have htag : tagBlock sentenceNumber sentenceCount (UInt32.ofNat code) =
      tagHead sentenceNumber sentenceCount code := by
    rw [tagBlock, toInt_toInt32_ofNat (by omega), tagHead]
  rw [tagText] at hlength ⊢
  rw [length_append] at hlength
  rw [htag]
  rw [Format.snprintf_of_lt (by rw [nmeaSentenceMaxLength]; omega), locNmeaPutTagChecksum,
    Format.snprintf_of_lt (by rw [nmeaSentenceMaxLength, length_drop]; omega)]

/-! ## The sentences of a call -/

theorem length_dopsText_le (dops : Option Dops) : (dopsText dops).length ≤ 118 := by
  cases dops with
  | none => decide
  | some dops => exact dops.length_le

/-- The code after a tag block has been printed -/
def nextCode (code : ℕ) : ℕ := if code = 99999 then 1 else code

theorem nextCode_nextCode (code : ℕ) : nextCode (nextCode code) = nextCode code := by
  rw [nextCode, nextCode]
  split_ifs <;> omega

theorem nextCode_lt {code : ℕ} (h : code < 100000) : nextCode code < 99999 := by
  rw [nextCode]
  split_ifs <;> omega

namespace LocNmeaSvMeta

variable (svMeta : LocNmeaSvMeta)

/-- The text of a sentence behind its tag block -/
def gsaText (dops : Option Dops) (tag : List UInt8) (ids : List ℕ) : List UInt8 :=
  tag ++ withChecksum (svMeta.gsaHead ++ fieldsText (gsaIdFields ids) ++ dopsText dops ++
    signed 0 svMeta.systemId)

variable {svMeta} {dops : Option Dops}

variable (htalker : svMeta.talker.length = 2)
include htalker

theorem length_gsaHead : svMeta.gsaHead.length = 11 := by
  have hfixType : svMeta.fixType.length = 1 := by
    rw [fixType]
    split_ifs <;> rfl
  simp only [gsaHead, length_append, htalker, hfixType, bytes, length_map,
    length_cons, length_nil]

variable (hsystemId : svMeta.systemId < 10)
include hsystemId

variable {ids : List ℕ}

/-- A sentence fits into the buffer. -/
theorem printGsa_eq {tag : List UInt8} (htag : tag.length ≤ 16) (hids : ∀ id ∈ ids, id ≤ 128) :
    svMeta.printGsa dops nmeaSentenceMaxLength tag (ids.map UInt32.ofNat) =
      some (svMeta.gsaText dops tag ids, (ids.drop 12).map UInt32.ofNat) := by
  have hhead := length_gsaHead htalker
  have hfields := length_fieldsText_gsaIdFields_le hids
  have hdops := length_dopsText_le dops
  have hsystem := Format.length_signed_natCast_le (w := 0) (k := 1) (by omega) hsystemId
  rw [printGsa, nmeaSentenceMaxLength, print_of_lt (by omega), Option.bind_some,
    printIds_eq hids (by rw [length_append]; omega), Option.map_some, ← gsaIdFields]
  dsimp only
  rw [Format.snprintf_of_lt (by simp only [length_append]; omega),
    Format.snprintf_of_lt (by simp only [length_append]; omega), append_assoc tag,
    append_assoc tag, append_assoc tag, drop_left, locNmeaPutChecksum_of_lt, gsaText]
  · simp only [length_append]
    omega
  · simp only [length_append]
    omega

variable {svUsedCount sentenceCount left code : ℕ}

/-- One turn of the loop over the sentences -/
theorem gsaSentences_succ (hcount : sentenceCount < 10) (hcode : code < 100000) (hids : ∀ id ∈ ids, id ≤ 128) :
    svMeta.gsaSentences dops nmeaSentenceMaxLength true svUsedCount sentenceCount (left + 1)
        (UInt32.ofNat code) (ids.map UInt32.ofNat) =
      let rest := svMeta.gsaSentences dops nmeaSentenceMaxLength true svUsedCount sentenceCount left
        (UInt32.ofNat (if 12 < svUsedCount then nextCode code else code))
        ((ids.drop 12).map UInt32.ofNat)
      (svMeta.gsaText dops (if 12 < svUsedCount then
        tagText (sentenceCount - left) sentenceCount code else []) ids :: rest.1, rest.2) := by
  have hmax : UInt32.ofNat code = maxTagBlockGroupCode ↔ code = 99999 := by
    rw [← UInt32.toNat_inj, UInt32.toNat_ofNat', Nat.mod_eq_of_lt (by omega)]
    rfl
  rw [gsaSentences]
  by_cases hgroup : 12 < svUsedCount
  · have hnumber : sentenceCount - left < 10 := by omega
    have hnext : (if UInt32.ofNat code = maxTagBlockGroupCode then 1 else UInt32.ofNat code) =
        UInt32.ofNat (nextCode code) := by
      rw [nextCode]
      by_cases hlast : code = 99999
      · rw [if_pos (hmax.mpr hlast), if_pos hlast]
        rfl
      · rw [if_neg (mt hmax.mp hlast), if_neg hlast]
    simp only [hgroup, decide_true, Bool.and_self, if_true, true_and,
      tagBlock_eq hnumber hcount hcode, hnext]
    rw [printGsa_eq htalker hsystemId (length_tagText_le hnumber hcount hcode) hids]
    simp
  · simp only [hgroup, decide_false, Bool.false_and, Bool.false_eq_true, if_false, false_and]
    rw [printGsa_eq htalker hsystemId (Nat.zero_le _) hids]
    simp

/-- The loop prints the sentences that are left. The code of the first of them is the one before;
those that follow it have the next. -/
theorem gsaSentences_eq (hcount : sentenceCount < 10)
    (hleft : left ≤ sentenceCount) (hcode : code < 100000)
    (hids : ∀ id ∈ ids, id ≤ 128) :
    svMeta.gsaSentences dops nmeaSentenceMaxLength true svUsedCount sentenceCount left
        (UInt32.ofNat code) (ids.map UInt32.ofNat) =
      ((List.range left).map fun j ↦ svMeta.gsaText dops
          (if 12 < svUsedCount then
            tagText (sentenceCount - left + j + 1) sentenceCount
              (if j = 0 then code else nextCode code)
          else []) (ids.drop (12 * j)),
        UInt32.ofNat (if 12 < svUsedCount ∧ 0 < left then nextCode code else code), true) := by
  induction left generalizing code ids with
  | zero => simp [gsaSentences]
  | succ left ih =>
    have hnumber : sentenceCount - (left + 1) + 0 + 1 = sentenceCount - left := by omega
    have hdrop : ∀ id ∈ ids.drop 12, id ≤ 128 := fun id hid ↦ hids id (mem_of_mem_drop hid)
    have hcode' : (if 12 < svUsedCount then nextCode code else code) < 100000 := by
      split_ifs
      · exact (nextCode_lt hcode).trans (by omega)
      · exact hcode
    rw [gsaSentences_succ htalker hsystemId hcount hcode hids]
    rw [ih (by omega) hcode' hdrop, range_succ_eq_map, map_cons, map_map, hnumber,
      if_pos rfl, Nat.mul_zero, drop_zero]
    refine Prod.ext (cons_eq_cons.mpr ⟨rfl, map_congr_left fun j _ ↦ ?_⟩) (Prod.ext ?_ rfl)
    · have hnumber' : sentenceCount - (left + 1) + (j + 1) + 1 = sentenceCount - left + j + 1 := by
        omega
      have hplace : 12 + 12 * j = 12 * (j + 1) := by omega
      rw [Function.comp_apply, Nat.succ_eq_add_one, hnumber', if_neg (Nat.succ_ne_zero j),
        drop_drop, hplace]
      by_cases hgroup : 12 < svUsedCount
      · simp only [hgroup, if_true, nextCode_nextCode, ite_self]
      · simp only [hgroup, if_false]
    · by_cases hgroup : 12 < svUsedCount
      · simp only [hgroup, if_true, true_and, nextCode_nextCode, ite_self, Nat.succ_pos]
      · simp only [hgroup, if_false, false_and]

/-- What a call prints, and the code that it leaves -/
theorem locNmeaGenerateGSA_eq (hlist : svMeta.svUsedList = ids.map UInt32.ofNat) (hlength : ids.length ≤ 64)
    (hids : ∀ id ∈ ids, id ≤ 128) {code : ℕ} (hcode : code < 100000) :
    svMeta.locNmeaGenerateGSA dops nmeaSentenceMaxLength true (UInt32.ofNat code) =
      ((List.range ((ids.length + 11) / 12)).map fun j ↦ svMeta.gsaText dops
          (if 12 < ids.length then
            tagText (j + 1) ((ids.length + 11) / 12) (if j = 0 then code else nextCode code)
          else []) (ids.drop (12 * j)),
        UInt32.ofNat (if 12 < ids.length then nextCode code + 1 else code)) := by
  have hcount : (ids.length / 12 + if ids.length % 12 ≠ 0 then 1 else 0) =
      (ids.length + 11) / 12 := by
    split_ifs <;> omega
  rw [locNmeaGenerateGSA, hlist, length_map, hcount]
  by_cases hzero : ids.length = 0
  · simp [hzero]
  · have hpos : 0 < (ids.length + 11) / 12 := by omega
    have hprinted : svMeta.gsaSentences dops nmeaSentenceMaxLength true ids.length
        ((ids.length + 11) / 12) ((ids.length + 11) / 12) (UInt32.ofNat code)
        (ids.map UInt32.ofNat) = _ :=
      gsaSentences_eq htalker hsystemId (by omega) le_rfl hcode hids
    simp only [Nat.sub_self, Nat.zero_add, hpos, and_true] at hprinted
    rw [if_neg hzero]
    dsimp only
    rw [hprinted]
    refine Prod.ext rfl ?_
    by_cases hgroup : 12 < ids.length
    · simp [hgroup]
    · simp [hgroup]

end LocNmeaSvMeta

end MataDevice.Nmea
