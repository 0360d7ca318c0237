import MataDevice.Gpt.DiskInfo

/-!
# Writing the tables of a disk back

`gpt_disk_update_crc` recomputes the CRCs of what `gpt_disk_get_disk_info` has loaded, and
`gpt_disk_commit` writes the header block first and the array after it, to the place that the
header in memory gives. Neither looks at where the array lies. An array that shares a byte with the
header block is written over the new header, and one that reaches past the end of the device is cut
off, which `blk_rw` takes for a success. On all other disks the commit leaves a valid table.
-/

namespace MataDevice.Gpt

open List

/-! ## The two calls -/

section

variable (crc32 : Bytes → UInt32)

/-- `gpt_disk_update_crc`: what it returns, and the structure after it; `none` where it follows a
null pointer or reads behind a buffer. -/
def gptDiskUpdateCrc (disk : GptDisk) : Option (ℤ × GptDisk) :=
  if disk.isInitialized ≠ gptDiskInitMagic then some (-1, disk)
  else do
    let pentryArr ← disk.pentryArr
    let pentryArrCrc ← crc32Of crc32 pentryArr disk.pentryArrSize
    let pentryArrBak ← disk.pentryArrBak
    let pentryArrBakCrc ← crc32Of crc32 pentryArrBak disk.pentryArrSize
    let hdr ← disk.hdr
    let hdrBak ← disk.hdrBak
    let hdr := put4 hdr partitionCrcOffset pentryArrCrc
    let hdrBak := put4 hdrBak partitionCrcOffset pentryArrBakCrc
    -- the size of the primary header is that of the backup header too
    let gptHeaderSize := get4 hdr headerSizeOffset
    let hdr := put4 hdr headerCrcOffset 0
    let hdrBak := put4 hdrBak headerCrcOffset 0
    let hdrCrc ← crc32Of crc32 hdr gptHeaderSize
    let hdrBakCrc ← crc32Of crc32 hdrBak gptHeaderSize
    some (0, { disk with
      pentryArrCrc := pentryArrCrc
      pentryArrBakCrc := pentryArrBakCrc
      hdr := some (put4 hdr headerCrcOffset hdrCrc)
      hdrBak := some (put4 hdrBak headerCrcOffset hdrBakCrc)
      hdrCrc := hdrCrc
      hdrBakCrc := hdrBakCrc })

end

/-- A write of `len` bytes of a buffer with `blk_rw`: the return value and the device after it;
`none` if the buffer is shorter. -/
def writeBuffer (d : BlockDevice) (off : UInt64) (buf : Bytes) (len : ℕ) :
    Option (ℤ × BlockDevice) :=
  if buf.length < len then none
  else
    match d.blkWrite off (buf.take len) with
    | none => some (-1, d)
    | some d => some (0, d)

/-- `gpt_set_header` -/
def gptSetHeader (gptHeader : Option Bytes) (d : BlockDevice) (gpt : GptInstance) :
    Option (ℤ × BlockDevice) :=
  match gptHeader with
  | none => some (-1, d)
  | some hdr =>
    let gptHeaderOffset :=
      match gpt with
      | .primary => d.blkSize.toNat
      | .secondary => d.data.length - d.blkSize.toNat
    if gptHeaderOffset = 0 then some (-1, d)
    else writeBuffer d (UInt64.ofNat gptHeaderOffset) hdr d.blkSize.toNat

/-- `gpt_set_pentry_arr` -/
def gptSetPentryArr (hdr : Option Bytes) (d : BlockDevice) (arr : Option Bytes) :
    Option (ℤ × BlockDevice) :=
  match hdr, arr with
  | some hdr, some arr =>
    let pentriesStart := get8 hdr pentriesOffset * d.blkSize.toUInt64
    let pentriesArrSize := get4 hdr partitionCountOffset * get4 hdr pentrySizeOffset
    writeBuffer d pentriesStart arr pentriesArrSize.toNat
  | _, _ => some (-1, d)

/-- `gpt_disk_commit`: what it returns, and the device of the structure after it if there is one;
`none` where it reads behind a buffer. -/
def gptDiskCommit (openDev : List Char → Option BlockDevice) (disk : GptDisk) :
    Option (ℤ × Option BlockDevice) :=
  if disk.isInitialized ≠ gptDiskInitMagic then some (-1, openDev disk.devpath)
  else
    match openDev disk.devpath with
    | none => some (-1, none)
    | some fd => do
      let header ← gptSetHeader disk.hdr fd .primary
      if header.1 ≠ 0 then some (-1, some header.2)
      else do
        let arr ← gptSetPentryArr disk.hdr header.2 disk.pentryArr
        if arr.1 ≠ 0 then some (-1, some arr.2) else some (0, some arr.2)

/-! ## What is asked of a commit -/

/-- The device `e` holds a valid table with the array `pentries`. -/
structure TableValid (crc32 : Bytes → UInt32) (d : BlockDevice) (pentries : Bytes)
    (e : BlockDevice) : Prop where
  state : (gptGetState crc32 .primary d).result = some .ok →
    (gptGetState crc32 .primary e).result = some .ok
  arrayCrc : get4 (e.header .primary) partitionCrcOffset = crc32 (e.array .primary)
  array : e.array .primary = pentries

/-- The device `e` is `d` outside the block of the primary header and the primary array. -/
structure Confined (d e : BlockDevice) : Prop where
  length : e.data.length = d.data.length
  outside : ∀ p, p < d.blkSize.toNat ∨ 2 * d.blkSize.toNat ≤ p →
    p < (d.arrayOffset .primary).toNat ∨ (d.arrayOffset .primary).toNat + d.arraySize .primary ≤ p →
      e.data[p]? = d.data[p]?

/-- The primary array is apart from the block of the primary header, and unless it starts at the end
of the device, it lies within the device. -/
structure ArrayFits (d : BlockDevice) : Prop where
  apart : Apart d.blkSize.toNat d.blkSize.toNat (d.arrayOffset .primary).toNat (d.arraySize .primary)
  le : (d.arrayOffset .primary).toNat < d.data.length →
    (d.arrayOffset .primary).toNat + d.arraySize .primary ≤ d.data.length

/-- Whatever the primary array of a loaded disk is changed to, its CRCs can be updated, and every
successful commit after that has the property. -/
def Commits (crc32 : Bytes → UInt32) (openDev : List Char → Option BlockDevice) (out : GptDisk)
    (P : Bytes → BlockDevice → Prop) : Prop :=
  ∀ pentries : Bytes, pentries.length = out.pentryArrSize.toNat →
    ∃ updated, gptDiskUpdateCrc crc32 { out with pentryArr := some pentries } = some (0, updated) ∧
      ∀ e, gptDiskCommit openDev updated = some (0, some e) → P pentries e

/-! ## What is written -/

section

variable {crc32 : Bytes → UInt32} {env : Env} {openDev : List Char → Option BlockDevice}
  {dev devpath : List Char} {disk out updated : GptDisk} {d e : BlockDevice} {pentries : Bytes}

/-- A success has computed the CRC of the header, and kept the path of the device. -/
theorem headerFits_of_eq_zero
    (h : gptDiskGetDiskInfo crc32 env openDev dev disk = some (0, out)) :
    ∃ d, env.getDevPathFromPartitionName dev = some out.devpath ∧ openDev out.devpath = some d ∧
      LoadedTwice d out ∧ HeaderFits (d.header .primary) := by
  obtain ⟨devpath, d, hpath, hopen⟩ := exists_device_of_eq_zero h
  have htwice := loadedTwice_of_eq_zero hpath hopen h
  have harr : gptGetPentryArr (d.header .primary) d = d.entriesArray .primary := rfl
  rw [gptDiskGetDiskInfo, gptGetHeader_primary hpath hopen] at h
  dsimp only at h
  by_cases hfits : HeaderFits (d.header .primary)
  · have hcrc : crc32Of crc32 (d.header .primary) (get4 (d.header .primary) headerSizeOffset) =
        some _ := if_pos hfits
    obtain ⟨arr, hentries⟩ := Option.isSome_iff_exists.mp htwice.isSome
    simp only [hcrc, hpath, hopen, harr, hentries, Option.some.injEq, Prod.mk.injEq, true_and] at h
    have hdevpath : out.devpath = devpath := by rw [← h]
    exact ⟨d, by rw [hdevpath, hpath], by rw [hdevpath, hopen], htwice, hfits⟩
  · have hcrc : crc32Of crc32 (d.header .primary) (get4 (d.header .primary) headerSizeOffset) =
        none := if_neg hfits
    rw [hcrc] at h
    cases h

/-- The structure after the update holds the header that belongs to the new array. -/
structure Updated (crc32 : Bytes → UInt32) (d : BlockDevice) (pentries : Bytes) (out updated : GptDisk) :
    Prop where
  hdr : updated.hdr = some (chainHeader crc32 (d.header .primary) pentries)
  pentryArr : updated.pentryArr = some pentries
  devpath : updated.devpath = out.devpath
  isInitialized : updated.isInitialized = gptDiskInitMagic

theorem crc32Of_eq {buf : Bytes} {len : UInt32} (h : buf.length = len.toNat) :
    crc32Of crc32 buf len = some (crc32 buf) := by
  rw [crc32Of, if_pos h.ge, ← h, take_length]

variable (crc32) in
theorem crc32Of_cleared {hdr : Bytes} {size : UInt32} (hsize : get4 hdr headerSizeOffset = size)
    (hfits : HeaderFits hdr) :
    crc32Of crc32 (put4 hdr headerCrcOffset 0) size = some (headerSum crc32 hdr) := by
  subst hsize
  refine if_pos ?_
  rw [length_put4]
  exact hfits

variable (crc32) in
theorem exists_updated (htwice : LoadedTwice d out) (hfits : HeaderFits (d.header .primary))
    (hlength : pentries.length = out.pentryArrSize.toNat) :
    ∃ updated, gptDiskUpdateCrc crc32 { out with pentryArr := some pentries } = some (0, updated) ∧
      Updated crc32 d pentries out updated := by
  obtain ⟨arr, harr⟩ := Option.isSome_iff_exists.mp htwice.isSome
  have hbak : out.pentryArrBak = some arr := htwice.pentryArrBak.trans harr
  have harrlength : arr.length = out.pentryArrSize.toNat := by
    rw [htwice.pentryArrSize]
    exact BlockDevice.length_of_blkRead harr
  have hsame : ∀ c, SameFields (put4 (d.header .primary) partitionCrcOffset c) (d.header .primary) :=
    sameFields_putPartitionCrc _
  have hhdr := crc32Of_cleared crc32 rfl
    (hfits.of_sameFields (hsame (crc32 pentries)))
  have hhdrBak := crc32Of_cleared crc32
    (((hsame (crc32 arr)).headerSize).trans (hsame (crc32 pentries)).headerSize.symm)
    (hfits.of_sameFields (hsame (crc32 arr)))
  have hput : ∀ (hdr : Bytes) (c : UInt32),
      put4 (put4 hdr headerCrcOffset 0) headerCrcOffset c = put4 hdr headerCrcOffset c :=
    fun hdr c ↦ splice_splice_same _ rfl
  rw [gptDiskUpdateCrc, if_neg (not_not.mpr htwice.isInitialized), htwice.hdr, htwice.hdrBak, hbak]
  simp only [bind, Option.bind_some, crc32Of_eq hlength, crc32Of_eq harrlength, hhdr, hhdrBak, hput]
  exact ⟨_, rfl, rfl, rfl, rfl, htwice.isInitialized⟩

variable (crc32) in
theorem length_chainHeader (d : BlockDevice) (pentries : Bytes) :
    (chainHeader crc32 (d.header .primary) pentries).length = d.blkSize.toNat := by
  rw [(sameFields_chainHeader _ _).length, BlockDevice.length_header]

/-- The commit writes the new header block, and then the array to the place of the old one. -/
theorem gptDiskCommit_eq (hopen : openDev out.devpath = some d)
    (hupdated : Updated crc32 d pentries out updated) (hlength : pentries.length = d.arraySize .primary) :
    gptDiskCommit openDev updated =
      let d' := d.putHeader .primary (chainHeader crc32 (d.header .primary) pentries)
      match d'.blkWrite (d.arrayOffset .primary) pentries with
      | none => some (-1, some d')
      | some e => some (0, some e) := by
  have hlengthHeader := length_chainHeader crc32 d pentries
  have hblk := d.blkSize.toNat_lt
  have hge := d.blkSize_ge
  have hsize := d.size_ge
  have hoff : (UInt64.ofNat d.blkSize.toNat).toNat = d.blkSize.toNat := by
    rw [UInt64.toNat_ofNat_of_lt' (by simp only [UInt64.size]; omega)]
  have hsame : SameFields (chainHeader crc32 (d.header .primary) pentries) (d.header .primary) :=
    sameFields_chainHeader _ _
  have hheader : gptSetHeader updated.hdr d .primary = some (0, d.putHeader .primary
      (chainHeader crc32 (d.header .primary) pentries)) := by
    rw [hupdated.hdr, gptSetHeader, if_neg (by omega), writeBuffer, if_neg (by omega), ← hlengthHeader, take_length,
      hlengthHeader, BlockDevice.blkWrite_eq (by omega), hoff]
    rfl
  have harr : ∀ d' : BlockDevice, d'.blkSize = d.blkSize →
      gptSetPentryArr updated.hdr d' updated.pentryArr =
        match d'.blkWrite (d.arrayOffset .primary) pentries with
        | none => some (-1, d')
        | some e => some (0, e) := by
    intro d' hblkSize
    rw [hupdated.hdr, hupdated.pentryArr, gptSetPentryArr, hsame.pentries, hsame.count, hsame.pentrySize, hblkSize, ← BlockDevice.arrayOffset,
      ← BlockDevice.arraySize, ← hlength, writeBuffer, if_neg (lt_irrefl _), take_length]
  rw [gptDiskCommit, if_neg (not_not.mpr hupdated.isInitialized), hupdated.devpath, hopen]
  dsimp only
  simp only [bind, hheader, Option.bind_some, ne_eq, not_true_eq_false, if_false]
  rw [harr (d.putHeader .primary _) rfl]
  cases (d.putHeader .primary (chainHeader crc32 (d.header .primary) pentries)).blkWrite
    (d.arrayOffset .primary) pentries with
  | none => rfl
  | some e => rfl

/-! ## What is on the device -/

section

variable (crc32 d pentries)

/-- The device after the two writes -/
def committedDevice : BlockDevice :=
  (d.putHeader .primary (chainHeader crc32 (d.header .primary) pentries)).store
    (d.arrayOffset .primary).toNat pentries

end

/-- A commit succeeds where the array can be written, that is before the end of the device. -/
theorem gptDiskCommit_eq_iff (hopen : openDev out.devpath = some d)
    (hupdated : Updated crc32 d pentries out updated)
    (hlength : pentries.length = d.arraySize .primary) (e : BlockDevice) :
    gptDiskCommit openDev updated = some (0, some e) ↔
      ((d.arrayOffset .primary).toNat < d.data.length ∨
        (d.arrayOffset .primary).toNat = d.data.length ∧ pentries = []) ∧
      e = committedDevice crc32 d pentries := by
  have hsize : (d.putHeader .primary (chainHeader crc32 (d.header .primary) pentries)).data.length =
      d.data.length := length_splice _ _ _
  rw [gptDiskCommit_eq hopen hupdated hlength]
  dsimp only
  unfold BlockDevice.blkWrite
  rw [hsize]
  by_cases hwrite : (d.arrayOffset .primary).toNat < d.data.length ∨
      (d.arrayOffset .primary).toNat = d.data.length ∧ pentries = []
  · rw [if_pos hwrite, and_iff_right hwrite, Option.some.injEq, Prod.mk.injEq, Option.some.injEq,
      and_iff_right rfl]
    exact eq_comm
  · rw [if_neg hwrite]
    refine iff_of_false (fun h ↦ ?_) fun h ↦ hwrite h.1
    cases h

theorem confined_committedDevice (hlength : pentries.length = d.arraySize .primary) :
    Confined d (committedDevice crc32 d pentries) := by
  have hheader := length_chainHeader crc32 d pentries
  refine ⟨?_, fun p hp hp' ↦ ?_⟩
  · rw [committedDevice, BlockDevice.store_data, length_splice]
    exact length_splice _ _ _
  · rw [committedDevice, BlockDevice.store_data, getElem?_splice, if_neg (by omega),
      BlockDevice.putHeader, BlockDevice.store_data, getElem?_splice, hheader,
      if_neg (by rw [BlockDevice.headerOffset]; omega)]

variable (crc32) in
/-- The header survives the array that is written after it if the two are apart. -/
theorem header_committedDevice (hlength : pentries.length = d.arraySize .primary)
    (hapart : Apart d.blkSize.toNat d.blkSize.toNat (d.arrayOffset .primary).toNat
      (d.arraySize .primary)) :
    (committedDevice crc32 d pentries).header .primary =
      chainHeader crc32 (d.header .primary) pentries := by
  have hwritten : (d.putHeader .primary (chainHeader crc32 (d.header .primary) pentries)).header
      .primary = chainHeader crc32 (d.header .primary) pentries :=
    BlockDevice.header_putHeader_same (length_chainHeader crc32 d pentries)
  refine Eq.trans (slice_splice_apart ?_) hwritten
  rw [hlength]
  exact hapart.symm

theorem array_committedDevice (hlength : pentries.length = d.arraySize .primary)
    (hapart : Apart d.blkSize.toNat d.blkSize.toNat (d.arrayOffset .primary).toNat
      (d.arraySize .primary)) :
    (committedDevice crc32 d pentries).array .primary =
      slice (committedDevice crc32 d pentries).data (d.arrayOffset .primary).toNat
        (d.arraySize .primary) := by
  have hsame : SameFields ((committedDevice crc32 d pentries).header .primary) (d.header .primary) := by
    rw [header_committedDevice crc32 hlength hapart]
    exact sameFields_chainHeader _ _
  rw [BlockDevice.array, BlockDevice.arrayOffset_congr hsame rfl, BlockDevice.arraySize_congr hsame]

theorem result_gptGetState {gpt : GptInstance} :
    (gptGetState crc32 gpt d).result = headerState crc32 (d.header gpt) := by
  rw [gptGetState]
  cases headerState crc32 (d.header gpt) <;> rfl

theorem tableValid_committedDevice (hfits : HeaderFits (d.header .primary))
    (hlength : pentries.length = d.arraySize .primary) (harray : ArrayFits d)
    (hwrite : (d.arrayOffset .primary).toNat < d.data.length ∨
      (d.arrayOffset .primary).toNat = d.data.length ∧ pentries = []) :
    TableValid crc32 d pentries (committedDevice crc32 d pentries) := by
  have hheader := header_committedDevice crc32 hlength harray.apart
  have hge : 512 ≤ (d.header .primary).length := by
    rw [BlockDevice.length_header]
    exact d.blkSize_ge
  have harr : (committedDevice crc32 d pentries).array .primary = pentries := by
    rw [array_committedDevice hlength harray.apart, ← hlength]
    refine slice_splice_same ?_
    have hle := harray.le
    have hsize : (d.putHeader .primary (chainHeader crc32 (d.header .primary) pentries)).data.length =
      d.data.length := length_splice _ _ _
    rw [hsize]
    rcases hwrite with hlt | ⟨heq, hnil⟩
    · rw [hlength]
      exact hle hlt
    · rw [hnil, heq]
      exact le_rfl
  refine ⟨fun hok ↦ ?_, ?_, harr⟩
  · rw [result_gptGetState] at hok ⊢
    rw [hheader]
    refine headerState_ok (headerCrcOk_chainHeader hfits hge) ?_
    rw [take_chainHeader (by decide)]
    exact (headerState_cases hok (by decide)).2.mp rfl
  · rw [hheader, harr, partitionCrc_chainHeader hge]

/-- **A commit is valid and confined.** After the CRCs have been updated, a successful commit leaves
everything outside the primary header block and the primary array as it was, and if the array lies
apart from the header block and within the device, it leaves a valid table with the new array. -/
theorem gpt_disk_commit_valid
    (h : gptDiskGetDiskInfo crc32 env openDev dev disk = some (0, out)) :
    ∃ d, env.getDevPathFromPartitionName dev = some out.devpath ∧ openDev out.devpath = some d ∧
      Commits crc32 openDev out fun pentries e ↦
        Confined d e ∧ (ArrayFits d → TableValid crc32 d pentries e) := by
  obtain ⟨d, hpath, hopen, htwice, hfits⟩ := headerFits_of_eq_zero h
  refine ⟨d, hpath, hopen, fun pentries hlength ↦ ?_⟩
  obtain ⟨updated, hupdate, hupdated⟩ := exists_updated crc32 htwice hfits hlength
  rw [htwice.pentryArrSize] at hlength
  refine ⟨updated, hupdate, fun e hcommit ↦ ?_⟩
  obtain ⟨hwrite, rfl⟩ := (gptDiskCommit_eq_iff hopen hupdated hlength e).mp hcommit
  exact ⟨confined_committedDevice hlength,
    fun harray ↦ tableValid_committedDevice hfits hlength harray hwrite⟩

theorem gpt_disk_commit_valid_sampleDisk :
    ∃ out, gptDiskGetDiskInfo zlibCrc32 sampleEnv sampleOpenDev "boot".toList gptDiskAlloc =
        some (0, out) ∧
      Commits zlibCrc32 sampleOpenDev out fun pentries e ↦
        Confined (sampleDisk 3 2717067324) e ∧
          TableValid zlibCrc32 (sampleDisk 3 2717067324) pentries e := by
  have hpath : sampleEnv.getDevPathFromPartitionName "boot".toList = some blkDevFile := by
    decide +kernel
  obtain ⟨out, hload⟩ := exists_eq_zero_sampleDisk
  refine ⟨out, hload, ?_⟩
  obtain ⟨d, hpath', hopen, hcommits⟩ := gpt_disk_commit_valid hload
  rw [Option.some_inj.mp (hpath'.symm.trans hpath), sampleOpenDev, if_pos rfl, Option.some_inj] at hopen
  subst hopen
  have hfits : ArrayFits (sampleDisk 3 2717067324) := by
    refine ⟨?_, fun _ ↦ ?_⟩
    · rw [arrayOffset_sampleDisk, arraySize_sampleDisk]
      decide
    · rw [arrayOffset_sampleDisk, arraySize_sampleDisk, sampleDisk, length_sampleData]
      decide
  intro pentries hlength
  obtain ⟨updated, hupdate, hcommit⟩ := hcommits pentries hlength
  exact ⟨updated, hupdate, fun e he ↦ ⟨(hcommit e he).1, (hcommit e he).2 hfits⟩⟩

/-! ## Disks on which it does not -/

/-- Arrays start where a block starts. -/
theorem dvd_arrayOffset (hpow : ∃ k, d.blkSize.toNat = 2 ^ k) (gpt : GptInstance) :
    d.blkSize.toNat ∣ (d.arrayOffset gpt).toNat := by
  obtain ⟨k, hk⟩ := hpow
  have hlt := d.blkSize.toNat_lt
  rw [hk] at hlt ⊢
  have hle : k ≤ 64 := (Nat.pow_lt_pow_iff_right one_lt_two).mp (hlt.trans (by norm_num)) |>.le
  rw [BlockDevice.arrayOffset, UInt64.toNat_mul, UInt32.toNat_toUInt64, hk,
    Nat.dvd_mod_iff (Nat.pow_dvd_pow 2 hle)]
  exact Nat.dvd_mul_left _ _

/-- An array that shares a byte with the header block covers its first byte. -/
theorem covers_of_not_apart (hpow : ∃ k, d.blkSize.toNat = 2 ^ k)
    (h : ¬Apart d.blkSize.toNat d.blkSize.toNat (d.arrayOffset .primary).toNat
      (d.arraySize .primary)) :
    (d.arrayOffset .primary).toNat ≤ d.blkSize.toNat ∧
      d.blkSize.toNat < (d.arrayOffset .primary).toNat + d.arraySize .primary := by
  obtain ⟨k, hk⟩ := dvd_arrayOffset hpow .primary
  rw [Apart, not_or] at h
  refine ⟨?_, by omega⟩
  have hlt : k < 2 := by
    by_contra hge
    have hmul := Nat.mul_le_mul_left d.blkSize.toNat (not_lt.mp hge)
    omega
  have hmul := Nat.mul_le_mul_left d.blkSize.toNat (Nat.le_of_lt_succ hlt)
  omega

/-- The first byte of the header is then one of the array. -/
theorem getElem?_header_committedDevice (hlength : pentries.length = d.arraySize .primary)
    (hle : (d.arrayOffset .primary).toNat ≤ d.blkSize.toNat)
    (hlt : d.blkSize.toNat < (d.arrayOffset .primary).toNat + d.arraySize .primary) :
    ((committedDevice crc32 d pentries).header .primary)[0]? =
      pentries[d.blkSize.toNat - (d.arrayOffset .primary).toNat]? := by
  have hdevice := d.size_ge
  have hblk := d.blkSize_ge
  have hsize : (d.putHeader .primary (chainHeader crc32 (d.header .primary) pentries)).data.length =
    d.data.length := length_splice _ _ _
  have hblkSize : (committedDevice crc32 d pentries).blkSize = d.blkSize := rfl
  rw [BlockDevice.header, BlockDevice.headerOffset, hblkSize, getElem?_slice, if_pos (by omega),
    committedDevice, BlockDevice.store_data, getElem?_splice, hsize, hlength,
    if_pos ⟨hle, hlt, by omega⟩, Nat.add_zero]

/-- On a disk with a valid header the condition is needed: an array of zeros is not committed. -/
theorem arrayFits_of_commits (hopen : openDev out.devpath = some d) (htwice : LoadedTwice d out)
    (hpow : ∃ k, d.blkSize.toNat = 2 ^ k)
    (hok : (gptGetState crc32 .primary d).result = some .ok)
    (hcommits : Commits crc32 openDev out fun pentries e ↦ TableValid crc32 d pentries e) :
    ArrayFits d := by
  have hfits : HeaderFits (d.header .primary) := by
    rw [result_gptGetState] at hok
    exact (headerState_cases hok (by decide)).1.fits
  obtain ⟨zeros, hlength, hzeros⟩ : ∃ zeros : Bytes, zeros.length = d.arraySize .primary ∧
      ∀ i < d.arraySize .primary, zeros[i]? = some 0 :=
    ⟨List.replicate (d.arraySize .primary) 0, length_replicate, fun i hi ↦ by
      rw [getElem?_replicate, if_pos hi]⟩
  have hvalid : (d.arrayOffset .primary).toNat < d.data.length →
      TableValid crc32 d zeros (committedDevice crc32 d zeros) := by
    intro hlt
    have hlength' : zeros.length = out.pentryArrSize.toNat := hlength.trans htwice.pentryArrSize.symm
    obtain ⟨updated, hupdate, hcommit⟩ := hcommits zeros hlength'
    obtain ⟨updated', hupdate', hupdated⟩ := exists_updated crc32 htwice hfits hlength'
    obtain rfl : updated = updated' := by
      rw [hupdate] at hupdate'
      exact (Prod.ext_iff.mp (Option.some_inj.mp hupdate')).2
    exact hcommit _ ((gptDiskCommit_eq_iff hopen hupdated hlength _).mpr ⟨Or.inl hlt, rfl⟩)
  have hapart : Apart d.blkSize.toNat d.blkSize.toNat (d.arrayOffset .primary).toNat
      (d.arraySize .primary) := by
    by_contra hnot
    obtain ⟨hle, hlt⟩ := covers_of_not_apart hpow hnot
    have hdevice := d.size_ge
    have hblk := d.blkSize_ge
    have hafter := (hvalid (by omega)).state hok
    rw [result_gptGetState] at hafter
    have hbyte := congrArg (·[0]?) ((headerState_cases hafter (by decide)).2.mp rfl)
    rw [getElem?_take_of_lt (by decide), getElem?_header_committedDevice hlength hle hlt,
      hzeros _ (by omega)] at hbyte
    exact absurd hbyte (by decide)
  refine ⟨hapart, fun hlt ↦ ?_⟩
  -- what the device has of the array is as long as the array
  have harr := congrArg List.length (hvalid hlt).array
  rw [array_committedDevice hlength hapart, hlength, slice, length_take, length_drop,
    (confined_committedDevice hlength).length] at harr
  omega

end

/-- A header with a right CRC and `count` entries from block `lba` on -/
def tableHeader (lba : UInt8) (count : UInt32) : Bytes :=
  sealed zlibCrc32 (put4 (sampleHeader lba 0) partitionCountOffset count)

theorem length_tableHeader (lba : UInt8) (count : UInt32) : (tableHeader lba count).length = 512 := by
  rw [tableHeader, length_sealed, length_put4, length_sampleHeader]

def tableData (lba : UInt8) (count : UInt32) : Bytes :=
  List.replicate 512 0 ++ (tableHeader lba count ++ List.replicate 1536 0)

theorem length_tableData (lba : UInt8) (count : UInt32) : (tableData lba count).length = 2560 := by
  simp only [tableData, length_append, length_replicate, length_tableHeader]

/-- A disk of five blocks with such a header -/
def tableDisk (lba : UInt8) (count : UInt32) : BlockDevice where
  data := tableData lba count
  blkSize := 512
  blkSize_ge := sampleBlkSize_ge
  size_ge := by
    rw [length_tableData]
    decide
  size_lt := by
    rw [length_tableData]
    decide

theorem header_tableDisk (lba : UInt8) (count : UInt32) :
    (tableDisk lba count).header .primary = tableHeader lba count :=
  slice_append length_replicate (length_tableHeader lba count)

def tableOpenDev (lba : UInt8) (count : UInt32) (devpath : List Char) : Option BlockDevice :=
  if devpath = blkDevFile then some (tableDisk lba count) else none

theorem exists_not_commits {lba : UInt8} {count : UInt32}
    (hheader : get4 (put4 (sampleHeader lba 0) partitionCountOffset count) headerSizeOffset = 92)
    (hsig : (put4 (sampleHeader lba 0) partitionCountOffset count).take gptSignature.length =
      gptSignature)
    (hoff : ((tableDisk lba count).arrayOffset .primary).toNat ≤ (tableDisk lba count).data.length)
    (hnot : ¬ArrayFits (tableDisk lba count)) :
    ∃ out, gptDiskGetDiskInfo zlibCrc32 sampleEnv (tableOpenDev lba count) "boot".toList
        gptDiskAlloc = some (0, out) ∧
      ¬Commits zlibCrc32 (tableOpenDev lba count) out fun pentries e ↦
        Confined (tableDisk lba count) e ∧ TableValid zlibCrc32 (tableDisk lba count) pentries e := by
  have hpath : sampleEnv.getDevPathFromPartitionName "boot".toList = some blkDevFile := by
    decide +kernel
  have hlength : (put4 (sampleHeader lba 0) partitionCountOffset count).length = 512 := by
    rw [length_put4, length_sampleHeader]
  have hfits : HeaderFits (put4 (sampleHeader lba 0) partitionCountOffset count) := by
    rw [HeaderFits, hheader, hlength]
    decide
  have hopen : tableOpenDev lba count blkDevFile = some (tableDisk lba count) := if_pos rfl
  have hisSome : ((tableDisk lba count).entriesArray .primary).isSome = true := by
    rw [BlockDevice.entriesArray, BlockDevice.blkRead, if_pos hoff]
    rfl
  have hfits' : HeaderFits ((tableDisk lba count).header .primary) := by
    rw [header_tableDisk]
    exact hfits.of_sameFields (sameFields_sealed _)
  obtain ⟨out, hload⟩ : ∃ out, gptDiskGetDiskInfo zlibCrc32 sampleEnv (tableOpenDev lba count)
      "boot".toList gptDiskAlloc = some (0, out) := exists_eq_zero hpath hopen hfits' hisSome
  refine ⟨out, hload, fun hcommits ↦ hnot ?_⟩
  obtain ⟨d, hpath', hopen', htwice, _⟩ := headerFits_of_eq_zero hload
  have hdevpath : out.devpath = blkDevFile := Option.some_inj.mp (hpath'.symm.trans hpath)
  obtain rfl : d = tableDisk lba count := by
    rw [hdevpath, hopen] at hopen'
    exact (Option.some_inj.mp hopen').symm
  have hok : (gptGetState zlibCrc32 .primary (tableDisk lba count)).result = some .ok := by
    rw [result_gptGetState, header_tableDisk]
    exact headerState_ok (headerCrcOk_sealed hfits hlength.ge)
      ((take_sealed (by decide)).trans hsig)
  refine arrayFits_of_commits hopen' htwice ⟨9, rfl⟩ hok fun pentries hpentries ↦ ?_
  obtain ⟨updated, hupdate, hcommit⟩ := hcommits pentries hpentries
  exact ⟨updated, hupdate, fun e he ↦ (hcommit e he).2⟩

theorem arrayOffset_tableDisk (lba : UInt8) (count : UInt32) :
    (tableDisk lba count).arrayOffset .primary =
      get8 (put4 (sampleHeader lba 0) partitionCountOffset count) pentriesOffset * 512 := by
  rw [BlockDevice.arrayOffset, header_tableDisk, tableHeader, (sameFields_sealed _).pentries]
  rfl

theorem arraySize_tableDisk (lba : UInt8) (count : UInt32) :
    (tableDisk lba count).arraySize .primary =
      (get4 (put4 (sampleHeader lba 0) partitionCountOffset count) partitionCountOffset *
        get4 (put4 (sampleHeader lba 0) partitionCountOffset count) pentrySizeOffset).toNat := by
  rw [BlockDevice.arraySize, header_tableDisk, tableHeader, (sameFields_sealed _).count,
    (sameFields_sealed _).pentrySize]

/-- An array of zeros over the header block, and one that reaches past the end of the device -/
theorem not_gpt_disk_commit_tableDisk :
    (∃ out, gptDiskGetDiskInfo zlibCrc32 sampleEnv (tableOpenDev 1 2) "boot".toList
        gptDiskAlloc = some (0, out) ∧
      ¬Commits zlibCrc32 (tableOpenDev 1 2) out fun pentries e ↦
        Confined (tableDisk 1 2) e ∧ TableValid zlibCrc32 (tableDisk 1 2) pentries e) ∧
    ∃ out, gptDiskGetDiskInfo zlibCrc32 sampleEnv (tableOpenDev 4 8) "boot".toList
        gptDiskAlloc = some (0, out) ∧
      ¬Commits zlibCrc32 (tableOpenDev 4 8) out fun pentries e ↦
        Confined (tableDisk 4 8) e ∧ TableValid zlibCrc32 (tableDisk 4 8) pentries e := by
  have hsize : ∀ lba count, (tableDisk lba count).data.length = 2560 := length_tableData
  have hoff₁ : ((tableDisk 1 2).arrayOffset .primary).toNat = 512 := by
    rw [arrayOffset_tableDisk]
    decide +kernel
  have hsize₁ : (tableDisk 1 2).arraySize .primary = 256 := by
    rw [arraySize_tableDisk]
    decide +kernel
  have hoff₄ : ((tableDisk 4 8).arrayOffset .primary).toNat = 2048 := by
    rw [arrayOffset_tableDisk]
    decide +kernel
  have hsize₄ : (tableDisk 4 8).arraySize .primary = 1024 := by
    rw [arraySize_tableDisk]
    decide +kernel
  refine ⟨exists_not_commits (by decide +kernel) (by decide +kernel) ?_ fun hfits ↦ ?_,
    exists_not_commits (by decide +kernel) (by decide +kernel) ?_ fun hfits ↦ ?_⟩
  · rw [hoff₁, hsize]
    decide
  · have hapart := hfits.apart
    rw [hoff₁, hsize₁] at hapart
    exact absurd hapart (by decide)
  · rw [hoff₄, hsize]
    decide
  · have hle := hfits.le
    rw [hoff₄, hsize₄, hsize] at hle
    exact absurd (hle (by decide)) (by decide)

end MataDevice.Gpt
