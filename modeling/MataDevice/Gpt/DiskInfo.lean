import MataDevice.Gpt.CrashSafety

/-!
# The tables of a disk in memory

`gpt_disk_get_disk_info` reads the headers of a disk and the entries array of each, and
`gpt_disk_get_pentry` looks a partition up in one of the arrays. The second header is read from the
place of the primary one as well. So what is loaded as the backup table is the primary table, and it
is that of the disk only where the two header blocks are the same.
-/

namespace MataDevice.Gpt

/-! ## Devices -/

def pathMax : ℕ := 4096

/-- `BLK_DEV_FILE` -/
def blkDevFile : List Char := "/dev/block/mmcblk0".toList

/-- `BOOT_DEV_DIR` -/
def bootDevDir : List Char := "/dev/block/bootdevice/by-name".toList

/-- `get_dev_path_from_partition_name`, or `none` where it returns -1. -/
def Env.getDevPathFromPartitionName (env : Env) (partname : List Char) : Option (List Char) :=
  if env.isUfsDevice then
    let path := (bootDevDir ++ ['/'] ++ partname).take (pathMax - 1)
    if env.stat path then (env.readlink path).map fun buf ↦ buf.take pathTruncateLoc else none
  else some blkDevFile

/-- `GPT_DISK_INIT_MAGIC` -/
def gptDiskInitMagic : UInt32 := 0xABCD

/-- `struct gpt_disk`; what has not been read is a null pointer. -/
structure GptDisk where
  hdr : Option Bytes
  hdrCrc : UInt32
  hdrBak : Option Bytes
  hdrBakCrc : UInt32
  pentryArr : Option Bytes
  pentryArrBak : Option Bytes
  pentryArrSize : UInt32
  pentrySize : UInt32
  pentryArrCrc : UInt32
  pentryArrBakCrc : UInt32
  devpath : List Char
  blockSize : UInt32
  isInitialized : UInt32
  deriving DecidableEq, Repr

/-- `gpt_disk_alloc` -/
def gptDiskAlloc : GptDisk where
  hdr := none
  hdrCrc := 0
  hdrBak := none
  hdrBakCrc := 0
  pentryArr := none
  pentryArrBak := none
  pentryArrSize := 0
  pentrySize := 0
  pentryArrCrc := 0
  pentryArrBakCrc := 0
  devpath := []
  blockSize := 0
  isInitialized := 0

/-! ## Reading -/

/-- `gpt_get_pentry_arr` -/
def gptGetPentryArr (hdr : Bytes) (d : BlockDevice) : Option Bytes :=
  let pentriesStart := get8 hdr pentriesOffset * d.blkSize.toUInt64
  let pentriesArrSize := get4 hdr partitionCountOffset * get4 hdr pentrySizeOffset
  d.blkRead pentriesStart pentriesArrSize.toNat

section

variable (crc32 : Bytes → UInt32) (env : Env)

/-- `crc32(0, buf, len)`; `none` if the buffer is shorter. -/
def crc32Of (buf : Bytes) (len : UInt32) : Option UInt32 :=
  if len.toNat ≤ buf.length then some (crc32 (buf.take len.toNat)) else none

-- the devices by their paths; a path that cannot be opened has none
variable (openDev : List Char → Option BlockDevice)

/-- `gpt_get_header` -/
def gptGetHeader (partname : List Char) (gpt : GptInstance) : Option Bytes :=
  match env.getDevPathFromPartitionName partname with
  | none => none
  | some devpath =>
    match openDev devpath with
    | none => none
    | some d =>
      let hdrOffset :=
        match gpt with
        | .primary => d.blkSize.toNat
        | .secondary => d.data.length - d.blkSize.toNat
      d.blkRead (UInt64.ofNat hdrOffset) d.blkSize.toNat

/-- `gpt_disk_get_disk_info`: what it returns, and the structure after it; `none` when a header says
that it is longer than its block, since the CRC is computed over what comes after the block then. -/
def gptDiskGetDiskInfo (dev : List Char) (disk : GptDisk) : Option (ℤ × GptDisk) :=
  let disk := { disk with hdr := gptGetHeader env openDev dev .primary }
  match disk.hdr with
  | none => some (-1, disk)
  | some hdr =>
    let gptHeaderSize := get4 hdr headerSizeOffset
    match crc32Of crc32 hdr gptHeaderSize with
    | none => none
    | some hdrCrc =>
      -- `PRIMARY_GPT` once more
      let disk := { disk with hdrCrc := hdrCrc, hdrBak := gptGetHeader env openDev dev .primary }
      match disk.hdrBak with
      | none => some (-1, disk)
      | some hdrBak =>
        match crc32Of crc32 hdrBak gptHeaderSize with
        | none => none
        | some hdrBakCrc =>
          let disk := { disk with hdrBakCrc := hdrBakCrc }
          match env.getDevPathFromPartitionName dev with
          | none => some (-1, disk)
          | some devpath =>
            let disk := { disk with devpath := devpath }
            match openDev devpath with
            | none => some (-1, disk)
            | some fd =>
              let disk := { disk with pentryArr := gptGetPentryArr hdr fd }
              match disk.pentryArr with
              | none => some (-1, disk)
              | some _ =>
                let disk := { disk with pentryArrBak := gptGetPentryArr hdrBak fd }
                match disk.pentryArrBak with
                | none => some (-1, disk)
                | some _ =>
                  let pentrySize := get4 hdr pentrySizeOffset
                  some (0, { disk with
                    pentrySize := pentrySize
                    pentryArrSize := get4 hdr partitionCountOffset * pentrySize
                    pentryArrCrc := get4 hdr partitionCrcOffset
                    pentryArrBakCrc := get4 hdrBak partitionCrcOffset
                    blockSize := fd.blkSize
                    isInitialized := gptDiskInitMagic })

end

/-- The scan for a name of any length: `name8` has values for 36 characters, and a longer name is
compared with what is behind them. -/
def seekName (partname pentries : Bytes) (pentrySize : ℕ) : Option (Option ℕ) :=
  if partname.length < maxGptNameSize / 2 then gptPentrySeek partname pentries 0 pentrySize else none

/-- `gpt_disk_get_pentry`: where the entry is in the array, if there is one; `none` for an array that
is shorter than the structure says. -/
def gptDiskGetPentry (disk : GptDisk) (partname : Bytes) (gpt : GptInstance) : Option (Option ℕ) :=
  if disk.isInitialized ≠ gptDiskInitMagic then some none
  else
    match match gpt with
      | .primary => disk.pentryArr
      | .secondary => disk.pentryArrBak with
    | none => none
    | some ptnArr =>
      if disk.pentryArrSize.toNat ≤ ptnArr.length then
        seekName partname (ptnArr.take disk.pentryArrSize.toNat) disk.pentrySize.toNat
      else none

/-! ## The tables on the disk -/

namespace BlockDevice

variable (d : BlockDevice)

/-- The entries array that a header of the disk describes, as it can be read -/
def entriesArray (gpt : GptInstance) : Option Bytes := d.blkRead (d.arrayOffset gpt) (d.arraySize gpt)

/-- The entry of a partition that is recorded in a table of the disk -/
def recordedEntry (partname : Bytes) (gpt : GptInstance) : Option (Option ℕ) :=
  (d.entriesArray gpt).bind fun pentries ↦
    seekName partname pentries (get4 (d.header gpt) pentrySizeOffset).toNat

end BlockDevice

/-- Both tables of a disk are loaded. -/
structure Loads (d : BlockDevice) (disk : GptDisk) : Prop where
  hdr : disk.hdr = some (d.header .primary)
  pentryArr : disk.pentryArr = d.entriesArray .primary
  hdrBak : disk.hdrBak = some (d.header .secondary)
  pentryArrBak : disk.pentryArrBak = d.entriesArray .secondary
  lookup : ∀ partname, gptDiskGetPentry disk partname .secondary = d.recordedEntry partname .secondary

/-! ## What is loaded -/

section

variable {d : BlockDevice}

theorem blkRead_header (d : BlockDevice) :
    d.blkRead (UInt64.ofNat d.blkSize.toNat) d.blkSize.toNat = some (d.header .primary) := by
  have hblk := d.blkSize.toNat_lt
  have hoff : (UInt64.ofNat d.blkSize.toNat).toNat = d.blkSize.toNat := by
    rw [UInt64.toNat_ofNat_of_lt' (by simp only [UInt64.size]; omega)]
  have hsize := d.size_ge
  rw [BlockDevice.blkRead_eq (by omega), hoff]
  rfl

variable {crc32 : Bytes → UInt32} {env : Env} {openDev : List Char → Option BlockDevice}
  {dev devpath : List Char} {disk out : GptDisk}

theorem gptGetHeader_primary (hpath : env.getDevPathFromPartitionName dev = some devpath)
    (hopen : openDev devpath = some d) :
    gptGetHeader env openDev dev .primary = some (d.header .primary) := by
  rw [gptGetHeader, hpath]
  dsimp only
  rw [hopen]
  exact blkRead_header d

/-- What is in memory after a success is the primary table, two times. -/
structure LoadedTwice (d : BlockDevice) (out : GptDisk) : Prop where
  hdr : out.hdr = some (d.header .primary)
  hdrBak : out.hdrBak = some (d.header .primary)
  pentryArr : out.pentryArr = d.entriesArray .primary
  pentryArrBak : out.pentryArrBak = d.entriesArray .primary
  isSome : (d.entriesArray .primary).isSome = true
  pentrySize : out.pentrySize = get4 (d.header .primary) pentrySizeOffset
  pentryArrSize : out.pentryArrSize.toNat = d.arraySize .primary
  isInitialized : out.isInitialized = gptDiskInitMagic

/-- The calls that a success has passed -/
theorem loadedTwice_of_eq_zero (hpath : env.getDevPathFromPartitionName dev = some devpath)
    (hopen : openDev devpath = some d)
    (h : gptDiskGetDiskInfo crc32 env openDev dev disk = some (0, out)) : LoadedTwice d out := by
  have harr : gptGetPentryArr (d.header .primary) d = d.entriesArray .primary := rfl
  rw [gptDiskGetDiskInfo, gptGetHeader_primary hpath hopen] at h
  dsimp only at h
  cases hcrc : crc32Of crc32 (d.header .primary) (get4 (d.header .primary) headerSizeOffset) with
  | none =>
    rw [hcrc] at h
    cases h
  | some crc =>
    simp only [hcrc, hpath, hopen, harr] at h
    cases hentries : d.entriesArray .primary with
    | none =>
      rw [hentries] at h
      cases h
    | some arr =>
      simp only [hentries, Option.some.injEq, Prod.mk.injEq, true_and] at h
      subst h
      exact ⟨rfl, rfl, hentries.symm, hentries.symm, by rw [hentries]; rfl, rfl, rfl, rfl⟩

/-- A success has found the device. -/
theorem exists_device_of_eq_zero (h : gptDiskGetDiskInfo crc32 env openDev dev disk = some (0, out)) :
    ∃ devpath d, env.getDevPathFromPartitionName dev = some devpath ∧ openDev devpath = some d := by
  cases hpath : env.getDevPathFromPartitionName dev with
  | none =>
    have hdr : gptGetHeader env openDev dev .primary = none := by rw [gptGetHeader, hpath]
    rw [gptDiskGetDiskInfo, hdr] at h
    cases h
  | some devpath =>
    cases hopen : openDev devpath with
    | none =>
      have hdr : gptGetHeader env openDev dev .primary = none := by
        rw [gptGetHeader, hpath]
        dsimp only
        rw [hopen]
      rw [gptDiskGetDiskInfo, hdr] at h
      cases h
    | some d => exact ⟨devpath, d, rfl, hopen⟩

/-- The call succeeds when the header fits into its block and the array can be read. -/
theorem exists_eq_zero (hpath : env.getDevPathFromPartitionName dev = some devpath)
    (hopen : openDev devpath = some d) (hfits : HeaderFits (d.header .primary))
    (hisSome : (d.entriesArray .primary).isSome = true) :
    ∃ out, gptDiskGetDiskInfo crc32 env openDev dev disk = some (0, out) := by
  have harr : gptGetPentryArr (d.header .primary) d = d.entriesArray .primary := rfl
  obtain ⟨arr, hentries⟩ := Option.isSome_iff_exists.mp hisSome
  have hcrc : crc32Of crc32 (d.header .primary) (get4 (d.header .primary) headerSizeOffset) =
      some _ := if_pos hfits
  rw [gptDiskGetDiskInfo, gptGetHeader_primary hpath hopen]
  dsimp only
  simp only [hcrc, hpath, hopen, harr, hentries]
  exact ⟨_, rfl⟩

theorem LoadedTwice.gptDiskGetPentry_secondary (h : LoadedTwice d out) (partname : Bytes) :
    gptDiskGetPentry out partname .secondary = d.recordedEntry partname .primary := by
  obtain ⟨arr, harr⟩ := Option.isSome_iff_exists.mp h.isSome
  have hlength := BlockDevice.length_of_blkRead harr
  have hbak : out.pentryArrBak = some arr := h.pentryArrBak.trans harr
  rw [gptDiskGetPentry, if_neg (not_not.mpr h.isInitialized), hbak]
  dsimp only
  rw [h.pentryArrSize, if_pos hlength.ge, ← hlength, List.take_length, h.pentrySize,
    BlockDevice.recordedEntry, harr]
  rfl

/-- Both tables have been loaded exactly when the last block of the disk is the same as the block of
the primary header. -/
theorem gpt_disk_loads_iff (h : gptDiskGetDiskInfo crc32 env openDev dev disk = some (0, out)) :
    ∃ devpath d, env.getDevPathFromPartitionName dev = some devpath ∧ openDev devpath = some d ∧
      (Loads d out ↔ d.header .secondary = d.header .primary) := by
  obtain ⟨devpath, d, hpath, hopen⟩ := exists_device_of_eq_zero h
  have htwice := loadedTwice_of_eq_zero hpath hopen h
  refine ⟨devpath, d, hpath, hopen, fun hloads ↦ ?_, fun hsame ↦ ?_⟩
  · exact Option.some_inj.mp (hloads.hdrBak.symm.trans htwice.hdrBak)
  · have harray : d.entriesArray .secondary = d.entriesArray .primary := by
      simp only [BlockDevice.entriesArray, BlockDevice.arrayOffset, BlockDevice.arraySize, hsame]
    refine ⟨htwice.hdr, htwice.pentryArr, by rw [hsame, htwice.hdrBak],
      by rw [harray, htwice.pentryArrBak], fun partname ↦ ?_⟩
    rw [htwice.gptDiskGetPentry_secondary, BlockDevice.recordedEntry, BlockDevice.recordedEntry,
      harray, hsame]

end

/-- The only device of an eMMC system -/
def sampleOpenDev (devpath : List Char) : Option BlockDevice :=
  if devpath = blkDevFile then some (sampleDisk 3 2717067324) else none

theorem exists_eq_zero_sampleDisk : ∃ out, gptDiskGetDiskInfo zlibCrc32 sampleEnv sampleOpenDev
    "boot".toList gptDiskAlloc = some (0, out) := by
  have hpath : sampleEnv.getDevPathFromPartitionName "boot".toList = some blkDevFile := by
    decide +kernel
  refine exists_eq_zero hpath (if_pos rfl) ?_ ?_
  · rw [HeaderFits, BlockDevice.length_header, header_primary_sampleDisk]
    decide +kernel
  · have hoffset : ((sampleDisk 3 2717067324).arrayOffset .primary).toNat ≤
        (sampleDisk 3 2717067324).data.length := by
      rw [arrayOffset_sampleDisk, sampleDisk, length_sampleData]
      decide
    rw [BlockDevice.entriesArray, BlockDevice.blkRead, if_pos hoffset]
    rfl

theorem gpt_disk_loads_iff_sampleDisk : ∃ out, gptDiskGetDiskInfo zlibCrc32 sampleEnv sampleOpenDev
    "boot".toList gptDiskAlloc = some (0, out) ∧
    ∃ devpath d, sampleEnv.getDevPathFromPartitionName "boot".toList = some devpath ∧
      sampleOpenDev devpath = some d ∧
      (Loads d out ↔ d.header .secondary = d.header .primary) := by
  obtain ⟨out, h⟩ := exists_eq_zero_sampleDisk
  exact ⟨out, h, gpt_disk_loads_iff h⟩

/-- On a disk with two valid tables, the header that is loaded as that of the backup table gives the
place of the primary array. -/
theorem not_gpt_disk_loads_sampleDisk : ∃ out, gptDiskGetDiskInfo zlibCrc32 sampleEnv sampleOpenDev
    "boot".toList gptDiskAlloc = some (0, out) ∧ ¬Loads (sampleDisk 3 2717067324) out := by
  have hpath : sampleEnv.getDevPathFromPartitionName "boot".toList = some blkDevFile := by
    decide +kernel
  obtain ⟨out, h⟩ := exists_eq_zero_sampleDisk
  refine ⟨out, h, fun hloads ↦ ?_⟩
  have htwice := loadedTwice_of_eq_zero hpath (if_pos rfl) h
  have hsame := Option.some_inj.mp (hloads.hdrBak.symm.trans htwice.hdrBak)
  have hpentries := congrArg (get8 · pentriesOffset) hsame
  rw [header_primary_sampleDisk, header_secondary_sampleDisk] at hpentries
  revert hpentries
  decide +kernel

end MataDevice.Gpt
