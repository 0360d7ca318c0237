import MataDevice.Gpt.BootChain
import MataDevice.Lib.CrashTrace

/-!
# The fail-safe update of a GPT disk

`prepare_partitions` walks a disk through the three stages of an update. The stage a disk is in is
not stored anywhere: it is derived from the states of the two headers, which are marked by breaking
and restoring their signatures.

```text
UPDATE_MAIN      secondary := swapped primary entries, break the primary header
UPDATE_BACKUP    restore the primary header, break the secondary header
UPDATE_FINALIZE  secondary := primary entries, restore the secondary header
```

The functions of the source that write to the disk are programs over the device, and each call of
`blk_rw` that writes is one atomic write. The `crc32` of zlib is a parameter, and what the rest of
the system answers (the properties, the file system, the UFS driver) is collected in `Env`.
-/

namespace MataDevice.Gpt

/-- What `gpt-utils` asks of the system it runs on. -/
structure Env where
  /-- `property_get("ro.boot.bootdevice", ..)`. -/
  bootdevice : List Char
  /-- `open(dev_path, O_RDWR)` of a non-null path succeeds. -/
  opens : Bool
  /-- `stat` succeeds. -/
  stat : List Char → Bool
  /-- `readlink`. -/
  readlink : List Char → Option (List Char)
  /-- `opendir`, and the names `readdir` then returns. -/
  readdir : List Char → Option (List (List Char))
  /-- Opening the node and the `UFS_IOCTL_QUERY` that sets the boot LUN attribute both succeed. -/
  setBootLunQuery : List Char → UInt8 → Bool

/-- `enum gpt_state`. -/
inductive GptState
  | ok
  | badSignature
  | badCrc
  deriving DecidableEq, Repr

/-- `enum boot_update_stage`. -/
inductive BootUpdateStage
  | main
  | backup
  | finalize
  deriving DecidableEq, Repr

/-- The values of the enumerators. -/
def BootUpdateStage.toInt : BootUpdateStage → ℤ
  | .main => 1
  | .backup => 2
  | .finalize => 3

/-- `enum boot_chain`. -/
inductive BootChain
  | normal
  | backup
  deriving DecidableEq, Repr

/-! ## The boot LUN of UFS devices -/

def ufsSuffix : List Char := ".ufshc".toList

/-- `gpt_utils_is_ufs_device`. -/
def Env.isUfsDevice (env : Env) : Bool :=
  if env.bootdevice.length < ufsSuffix.length + 1 then false
  else env.bootdevice.drop (env.bootdevice.length - ufsSuffix.length) == ufsSuffix

def xblPrimary : List Char := "/dev/block/bootdevice/by-name/xbl".toList

def xblBackup : List Char := "/dev/block/bootdevice/by-name/xblbak".toList

def xblAbPrimary : List Char := "/dev/block/bootdevice/by-name/xbl_a".toList

def xblAbSecondary : List Char := "/dev/block/bootdevice/by-name/xbl_b".toList

def pathTruncateLoc : ℕ := "/dev/block/sda".toList.length

def lunNameStartLoc : ℕ := "/dev/block/".toList.length

/-- `get_scsi_node_from_bootdevice`, or `none` where it returns -1. -/
def Env.getScsiNodeFromBootdevice (env : Env) (bootdevPath : List Char) : Option (List Char) := do
  let realPath ← env.readlink bootdevPath
  if realPath.length < pathTruncateLoc + 1 then none
  let realPath := realPath.take pathTruncateLoc
  if realPath.length < lunNameStartLoc + 1 then none
  let names ← env.readdir
    ("/sys/block/".toList ++ realPath.drop lunNameStartLoc ++ "/device/scsi_generic".toList)
  let node ← names.find? fun name ↦ name.take 1 != ['.'] && name.take 2 == ['s', 'g']
  some ("/dev/".toList ++ node)

/-- The boot device and the LUN id `gpt_utils_set_xbl_boot_partition` selects for a boot chain. -/
def Env.xblBootDev (env : Env) : BootChain → Option (List Char × UInt8)
  | .backup =>
    if env.stat xblBackup then some (xblBackup, 2)
    else if env.stat xblAbSecondary then some (xblAbSecondary, 2)
    else none
  | .normal =>
    if env.stat xblPrimary then some (xblPrimary, 1)
    else if env.stat xblAbPrimary then some (xblAbPrimary, 1)
    else none

/-- `gpt_utils_set_xbl_boot_partition`. -/
def Env.setXblBootPartition (env : Env) (chain : BootChain) : ℤ :=
  match env.xblBootDev chain with
  | none => -1
  | some (bootDev, bootLunId) =>
    if (!env.stat xblPrimary || !env.stat xblBackup) &&
        (!env.stat xblAbPrimary || !env.stat xblAbSecondary) then -1
    else
      match env.getScsiNodeFromBootdevice bootDev with
      | none => -1
      | some node => if env.setBootLunQuery node bootLunId then 0 else -1

/-- The step both update stages begin with: on a UFS device that has `xbl` and its backup, switch
the boot LUN. -/
def Env.switchXbl (env : Env) (chain : BootChain) : ℤ :=
  if env.isUfsDevice && env.stat xblPrimary && env.stat xblBackup then
    env.setXblBootPartition chain
  else 0

/-! ## Header states -/

section

variable (crc32 : Bytes → UInt32) (env : Env)

/-- The CRC of a header, computed over as many bytes as the header says it has and with the CRC
field cleared. `none` if that is more than the block holds. -/
def headerCrc (hdr : Bytes) : Option UInt32 :=
  let headerSize := (get4 hdr headerSizeOffset).toNat
  if headerSize ≤ hdr.length then
    some (crc32 ((put4 hdr headerCrcOffset 0).take headerSize))
  else none

/-- Recompute the CRC field of a header. -/
def sealHeader (hdr : Bytes) : Option Bytes :=
  (headerCrc crc32 hdr).map (put4 hdr headerCrcOffset)

/-- `gpt_get_state` on a header block. A bad CRC hides a bad signature. -/
def headerState (hdr : Bytes) : Option GptState :=
  (headerCrc crc32 hdr).map fun crc ↦
    if crc ≠ get4 hdr headerCrcOffset then .badCrc
    else if hdr.take gptSignature.length ≠ gptSignature then .badSignature
    else .ok

/-- `gpt_get_state`. -/
def gptGetState (gpt : GptInstance) : Prog BlockDevice GptState := fun d ↦
  match headerState crc32 (d.header gpt) with
  | none => ⟨[], none⟩
  | some state => ⟨[], some state⟩

/-- How `gpt_set_state` marks a header before it recomputes the CRC: the signature is copied with
its NUL, or its first byte is cleared. -/
def markHeader (state : GptState) (hdr : Bytes) : Option Bytes :=
  match state with
  | .ok => some (splice hdr 0 gptSignature)
  | .badSignature => some (splice hdr 0 [0])
  | .badCrc => none

/-- `gpt_set_state`. -/
def gptSetState (gpt : GptInstance) (state : GptState) : Prog BlockDevice ℤ := do
  let d ← Prog.read
  match markHeader state (d.header gpt) with
  | none => pure (-1)
  | some hdr =>
    match sealHeader crc32 hdr with
    | none => Prog.fault
    | some hdr => do
      Prog.write (d.store (d.headerOffset gpt) hdr)
      pure 0

/-! ## The boot chain of the secondary GPT -/

/-- The entries the secondary GPT is given: those of the primary, swapped for the backup chain. -/
def chainEntries (boot : BootChain) (pentrySize : ℕ) (pentries : Bytes) : Option (ℤ × Bytes) :=
  match boot with
  | .backup => gptBootChainSwap env.isUfsDevice pentrySize pentries
  | .normal => some (0, pentries)

/-- The two writes that end `gpt2_set_boot_chain`: the header first, then the array. -/
def writeGpt2 (headerOff : ℕ) (hdr : Bytes) (pentriesOff : UInt64) (pentries : Bytes) :
    Prog BlockDevice ℤ := do
  let d ← Prog.read
  Prog.write (d.store headerOff hdr)
  let d ← Prog.read
  match d.blkWrite pentriesOff pentries with
  | none => pure (-1)
  | some d' => do
    Prog.write d'
    pure 0

/-- `gpt2_set_boot_chain`. -/
def gpt2SetBootChain (boot : BootChain) : Prog BlockDevice ℤ := do
  let d ← Prog.read
  let hdr := d.header .primary
  match d.blkRead (d.arrayOffset .primary) (d.arraySize .primary) with
  | none => pure (-1)
  | some pentries =>
    if get4 hdr partitionCrcOffset ≠ crc32 pentries then pure (-1)
    else
      match chainEntries env boot (get4 hdr pentrySizeOffset).toNat pentries with
      | none => Prog.fault
      | some (r, pentries) =>
        if r ≠ 0 then pure r
        else
          let hdr2 := put4 (d.header .secondary) partitionCrcOffset (crc32 pentries)
          match sealHeader crc32 hdr2 with
          | none => Prog.fault
          | some hdr2 =>
            writeGpt2 (d.headerOffset .secondary) hdr2 (d.arrayOffset .secondary) pentries

/-! ## The three stages -/

/-- The stage a disk is in, by the states of its headers, or `none` for the combinations
`prepare_partitions` refuses. -/
def internalStage (gptPrim gptSecond : GptState) : Option BootUpdateStage :=
  if gptPrim = .badCrc ∨ gptSecond = .badCrc then none
  else if gptPrim = .badSignature ∧ gptSecond = .badSignature then none
  else if gptPrim = .ok ∧ gptSecond = .ok then some .main
  else if gptPrim = .badSignature then some .backup
  else if gptSecond = .badSignature then some .finalize
  else none

/-- The `switch` of `prepare_partitions`. -/
def runStage : BootUpdateStage → Prog BlockDevice ℤ
  | .main =>
    if env.switchXbl .backup ≠ 0 then pure (env.switchXbl .backup)
    else do
      let r ← gpt2SetBootChain crc32 env .backup
      -- no backup partitions: do not corrupt the GPT and do not flag an error
      if r ≠ 0 then pure (if r < 0 then r else 0)
      else gptSetState crc32 .primary .badSignature
  | .backup =>
    if env.switchXbl .normal ≠ 0 then pure (env.switchXbl .normal)
    else do
      let r ← gptSetState crc32 .primary .ok
      if r ≠ 0 then pure r
      else gptSetState crc32 .secondary .badSignature
  | .finalize => do
    let r ← gpt2SetBootChain crc32 env .normal
    if r < 0 then pure r
    else gptSetState crc32 .secondary .ok

/-- `prepare_partitions`. -/
def preparePartitions (stage : BootUpdateStage) : Prog BlockDevice ℤ :=
  if !env.opens then pure (-1)
  else do
    let gptPrim ← gptGetState crc32 .primary
    let gptSecond ← gptGetState crc32 .secondary
    match internalStage gptPrim gptSecond with
    | none => pure (-1)
    | some internal =>
      -- stage already set: ready for update
      if stage.toInt = internal.toInt - 1 then pure 0
      else if stage ≠ internal then pure (-1)
      else runStage crc32 env stage

end

end MataDevice.Gpt
