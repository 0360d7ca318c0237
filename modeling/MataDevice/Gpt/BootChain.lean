import MataDevice.Gpt.Disk

/-!
# Swapping the boot chain in an entries array

`gpt_pentry_seek` scans an entries array for the entry of a partition or of its backup twin, and
`gpt_boot_chain_swap` exchanges the two entries of every partition of the swap list that has both.

The scan walks the array by the entry size of the header, which the disk chooses, while the name
field and the exchange use the fixed sizes of the source. With an entry size below 128 bytes they
reach past the end of the array or overlap; a scan or an exchange that would do so has no result
here (`none`), which stands for the undefined behaviour of the source.
-/

namespace MataDevice.Gpt

def partitionNameOffset : ℕ := 56

def maxGptNameSize : ℕ := 72

def ptnEntrySize : ℕ := 128

def ptnXbl : Bytes := chars "xbl"

/-- `BAK_PTN_NAME_EXT`, with its terminating NUL. -/
def bakPtnNameExt : Bytes := chars "bak" ++ [0]

def ptnSwapList : List Bytes :=
  [ptnXbl, chars "sbl1", chars "rpm", chars "tz", chars "aboot", chars "hyp", chars "lksecapp",
    chars "keymaster", chars "cmnlib", chars "cmnlib32", chars "cmnlib64", chars "pmic",
    chars "apdp", chars "devcfg", chars "hosd", chars "keystore", chars "msadp", chars "abl",
    chars "mdtpsecapp", chars "mdtp"]

/-- The name of the entry whose name field starts at `pos`: every other byte of the field, since
names are UTF-16 and the second byte is ignored. `none` if the field reaches past the array. -/
def name8 (pentries : Bytes) (pos : ℕ) : Option Bytes :=
  if pos + (maxGptNameSize - 2) < pentries.length then
    some ((List.range (maxGptNameSize / 2)).map fun i ↦ pentries.getD (pos + i * 2) 0)
  else none

/-- The test of `gpt_pentry_seek`: the name starts with `ptnName` and continues with nothing or with
the backup extension. -/
def nameMatches (ptnName name : Bytes) : Bool :=
  name.take ptnName.length == ptnName &&
    (name.getD ptnName.length 0 == 0 ||
      slice name ptnName.length bakPtnNameExt.length == bakPtnNameExt)

/-- The loop of `gpt_pentry_seek`, from the entry at `start`. Every turn moves on by the entry
size, so as many turns as the array has bytes are enough unless the entry size is zero. -/
def pentrySeekLoop (ptnName pentries : Bytes) (pentrySize : ℕ) : ℕ → ℕ → Option (Option ℕ)
  | 0, _ => none
  | fuel + 1, start =>
    if start + partitionNameOffset < pentries.length then
      match name8 pentries (start + partitionNameOffset) with
      | none => none
      | some name =>
        if nameMatches ptnName name then some (some start)
        else pentrySeekLoop ptnName pentries pentrySize fuel (start + pentrySize)
    else some none

/-- `gpt_pentry_seek`: the first entry at or after `start` that belongs to the partition. -/
def gptPentrySeek (ptnName pentries : Bytes) (start pentrySize : ℕ) : Option (Option ℕ) :=
  pentrySeekLoop ptnName pentries pentrySize (pentries.length + 1) start

/-- The three `memcpy` calls that exchange two entries. -/
def swapEntries (pentries : Bytes) (a b : ℕ) : Option Bytes :=
  if a + ptnEntrySize ≤ b ∧ b + ptnEntrySize ≤ pentries.length then
    let ptnSwap := slice pentries a ptnEntrySize
    some (splice (splice pentries a (slice pentries b ptnEntrySize)) b ptnSwap)
  else none

/-- One turn of the loop of `gpt_boot_chain_swap`, on the flag `backup_not_found` and the array. -/
def swapOne (isUfs : Bool) (pentrySize : ℕ) (ptnName : Bytes) (acc : ℤ × Bytes) :
    Option (ℤ × Bytes) :=
  -- xbl is handled separately on UFS devices
  if isUfs && ptnName.take ptnXbl.length == ptnXbl then some acc
  else
    match gptPentrySeek ptnName acc.2 0 pentrySize with
    | none => none
    | some none => some acc
    | some (some ptnEntry) =>
      match gptPentrySeek ptnName acc.2 (ptnEntry + pentrySize) pentrySize with
      | none => none
      | some none => some acc
      | some (some ptnBakEntry) =>
        (swapEntries acc.2 ptnEntry ptnBakEntry).map fun pentries ↦ (0, pentries)

/-- `gpt_boot_chain_swap`: 0 and the new array, or 1 if no partition had a backup. -/
def gptBootChainSwap (isUfs : Bool) (pentrySize : ℕ) (pentries : Bytes) : Option (ℤ × Bytes) :=
  ptnSwapList.foldlM (fun acc ptnName ↦ swapOne isUfs pentrySize ptnName acc) (1, pentries)

/-! ## The size of the array -/

theorem length_swapEntries {pentries out : Bytes} {a b : ℕ}
    (h : swapEntries pentries a b = some out) :
    out.length = pentries.length := by
  rw [swapEntries] at h
  split at h
  · obtain rfl := Option.some_inj.mp h
    rw [length_splice, length_splice]
  · cases h

theorem length_swapOne {isUfs : Bool} {pentrySize : ℕ} {ptnName : Bytes} {acc out : ℤ × Bytes}
    (h : swapOne isUfs pentrySize ptnName acc = some out) : out.2.length = acc.2.length := by
  rw [swapOne] at h
  split at h
  · rw [← Option.some_inj.mp h]
  · split at h
    · cases h
    · rw [← Option.some_inj.mp h]
    · split at h
      · cases h
      · rw [← Option.some_inj.mp h]
      · obtain ⟨pentries, hswap, rfl⟩ := Option.map_eq_some_iff.mp h
        exact length_swapEntries hswap

private theorem length_foldlM_swapOne {isUfs : Bool} {pentrySize : ℕ} :
    ∀ {names : List Bytes} {acc out : ℤ × Bytes},
      names.foldlM (fun acc ptnName ↦ swapOne isUfs pentrySize ptnName acc) acc = some out →
        out.2.length = acc.2.length := by
  intro names
  induction names with
  | nil =>
    intro acc out h
    rw [List.foldlM_nil] at h
    rw [← Option.some_inj.mp h]
  | cons name names ih =>
    intro acc out h
    rw [List.foldlM_cons] at h
    obtain ⟨mid, hone, hrest⟩ := Option.bind_eq_some_iff.mp h
    rw [ih hrest, length_swapOne hone]

/-- The swap moves entries about within the array and never changes its size. -/
theorem length_gptBootChainSwap {isUfs : Bool} {pentrySize : ℕ} {pentries : Bytes}
    {out : ℤ × Bytes} (h : gptBootChainSwap isUfs pentrySize pentries = some out) :
    out.2.length = pentries.length := length_foldlM_swapOne h

end MataDevice.Gpt
