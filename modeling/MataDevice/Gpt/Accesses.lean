import MataDevice.Gpt.Layout
import MataDevice.Gpt.Twins
import MataDevice.Lib.Access

/-!
# The accesses of the GPT functions

The functions that read and change the headers and the entries array once more, with every byte of
the two buffers that they touch: the block of a header and the entries array that a header
describes. The sizes of both are as in the source, and so are the constants that do not depend on
them: the scan reads 36 bytes of a name field, and an exchange copies 128 bytes.

With entries of less than 128 bytes the two entries of an exchange may overlap, and the C standard
leaves it open what `memcpy` writes then. So what it leaves in the array is a parameter.
-/

namespace MataDevice.Gpt

open Option (bind_some some_inj)

/-- What `memcpy(ptn_entry, ptn_bak_entry, PTN_ENTRY_SIZE)` makes of an array -/
structure EntryCopy where
  copy : Bytes → ℕ → ℕ → Bytes
  length_copy : ∀ pentries a b, (copy pentries a b).length = pentries.length
  copy_eq : ∀ {pentries a b}, Apart a ptnEntrySize b ptnEntrySize →
    copy pentries a b = splice pentries a (slice pentries b ptnEntrySize)

section

variable (memcpy : EntryCopy)

/-! ## The entries array -/

/-- The bytes of the name field that starts at `pos` -/
def nameAt (pentries : Bytes) (pos : ℕ) : Bytes :=
  (List.range (maxGptNameSize / 2)).map fun i ↦ pentries.getD (pos + i * 2) 0

/-- The loop of `gpt_pentry_seek` -/
def seekLoopAccesses (ptnName pentries : Bytes) (pentrySize : ℕ) : ℕ → ℕ → Traced (Option ℕ)
  | 0, _ => pure none
  | fuel + 1, start =>
    if start + partitionNameOffset < pentries.length then do
      Traced.touch pentries.length
        ((List.range (maxGptNameSize / 2)).map fun i ↦ start + partitionNameOffset + i * 2)
      if nameMatches ptnName (nameAt pentries (start + partitionNameOffset)) then pure (some start)
      else seekLoopAccesses ptnName pentries pentrySize fuel (start + pentrySize)
    else pure none

/-- `gpt_pentry_seek` -/
def gptPentrySeekAccesses (ptnName pentries : Bytes) (start pentrySize : ℕ) : Traced (Option ℕ) :=
  seekLoopAccesses ptnName pentries pentrySize (pentries.length + 1) start

/-- The array after two entries have been exchanged -/
def exchanged (pentries : Bytes) (a b : ℕ) : Bytes :=
  splice (memcpy.copy pentries a b) b (slice pentries a ptnEntrySize)

/-- The three `memcpy` calls that exchange two entries -/
def swapEntriesAccesses (pentries : Bytes) (a b : ℕ) : Traced Bytes := do
  Traced.touch pentries.length (List.range' a ptnEntrySize)
  Traced.touch pentries.length (List.range' b ptnEntrySize)
  Traced.touch pentries.length (List.range' a ptnEntrySize)
  Traced.touch pentries.length (List.range' b ptnEntrySize)
  pure (exchanged memcpy pentries a b)

/-- One turn of the loop of `gpt_boot_chain_swap` -/
def swapOneAccesses (isUfs : Bool) (pentrySize : ℕ) (ptnName : Bytes) (acc : ℤ × Bytes) :
    Traced (ℤ × Bytes) :=
  if isSkipped isUfs ptnName then pure acc
  else do
    match ← gptPentrySeekAccesses ptnName acc.2 0 pentrySize with
    | none => pure acc
    | some ptnEntry =>
      match ← gptPentrySeekAccesses ptnName acc.2 (ptnEntry + pentrySize) pentrySize with
      | none => pure acc
      | some ptnBakEntry => do
        let pentries ← swapEntriesAccesses memcpy acc.2 ptnEntry ptnBakEntry
        pure (0, pentries)

/-- `gpt_boot_chain_swap` -/
def gptBootChainSwapAccesses (isUfs : Bool) (pentrySize : ℕ) (pentries : Bytes) :
    Traced (ℤ × Bytes) :=
  ptnSwapList.foldlM (fun acc ptnName ↦ swapOneAccesses memcpy isUfs pentrySize ptnName acc)
    (1, pentries)

/-! ## The headers -/

variable (crc32 : Bytes → UInt32) (env : Env)

/-- The CRC of a header, with its field cleared and over as many bytes as the header says -/
def headerCrcAccesses (hdr : Bytes) : Traced UInt32 := do
  Traced.touch hdr.length (List.range' headerSizeOffset 4)
  let hdrSize := (get4 hdr headerSizeOffset).toNat
  Traced.touch hdr.length (List.range' headerCrcOffset 4)
  Traced.touch hdr.length (List.range' 0 hdrSize)
  pure (crc32 ((put4 hdr headerCrcOffset 0).take hdrSize))

/-- A header block that `blk_rw` has read, or is about to write -/
def touchBlock (hdr : Bytes) : Traced Unit := Traced.touch hdr.length (List.range' 0 hdr.length)

/-- `gpt_get_state` -/
def gptGetStateAccesses (gpt : GptInstance) (d : BlockDevice) : Traced GptState := do
  let hdr := d.header gpt
  touchBlock hdr
  Traced.touch hdr.length (List.range' 0 gptSignature.length)
  Traced.touch hdr.length (List.range' headerCrcOffset 4)
  let crc ← headerCrcAccesses crc32 hdr
  pure (if crc ≠ get4 hdr headerCrcOffset then .badCrc
    else if hdr.take gptSignature.length ≠ gptSignature then .badSignature
    else .ok)

/-- `gpt_set_state` -/
def gptSetStateAccesses (gpt : GptInstance) (state : GptState) (d : BlockDevice) : Traced ℤ := do
  let hdr := d.header gpt
  touchBlock hdr
  match markHeader state hdr with
  | none => pure (-1)
  | some marked => do
    Traced.touch hdr.length (List.range' 0 (if state = .ok then gptSignature.length else 1))
    let _ ← headerCrcAccesses crc32 marked
    Traced.touch hdr.length (List.range' headerCrcOffset 4)
    touchBlock hdr
    pure 0

/-- The end of `gpt2_set_boot_chain`, with the block of the secondary header and the new array -/
def writeGpt2Accesses (hdr pentries : Bytes) : Traced Unit := do
  Traced.touch pentries.length (List.range' 0 pentries.length)
  Traced.touch hdr.length (List.range' partitionCrcOffset 4)
  let _ ← headerCrcAccesses crc32 (put4 hdr partitionCrcOffset (crc32 pentries))
  Traced.touch hdr.length (List.range' headerCrcOffset 4)
  touchBlock hdr
  Traced.touch pentries.length (List.range' 0 pentries.length)

/-- The array that the secondary GPT is given -/
def chainEntriesAccesses (boot : BootChain) (pentrySize : ℕ) (pentries : Bytes) :
    Traced (ℤ × Bytes) :=
  match boot with
  | .backup => gptBootChainSwapAccesses memcpy env.isUfsDevice pentrySize pentries
  | .normal => pure (0, pentries)

/-- `gpt2_set_boot_chain`: the return value before the writes to the device -/
def gpt2SetBootChainAccesses (boot : BootChain) (d : BlockDevice) : Traced ℤ := do
  let hdr := d.header .primary
  touchBlock hdr
  Traced.touch hdr.length (List.range' pentriesOffset 8)
  Traced.touch hdr.length (List.range' partitionCountOffset 4)
  Traced.touch hdr.length (List.range' pentrySizeOffset 4)
  match d.blkRead (d.arrayOffset .primary) (d.arraySize .primary) with
  | none => pure (-1)
  | some pentries => do
    Traced.touch pentries.length (List.range' 0 pentries.length)
    Traced.touch hdr.length (List.range' partitionCrcOffset 4)
    if get4 hdr partitionCrcOffset ≠ crc32 pentries then pure (-1)
    else do
      let hdr2 := d.header .secondary
      touchBlock hdr2
      Traced.touch hdr2.length (List.range' headerSizeOffset 4)
      Traced.touch hdr2.length (List.range' pentriesOffset 8)
      let swapped ←
        chainEntriesAccesses memcpy env boot (get4 hdr pentrySizeOffset).toNat pentries
      if swapped.1 ≠ 0 then pure swapped.1
      else do
        writeGpt2Accesses crc32 hdr2 swapped.2
        pure 0

/-! ## Where the functions have a result -/

variable {crc32 env}

theorem result_touchBlock (hdr : Bytes) : (touchBlock hdr).result = some () :=
  Traced.result_touch_range'_of_le (Nat.zero_add _).le

/-- The CRC of a header is computed in bounds exactly when the header fits into its block. -/
theorem result_headerCrcAccesses {hdr : Bytes} (h : 512 ≤ hdr.length) :
    (headerCrcAccesses crc32 hdr).result = headerCrc crc32 hdr := by
  have hsize : headerSizeOffset + 4 ≤ hdr.length := by rw [headerSizeOffset]; omega
  have hcrc : headerCrcOffset + 4 ≤ hdr.length := by rw [headerCrcOffset]; omega
  rw [headerCrcAccesses, Traced.result_bind, Traced.result_touch_range'_of_le hsize,
    bind_some, Traced.result_bind, Traced.result_touch_range'_of_le hcrc, bind_some,
    Traced.result_bind, Traced.result_touch_range', headerCrc]
  by_cases hfits : (get4 hdr headerSizeOffset).toNat ≤ hdr.length
  · rw [if_pos hfits, if_pos (by omega)]
    rfl
  · rw [if_neg hfits, if_neg (by omega)]
    rfl

variable {d : BlockDevice} {gpt : GptInstance}

theorem le_length_header : 512 ≤ (d.header gpt).length := by
  rw [BlockDevice.length_header]
  exact d.blkSize_ge

/-- The fields of a header are in its block. -/
theorem result_touch_header {off n : ℕ} (h : off + n ≤ 512) :
    (Traced.touch (d.header gpt).length (List.range' off n)).result = some () :=
  Traced.result_touch_range'_of_le (h.trans le_length_header)

theorem result_gptGetStateAccesses :
    (gptGetStateAccesses crc32 gpt d).result = (gptGetState crc32 gpt d).result := by
  rw [gptGetStateAccesses]
  simp only [Traced.result_bind, result_touchBlock, bind_some,
    result_touch_header (show 0 + gptSignature.length ≤ 512 by decide),
    result_touch_header (show headerCrcOffset + 4 ≤ 512 by decide),
    result_headerCrcAccesses le_length_header, gptGetState, headerState]
  cases headerCrc crc32 (d.header gpt) <;> rfl

theorem length_markHeader {state : GptState} {hdr marked : Bytes}
    (h : markHeader state hdr = some marked) : marked.length = hdr.length := by
  cases state with
  | ok => rw [← some_inj.mp h, length_splice]
  | badSignature => rw [← some_inj.mp h, length_splice]
  | badCrc => cases h

theorem result_gptSetStateAccesses (state : GptState) :
    (gptSetStateAccesses crc32 gpt state d).result = (gptSetState crc32 gpt state d).result := by
  rw [gptSetStateAccesses, gptSetState, Prog.read_bind_apply, Traced.result_bind, result_touchBlock,
    bind_some]
  cases hmark : markHeader state (d.header gpt) with
  | none => rfl
  | some marked =>
    have hlength : 512 ≤ marked.length := by
      rw [length_markHeader hmark]
      exact le_length_header
    have hsign : 0 + (if state = .ok then gptSignature.length else 1) ≤ 512 := by
      split_ifs <;> decide
    simp only [Traced.result_bind, result_touchBlock, bind_some, result_touch_header hsign,
      result_touch_header (show headerCrcOffset + 4 ≤ 512 by decide),
      result_headerCrcAccesses hlength, sealHeader]
    cases headerCrc crc32 marked with
    | none => rfl
    | some crc =>
      rw [Option.map_some]
      dsimp only
      rw [Prog.write_bind_apply]
      rfl

/-! ## The swap -/

variable {memcpy : EntryCopy} {pentries ptnName : Bytes} {pentrySize : ℕ}

/-- The last byte of a name field that is read is the 71st. -/
theorem result_touch_nameField (size pos : ℕ) :
    (Traced.touch size ((List.range (maxGptNameSize / 2)).map fun i ↦ pos + i * 2)).result =
      if pos + (maxGptNameSize - 2) < size then some () else none := by
  rw [Traced.result_touch]
  refine if_congr ⟨fun h ↦ ?_, fun h index hindex ↦ ?_⟩ rfl rfl
  · exact h _ (List.mem_map_of_mem (List.mem_range.mpr (show 35 < 36 by decide)))
  · obtain ⟨i, hi, rfl⟩ := List.mem_map.mp hindex
    have hlt := List.mem_range.mp hi
    rw [maxGptNameSize] at h hlt
    omega

variable {found : Option ℕ} {boot : BootChain}

/-- Where the scan of the model has a result, all accesses are in bounds. -/
theorem result_seekLoopAccesses {fuel start : ℕ}
    (h : pentrySeekLoop ptnName pentries pentrySize fuel start = some found) :
    (seekLoopAccesses ptnName pentries pentrySize fuel start).result = some found := by
  induction fuel generalizing start with
  | zero => cases h
  | succ fuel ih =>
    rw [pentrySeekLoop] at h
    rw [seekLoopAccesses]
    by_cases hstart : start + partitionNameOffset < pentries.length
    · rw [if_pos hstart, name8] at h
      rw [if_pos hstart, Traced.result_bind, result_touch_nameField]
      by_cases hfits : start + partitionNameOffset + (maxGptNameSize - 2) < pentries.length
      · rw [if_pos hfits] at h
        rw [if_pos hfits, bind_some, nameAt]
        dsimp only at h
        split_ifs at h ⊢ with hmatches
        · exact h
        · exact ih h
      · rw [if_neg hfits] at h
        cases h
    · rw [if_neg hstart] at h
      rw [if_neg hstart]
      exact h

theorem result_gptPentrySeekAccesses {start : ℕ}
    (h : gptPentrySeek ptnName pentries start pentrySize = some found) :
    (gptPentrySeekAccesses ptnName pentries start pentrySize).result = some found :=
  result_seekLoopAccesses h

theorem result_swapEntriesAccesses {a b : ℕ} :
    (swapEntriesAccesses memcpy pentries a b).result =
      if a + ptnEntrySize ≤ pentries.length ∧ b + ptnEntrySize ≤ pentries.length then
        some (exchanged memcpy pentries a b)
      else none := by
  have htouch : ∀ off, (Traced.touch pentries.length (List.range' off ptnEntrySize)).result =
      if off + ptnEntrySize ≤ pentries.length then some () else none := by
    intro off
    rw [Traced.result_touch_range']
    exact if_congr (or_iff_right (by decide)) rfl rfl
  simp only [swapEntriesAccesses, Traced.result_bind, htouch]
  by_cases ha : a + ptnEntrySize ≤ pentries.length
  · by_cases hb : b + ptnEntrySize ≤ pentries.length
    · simp [ha, hb]
    · simp [ha, hb]
  · simp [ha]

theorem result_swapEntriesAccesses_of_eq {a b : ℕ} {out : Bytes}
    (h : swapEntries pentries a b = some out) :
    (swapEntriesAccesses memcpy pentries a b).result = some out := by
  rw [swapEntries] at h
  split_ifs at h with hfits
  · rw [result_swapEntriesAccesses, if_pos ⟨by omega, hfits.2⟩, exchanged,
      memcpy.copy_eq (Or.inl hfits.1)]
    exact h

theorem result_swapOneAccesses {isUfs : Bool} {acc out : ℤ × Bytes}
    (h : swapOne isUfs pentrySize ptnName acc = some out) :
    (swapOneAccesses memcpy isUfs pentrySize ptnName acc).result = some out := by
  rw [swapOne] at h
  rw [swapOneAccesses, isSkipped]
  split_ifs at h ⊢ with hskip
  · exact h
  · cases hseek : gptPentrySeek ptnName acc.2 0 pentrySize with
    | none =>
      rw [hseek] at h
      cases h
    | some found =>
      rw [hseek] at h
      rw [Traced.result_bind, result_gptPentrySeekAccesses hseek, bind_some]
      cases found with
      | none => exact h
      | some ptnEntry =>
        dsimp only at h ⊢
        cases hseek' : gptPentrySeek ptnName acc.2 (ptnEntry + pentrySize) pentrySize with
        | none =>
          rw [hseek'] at h
          cases h
        | some found' =>
          rw [hseek'] at h
          rw [Traced.result_bind, result_gptPentrySeekAccesses hseek', bind_some]
          cases found' with
          | none => exact h
          | some ptnBakEntry =>
            obtain ⟨pentries, hswap, rfl⟩ := Option.map_eq_some_iff.mp h
            dsimp only
            rw [Traced.result_bind, result_swapEntriesAccesses_of_eq hswap]
            rfl

/-- Where the swap of the model has a result, all accesses are in bounds. -/
theorem result_gptBootChainSwapAccesses {isUfs : Bool} {out : ℤ × Bytes}
    (h : gptBootChainSwap isUfs pentrySize pentries = some out) :
    (gptBootChainSwapAccesses memcpy isUfs pentrySize pentries).result = some out := by
  have hrun : ∀ (names : List Bytes) (acc : ℤ × Bytes),
      names.foldlM (fun acc ptnName ↦ swapOne isUfs pentrySize ptnName acc) acc = some out →
        (names.foldlM (fun acc ptnName ↦ swapOneAccesses memcpy isUfs pentrySize ptnName acc)
          acc).result = some out := by
    intro names
    induction names with
    | nil => exact fun acc hacc ↦ hacc
    | cons ptnName names ih =>
      intro acc hacc
      rw [List.foldlM_cons] at hacc
      obtain ⟨mid, hone, hrest⟩ := Option.bind_eq_some_iff.mp hacc
      rw [List.foldlM_cons, Traced.result_bind, result_swapOneAccesses hone, bind_some]
      exact ih mid hrest
  exact hrun ptnSwapList (1, pentries) h

/-! ## The secondary GPT -/

theorem headerFits_put4_partitionCrc {hdr : Bytes} (y : UInt32) :
    HeaderFits (put4 hdr partitionCrcOffset y) ↔ HeaderFits hdr := by
  have hsame := sameFields_putPartitionCrc hdr y
  rw [HeaderFits, HeaderFits, hsame.headerSize, hsame.length]

/-- The end of `gpt2_set_boot_chain` stays in bounds exactly when the secondary header fits. -/
theorem result_writeGpt2Accesses :
    (writeGpt2Accesses crc32 (d.header gpt) pentries).result =
      if HeaderFits (d.header gpt) then some () else none := by
  have hlength : 512 ≤ (put4 (d.header gpt) partitionCrcOffset (crc32 pentries)).length := by
    rw [length_put4]
    exact le_length_header
  have hpentries : (Traced.touch pentries.length (List.range' 0 pentries.length)).result =
      some () := Traced.result_touch_range'_of_le (Nat.zero_add _).le
  simp only [writeGpt2Accesses, Traced.result_bind, bind_some, hpentries, result_touchBlock,
    result_touch_header (show partitionCrcOffset + 4 ≤ 512 by decide),
    result_touch_header (show headerCrcOffset + 4 ≤ 512 by decide),
    result_headerCrcAccesses hlength]
  by_cases hfits : HeaderFits (d.header gpt)
  · rw [headerCrc_of_fits ((headerFits_put4_partitionCrc _).mpr hfits), if_pos hfits]
    rfl
  · have hnone : headerCrc crc32 (put4 (d.header gpt) partitionCrcOffset (crc32 pentries)) =
        none := if_neg (mt (headerFits_put4_partitionCrc _).mp hfits)
    rw [hnone, if_neg hfits]
    rfl

/-- What is done once the array has been read and its CRC is right -/
theorem result_gpt2SetBootChainAccesses
    (hread : d.blkRead (d.arrayOffset .primary) (d.arraySize .primary) = some pentries)
    (hcrc : get4 (d.header .primary) partitionCrcOffset = crc32 pentries) :
    (gpt2SetBootChainAccesses memcpy crc32 env boot d).result =
      (chainEntriesAccesses memcpy env boot (get4 (d.header .primary) pentrySizeOffset).toNat
        pentries).result.bind fun swapped ↦
        if swapped.1 ≠ 0 then some swapped.1
        else if HeaderFits (d.header .secondary) then some 0 else none := by
  have hpentries : (Traced.touch pentries.length (List.range' 0 pentries.length)).result =
      some () := Traced.result_touch_range'_of_le (Nat.zero_add _).le
  have hend : ∀ swapped : ℤ × Bytes, (if ¬swapped.1 = 0 then (pure swapped.1 : Traced ℤ)
      else do
        writeGpt2Accesses crc32 (d.header .secondary) swapped.2
        pure 0).result =
      if ¬swapped.1 = 0 then some swapped.1
      else if HeaderFits (d.header .secondary) then some 0 else none := by
    intro swapped
    by_cases hzero : swapped.1 = 0
    · rw [if_neg (not_not.mpr hzero), if_neg (not_not.mpr hzero), Traced.result_bind,
        result_writeGpt2Accesses]
      split_ifs <;> rfl
    · rw [if_pos hzero, if_pos hzero]
      rfl
  rw [gpt2SetBootChainAccesses]
  simp only [Traced.result_bind, bind_some, result_touchBlock,
    result_touch_header (show pentriesOffset + 8 ≤ 512 by decide),
    result_touch_header (show partitionCountOffset + 4 ≤ 512 by decide),
    result_touch_header (show pentrySizeOffset + 4 ≤ 512 by decide), hread, hpentries,
    result_touch_header (show partitionCrcOffset + 4 ≤ 512 by decide), hcrc, ne_eq,
    not_true_eq_false, if_false, result_touch_header (show headerSizeOffset + 4 ≤ 512 by decide), hend]

/-- When the array cannot be read, or its CRC is wrong, the call ends before it uses the array. -/
theorem isSome_gpt2SetBootChainAccesses_of_not
    (h : ¬∃ pentries, d.blkRead (d.arrayOffset .primary) (d.arraySize .primary) = some pentries ∧
      get4 (d.header .primary) partitionCrcOffset = crc32 pentries) :
    (gpt2SetBootChainAccesses memcpy crc32 env boot d).result = some (-1) := by
  rw [gpt2SetBootChainAccesses]
  simp only [Traced.result_bind, bind_some, result_touchBlock,
    result_touch_header (show pentriesOffset + 8 ≤ 512 by decide),
    result_touch_header (show partitionCountOffset + 4 ≤ 512 by decide),
    result_touch_header (show pentrySizeOffset + 4 ≤ 512 by decide)]
  cases hread : d.blkRead (d.arrayOffset .primary) (d.arraySize .primary) with
  | none => rfl
  | some pentries =>
    have hcrc : get4 (d.header .primary) partitionCrcOffset ≠ crc32 pentries := fun hcrc ↦
      h ⟨pentries, hread, hcrc⟩
    have hpentries : (Traced.touch pentries.length (List.range' 0 pentries.length)).result =
        some () := Traced.result_touch_range'_of_le (Nat.zero_add _).le
    simp only [Traced.result_bind, bind_some, hpentries,
      result_touch_header (show partitionCrcOffset + 4 ≤ 512 by decide), ne_eq, hcrc,
      not_false_eq_true, if_true]
    rfl

/-- Where `gpt2_set_boot_chain` of the model has a result, all accesses are in bounds. -/
theorem exists_result_gpt2SetBootChainAccesses {r : ℤ}
    (h : (gpt2SetBootChain crc32 env boot d).result = some r) :
    ∃ r', (gpt2SetBootChainAccesses memcpy crc32 env boot d).result = some r' := by
  by_cases hvalid : ∃ pentries,
      d.blkRead (d.arrayOffset .primary) (d.arraySize .primary) = some pentries ∧
        get4 (d.header .primary) partitionCrcOffset = crc32 pentries
  · obtain ⟨pentries, hread, hcrc⟩ := hvalid
    rw [gpt2SetBootChain, Prog.read_bind_apply] at h
    simp only [hread, hcrc, ne_eq, not_true_eq_false, if_false] at h
    rw [result_gpt2SetBootChainAccesses hread hcrc]
    cases hchain : chainEntries env boot (get4 (d.header .primary) pentrySizeOffset).toNat pentries with
    | none =>
      rw [hchain] at h
      cases h
    | some swapped =>
      have hswapped : (chainEntriesAccesses memcpy env boot
          (get4 (d.header .primary) pentrySizeOffset).toNat pentries).result = some swapped := by
        cases boot with
        | backup => exact result_gptBootChainSwapAccesses hchain
        | normal => exact hchain
      rw [hswapped, bind_some]
      by_cases hzero : swapped.1 = 0
      · have hfits : HeaderFits (d.header .secondary) := by
          by_contra hfits
          have hnone : headerCrc crc32 (put4 (d.header .secondary) partitionCrcOffset
              (crc32 swapped.2)) = none := if_neg (mt (headerFits_put4_partitionCrc _).mp hfits)
          rw [hchain] at h
          simp only [hzero, not_true_eq_false, if_false, sealHeader, hnone, Option.map_none] at h
          cases h
        exact ⟨0, by rw [if_neg (not_not.mpr hzero), if_pos hfits]⟩
      · exact ⟨_, if_pos hzero⟩
  · exact ⟨-1, isSome_gpt2SetBootChainAccesses_of_not hvalid⟩

end

end MataDevice.Gpt
