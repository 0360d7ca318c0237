import MataDevice.Gpt.Stages

/-!
# The update is crash safe

Whatever stages `prepare_partitions` is called with and wherever its calls are cut off, one of the
two GPTs stays fully valid: it has the signature, a right header CRC and a right array CRC.

## The invariant

The header and the array of a GPT are separate writes, so the secondary GPT is inconsistent between
them, and `gpt_get_state` does not notice since it never looks at an array. What carries the proof
is that the primary array is never written at all and that the fields of the primary header never
change but for the signature: the primary GPT is valid whenever it has its signature. So it is
enough that the signature is only ever cleared over a secondary GPT that is valid at that moment,
which is what the order of the writes of `UPDATE_MAIN` is for, and that the secondary GPT is only
ever written to while the primary one has its signature.
-/

namespace MataDevice.Gpt

open BlockDevice List

/-- A GPT with the signature, a right header CRC and a right array CRC. A header whose size does
not fit into its block has no CRC, let alone a right one. -/
structure GptValid (crc32 : Bytes → UInt32) (d : BlockDevice) (gpt : GptInstance) : Prop where
  signature : HasSignature (d.header gpt)
  headerCrc : HeaderCrcOk crc32 (d.header gpt)
  arrayCrc : get4 (d.header gpt) partitionCrcOffset = crc32 (d.array gpt)

/-- Two fully valid GPTs: with the same number of entries of the same size, and with their headers
and arrays in four disjoint regions of the device. -/
structure ValidPair (crc32 : Bytes → UInt32) (d : BlockDevice) : Prop extends RegionsApart d where
  valid : ∀ gpt, GptValid crc32 d gpt
  headerSize_le : ∀ gpt, (get4 (d.header gpt) headerSizeOffset).toNat ≤ d.blkSize.toNat
  count_eq : get4 (d.header .primary) partitionCountOffset
    = get4 (d.header .secondary) partitionCountOffset
  pentrySize_eq : get4 (d.header .primary) pentrySizeOffset
    = get4 (d.header .secondary) pentrySizeOffset
  array_le : ∀ gpt, (d.arrayOffset gpt).toNat + d.arraySize gpt ≤ d.data.length

theorem ValidPair.layout {crc32 : Bytes → UInt32} {d : BlockDevice} (hv : ValidPair crc32 d) :
    d.Layout where
  toRegionsApart := hv.toRegionsApart
  array_le := hv.array_le
  arraySize_eq := by rw [arraySize, arraySize, hv.count_eq, hv.pentrySize_eq]

/-- The invariant of the update. -/
structure CrashInv (crc32 : Bytes → UInt32) (d : BlockDevice) : Prop where
  layout : d.Layout
  fits : HeaderFits (d.header .secondary)
  headerCrc : HeaderCrcOk crc32 (d.header .primary)
  arrayCrc : get4 (d.header .primary) partitionCrcOffset = crc32 (d.array .primary)
  cover : HasSignature (d.header .primary) ∨ GptValid crc32 d .secondary

namespace CrashInv

variable {crc32 : Bytes → UInt32} {env : Env} {d : BlockDevice}

theorem of_validPair (hv : ValidPair crc32 d) : CrashInv crc32 d where
  layout := hv.layout
  fits := (hv.valid .secondary).headerCrc.fits
  headerCrc := (hv.valid .primary).headerCrc
  arrayCrc := (hv.valid .primary).arrayCrc
  cover := Or.inl (hv.valid .primary).signature

theorem valid (hi : CrashInv crc32 d) :
    GptValid crc32 d .primary ∨ GptValid crc32 d .secondary := by
  rcases hi.cover with hs | hv
  · exact Or.inl ⟨hs, hi.headerCrc, hi.arrayCrc⟩
  · exact Or.inr hv

theorem blkSize_le (d : BlockDevice) (gpt : GptInstance) : 512 ≤ (d.header gpt).length := by
  rw [length_header]
  exact d.blkSize_ge

/-! ## One write -/

theorem putHeader_secondary {h : Bytes} (hi : CrashInv crc32 d)
    (hs : HasSignature (d.header .primary)) (hf : SameFields h (d.header .secondary)) :
    CrashInv crc32 (d.putHeader .secondary h) := by
  have hlen : h.length = d.blkSize.toNat := by rw [hf.length, length_header]
  have hp : (d.putHeader .secondary h).header .primary = d.header .primary :=
    header_putHeader_ne hi.layout hlen (by decide)
  refine ⟨hi.layout.putHeader hf, ?_, ?_, ?_, ?_⟩
  · rw [header_putHeader_same hlen]
    exact hi.fits.of_sameFields hf
  · rw [hp]
    exact hi.headerCrc
  · rw [hp, array_putHeader hi.layout hf]
    exact hi.arrayCrc
  · rw [hp]
    exact Or.inl hs

theorem putArray_secondary {a : Bytes} (hi : CrashInv crc32 d)
    (hs : HasSignature (d.header .primary)) (hlen : a.length = d.arraySize .secondary) :
    CrashInv crc32 (d.putArray .secondary a) := by
  have hh : ∀ gpt, (d.putArray .secondary a).header gpt = d.header gpt := fun gpt ↦
    header_putArray hi.layout hlen
  refine ⟨hi.layout.putArray hlen, ?_, ?_, ?_, ?_⟩
  · rw [hh]
    exact hi.fits
  · rw [hh]
    exact hi.headerCrc
  · rw [hh, array_putArray_ne hi.layout hlen (by decide)]
    exact hi.arrayCrc
  · rw [hh]
    exact Or.inl hs

/-- Sealing a marked primary header keeps everything but the signature. -/
theorem putHeader_primary {h : Bytes} (hi : CrashInv crc32 d)
    (hf : SameFields h (d.header .primary))
    (hc : get4 h partitionCrcOffset = get4 (d.header .primary) partitionCrcOffset)
    (hs : HasSignature h ∨ GptValid crc32 d .secondary) :
    CrashInv crc32 (d.putHeader .primary (sealed crc32 h)) := by
  have hf' : SameFields (sealed crc32 h) (d.header .primary) := (sameFields_sealed h).trans hf
  have hlen : (sealed crc32 h).length = d.blkSize.toNat := by rw [hf'.length, length_header]
  have hsec : (d.putHeader .primary (sealed crc32 h)).header .secondary = d.header .secondary :=
    header_putHeader_ne hi.layout hlen (by decide)
  have hlen' : 512 ≤ h.length := by
    rw [hf.length]
    exact blkSize_le d _
  refine ⟨hi.layout.putHeader hf', ?_, ?_, ?_, ?_⟩
  · rw [hsec]
    exact hi.fits
  · rw [header_putHeader_same hlen]
    exact headerCrcOk_sealed (hi.headerCrc.fits.of_sameFields hf) hlen'
  · rw [header_putHeader_same hlen, array_putHeader hi.layout hf', partitionCrc_sealed, hc]
    exact hi.arrayCrc
  · rcases hs with hs | hv
    · left
      rw [header_putHeader_same hlen, HasSignature, take_sealed (by decide)]
      exact hs
    · right
      refine ⟨?_, ?_, ?_⟩
      · rw [hsec]
        exact hv.signature
      · rw [hsec]
        exact hv.headerCrc
      · rw [hsec, array_putHeader hi.layout hf']
        exact hv.arrayCrc

/-! ## The functions of the update -/

/-- `gpt2_set_boot_chain` over a primary GPT with its signature, which it leaves alone. If it
returns 0 and the secondary GPT had its signature, then the secondary GPT is valid as well. -/
theorem triple_gpt2SetBootChain (boot : BootChain) (S : Prop) :
    Prog.Triple
      (fun d ↦ CrashInv crc32 d ∧ HasSignature (d.header .primary) ∧
        (S → HasSignature (d.header .secondary)))
      (gpt2SetBootChain crc32 env boot) (CrashInv crc32)
      fun r d ↦ CrashInv crc32 d ∧ HasSignature (d.header .primary) ∧
        (r = 0 → S → GptValid crc32 d .secondary) := by
  rintro d ⟨hi, hs, hS⟩
  rcases gpt2SetBootChain_cases env boot hi.layout hi.fits hi.arrayCrc with
    ⟨r, hr, -, hrun⟩ | ⟨a, -, hlen, hrun⟩
  · rw [hrun]
    refine ⟨by simp, fun r' hr' ↦ ⟨hi, hs, fun h0 ↦ ?_⟩⟩
    rw [h0] at hr'
    exact absurd hr' hr
  · have hsec := blkSize_le d .secondary
    have hf : SameFields (chainHeader crc32 (d.header .secondary) a) (d.header .secondary) :=
      sameFields_chainHeader _ _
    have hblk : (chainHeader crc32 (d.header .secondary) a).length = d.blkSize.toNat := by
      rw [hf.length, length_header]
    rw [hrun]
    set d₁ := d.putHeader .secondary (chainHeader crc32 (d.header .secondary) a) with hd₁
    have hi₁ : CrashInv crc32 d₁ := hi.putHeader_secondary hs hf
    have hs₁ : HasSignature (d₁.header .primary) := by
      rw [hd₁, header_putHeader_ne hi.layout hblk (by decide)]
      exact hs
    have hlen₁ : a.length = d₁.arraySize .secondary := by
      rw [hlen, hd₁, arraySize_congr (sameFields_putHeader hi.layout hf)]
    have hi₂ : CrashInv crc32 (d₁.putArray .secondary a) := hi₁.putArray_secondary hs₁ hlen₁
    refine ⟨?_, fun r hr ↦ ⟨hi₂, ?_, fun _ hS' ↦ ⟨?_, ?_, ?_⟩⟩⟩
    · simp only [mem_cons, not_mem_nil, or_false]
      rintro t (rfl | rfl)
      · exact hi₁
      · exact hi₂
    · change HasSignature ((d₁.putArray .secondary a).header .primary)
      rw [header_putArray hi₁.layout hlen₁]
      exact hs₁
    · change HasSignature ((d₁.putArray .secondary a).header .secondary)
      rw [header_putArray hi₁.layout hlen₁, hd₁, header_putHeader_same hblk, HasSignature,
        take_chainHeader (by decide)]
      exact hS hS'
    · change HeaderCrcOk crc32 ((d₁.putArray .secondary a).header .secondary)
      rw [header_putArray hi₁.layout hlen₁, hd₁, header_putHeader_same hblk]
      exact headerCrcOk_chainHeader hi.fits hsec
    · change get4 ((d₁.putArray .secondary a).header .secondary) partitionCrcOffset
        = crc32 ((d₁.putArray .secondary a).array .secondary)
      rw [header_putArray hi₁.layout hlen₁, array_putArray_same hi₁.layout hlen₁, hd₁,
        header_putHeader_same hblk, partitionCrc_chainHeader hsec]

theorem triple_break_primary :
    Prog.Triple (fun d ↦ CrashInv crc32 d ∧ GptValid crc32 d .secondary)
      (gptSetState crc32 .primary .badSignature) (CrashInv crc32) fun _ _ ↦ True := by
  rintro d ⟨hi, hv⟩
  rw [gptSetState_badSignature_apply hi.headerCrc.fits]
  refine ⟨?_, fun _ _ ↦ trivial⟩
  rintro t ht
  obtain rfl := mem_singleton.mp ht
  exact hi.putHeader_primary (sameFields_broken _) (partitionCrc_broken _) (Or.inr hv)

theorem triple_restore_primary :
    Prog.Triple (CrashInv crc32) (gptSetState crc32 .primary .ok) (CrashInv crc32)
      fun _ d ↦ CrashInv crc32 d ∧ HasSignature (d.header .primary) := by
  intro d hi
  have hsig : HasSignature (restored (d.header .primary)) :=
    hasSignature_of_take (take_restored (blkSize_le d _))
  have hi' : CrashInv crc32 (d.putHeader .primary (sealed crc32 (restored (d.header .primary)))) :=
    hi.putHeader_primary (sameFields_restored _) (partitionCrc_restored _) (Or.inl hsig)
  rw [gptSetState_ok_apply hi.headerCrc.fits]
  refine ⟨?_, fun _ _ ↦ ⟨hi', ?_⟩⟩
  · rintro t ht
    obtain rfl := mem_singleton.mp ht
    exact hi'
  · change HasSignature ((d.putHeader .primary _).header .primary)
    rw [header_putHeader_same
        (by rw [length_sealed, (sameFields_restored _).length, length_header]),
      HasSignature, take_sealed (by decide)]
    exact hsig

/-- Either mark on the secondary header, over a primary GPT with its signature. -/
theorem triple_mark_secondary {state : GptState} (hst : state ≠ .badCrc) :
    Prog.Triple (fun d ↦ CrashInv crc32 d ∧ HasSignature (d.header .primary))
      (gptSetState crc32 .secondary state) (CrashInv crc32) fun _ _ ↦ True := by
  rintro d ⟨hi, hs⟩
  cases state with
  | ok =>
    rw [gptSetState_ok_apply hi.fits]
    refine ⟨?_, fun _ _ ↦ trivial⟩
    rintro t ht
    obtain rfl := mem_singleton.mp ht
    exact hi.putHeader_secondary hs ((sameFields_sealed _).trans (sameFields_restored _))
  | badSignature =>
    rw [gptSetState_badSignature_apply hi.fits]
    refine ⟨?_, fun _ _ ↦ trivial⟩
    rintro t ht
    obtain rfl := mem_singleton.mp ht
    exact hi.putHeader_secondary hs ((sameFields_sealed _).trans (sameFields_broken _))
  | badCrc => exact absurd rfl hst

theorem triple_gptGetState (gpt : GptInstance) (P : BlockDevice → Prop) (C : BlockDevice → Prop) :
    Prog.Triple P (gptGetState crc32 gpt) C
      fun state d ↦ P d ∧ headerState crc32 (d.header gpt) = some state := by
  intro d hP
  cases hst : headerState crc32 (d.header gpt) with
  | none =>
    have hrun : gptGetState crc32 gpt d = ⟨[], none⟩ := by rw [gptGetState, hst]
    rw [hrun]
    exact ⟨by simp, by simp⟩
  | some state =>
    rw [gptGetState_apply hst]
    refine ⟨by simp, fun state' hstate ↦ ⟨hP, ?_⟩⟩
    rw [← hstate]
    exact hst

/-! ## The stages -/

/-- What `prepare_partitions` knows of the headers when it enters a stage. -/
def StageHeaders (d : BlockDevice) : BootUpdateStage → Prop
  | .main => HasSignature (d.header .primary) ∧ HasSignature (d.header .secondary)
  | .backup => True
  | .finalize => HasSignature (d.header .primary)

theorem stageHeaders_of_internalStage {gptPrim gptSecond : GptState} {stage : BootUpdateStage}
    (hp : headerState crc32 (d.header .primary) = some gptPrim)
    (hs : headerState crc32 (d.header .secondary) = some gptSecond)
    (h : internalStage gptPrim gptSecond = some stage) : StageHeaders d stage := by
  have hsig : ∀ {gpt : GptInstance}, headerState crc32 (d.header gpt) = some .ok →
      HasSignature (d.header gpt) := fun hok ↦
    hasSignature_of_take ((headerState_cases hok (by decide)).2.mp rfl)
  cases gptPrim <;> cases gptSecond <;>
    simp only [internalStage, reduceCtorEq, or_self, or_true, true_or, and_self, and_false,
      false_and,
      if_true, if_false, Option.some.injEq] at h
  · obtain rfl := h
    exact ⟨hsig hp, hsig hs⟩
  · obtain rfl := h
    exact hsig hp
  · obtain rfl := h
    trivial

theorem triple_runStage (stage : BootUpdateStage) :
    Prog.Triple (fun d ↦ CrashInv crc32 d ∧ StageHeaders d stage) (runStage crc32 env stage)
      (CrashInv crc32) fun _ _ ↦ True := by
  cases stage with
  | main =>
    refine Prog.triple_ite (fun _ ↦ Prog.triple_pure _ fun _ _ ↦ trivial) fun _ ↦ ?_
    -- the primary header is broken only after the secondary GPT has become valid
    refine Prog.triple_bind ((triple_gpt2SetBootChain .backup True).conseq
      (fun d hd ↦ ⟨hd.1, hd.2.1, fun _ ↦ hd.2.2⟩) fun _ _ h ↦ h) fun r ↦ ?_
    refine Prog.triple_ite (fun _ ↦ Prog.triple_pure _ fun _ _ ↦ trivial) fun hr ↦ ?_
    exact triple_break_primary.conseq
      (fun d hd ↦ ⟨hd.1, hd.2.2 (not_not.mp hr) trivial⟩) fun _ _ h ↦ h
  | backup =>
    refine Prog.triple_ite (fun _ ↦ Prog.triple_pure _ fun _ _ ↦ trivial) fun _ ↦ ?_
    -- the primary GPT is whole again before the secondary one is given up
    refine Prog.triple_bind (triple_restore_primary.conseq (fun d hd ↦ hd.1) fun _ _ h ↦ h)
      fun r ↦ ?_
    exact Prog.triple_ite (fun _ ↦ Prog.triple_pure _ fun _ _ ↦ trivial)
      fun _ ↦ triple_mark_secondary (by decide)
  | finalize =>
    -- the secondary GPT is rewritten without a signature, under cover of the primary one
    refine Prog.triple_bind ((triple_gpt2SetBootChain .normal False).conseq
      (fun d hd ↦ ⟨hd.1, hd.2, False.elim⟩) fun _ _ h ↦ h) fun r ↦ ?_
    refine Prog.triple_ite (fun _ ↦ Prog.triple_pure _ fun _ _ ↦ trivial) fun _ ↦ ?_
    exact (triple_mark_secondary (by decide)).conseq (fun d hd ↦ ⟨hd.1, hd.2.1⟩) fun _ _ h ↦ h

/-- No call of `prepare_partitions` leaves the invariant at any of its writes. -/
theorem triple_preparePartitions (stage : BootUpdateStage) :
    Prog.Triple (CrashInv crc32) (preparePartitions crc32 env stage) (CrashInv crc32)
      fun _ _ ↦ True := by
  refine Prog.triple_ite (fun _ ↦ Prog.triple_pure _ fun _ _ ↦ trivial) fun _ ↦ ?_
  refine Prog.triple_bind (triple_gptGetState .primary _ _) fun gptPrim ↦ ?_
  refine Prog.triple_bind (triple_gptGetState .secondary _ _) fun gptSecond ↦ ?_
  cases hint : internalStage gptPrim gptSecond with
  | none => exact Prog.triple_pure _ fun _ _ ↦ trivial
  | some internal =>
    refine Prog.triple_ite (fun _ ↦ Prog.triple_pure _ fun _ _ ↦ trivial) fun _ ↦ ?_
    refine Prog.triple_ite (fun _ ↦ Prog.triple_pure _ fun _ _ ↦ trivial) fun heq ↦ ?_
    obtain rfl : stage = internal := not_not.mp heq
    exact (triple_runStage stage).conseq
      (fun d hd ↦ ⟨hd.1.1, stageHeaders_of_internalStage hd.1.2 hd.2 hint⟩) fun _ _ h ↦ h

end CrashInv

/-! ## A disk

Five blocks of 512 bytes: the protective MBR, the primary header, its array, the secondary array and
the secondary header. The two entries are `tz` and its backup. -/

/-- One bit of the CRC-32 that zlib computes. -/
def crcBit (c : ℕ) : ℕ := if c % 2 = 1 then (c / 2) ^^^ 0xEDB88320 else c / 2

def crcByte (c : ℕ) (b : UInt8) : ℕ := crcBit^[8] (c ^^^ b.toNat)

-- the match makes an evaluator compute each intermediate value before it goes on
def crcLoop : Bytes → ℕ → ℕ
  | [], c => c
  | b :: buf, c =>
    match crcByte c b with
    | 0 => crcLoop buf 0
    | c' + 1 => crcLoop buf (c' + 1)

/-- `crc32(0, buf, len)` as zlib documents it. -/
def zlibCrc32 (buf : Bytes) : UInt32 := UInt32.ofNat (crcLoop buf 0xFFFFFFFF ^^^ 0xFFFFFFFF)

example : zlibCrc32 (chars "123456789") = 0xCBF43926 := by decide +kernel

/-- An entry with the given name in UTF-16 and a filler for the fields before it. -/
def sampleEntry (filler : UInt8) (name : String) : Bytes :=
  splice (List.replicate 56 filler ++ List.replicate 72 0) partitionNameOffset
    ((chars name).flatMap fun c ↦ [c, 0])

def sampleArray : Bytes := sampleEntry 1 "tz" ++ sampleEntry 2 "tzbak"

/-- A header of 92 bytes with the given CRC for `sampleArray`, which starts at block `lba`. -/
def sampleHeader (lba : UInt8) (crc : UInt32) : Bytes :=
  gptSignature ++ [0, 1, 0] ++ le4 92 ++ le4 crc ++ List.replicate 52 0 ++
    [lba, 0, 0, 0, 0, 0, 0, 0] ++ le4 2 ++ le4 128 ++ le4 1985097200 ++ List.replicate 420 0

theorem length_sampleHeader (lba : UInt8) (crc : UInt32) : (sampleHeader lba crc).length = 512 := by
  have hsig : gptSignature.length = 9 := by decide
  simp only [sampleHeader, length_append, hsig, length_le4, length_replicate,
    length_cons, length_nil]

theorem length_sampleArray : sampleArray.length = 256 := by decide +kernel

/-- The bytes of the disk whose secondary header gives `lba` for its array and has the given CRC. -/
def sampleData (lba : UInt8) (crc : UInt32) : Bytes :=
  List.replicate 512 0 ++ (sampleHeader 2 3298038650 ++ (sampleArray ++ (List.replicate 256 0 ++
    (sampleArray ++ (List.replicate 256 0 ++ sampleHeader lba crc)))))

theorem length_sampleData (lba : UInt8) (crc : UInt32) : (sampleData lba crc).length = 2560 := by
  simp only [sampleData, length_append, length_replicate, length_sampleHeader,
    length_sampleArray]

theorem sampleBlkSize_ge : 512 ≤ (512 : UInt32).toNat := by decide

def sampleDisk (lba : UInt8) (crc : UInt32) : BlockDevice where
  data := sampleData lba crc
  blkSize := 512
  blkSize_ge := by decide
  size_ge := by
    rw [length_sampleData]
    decide
  size_lt := by
    rw [length_sampleData]
    decide

/-- An eMMC device, which has no boot LUN to switch. -/
def sampleEnv : Env where
  bootdevice := "soc/7824900.sdhci".toList
  opens := true
  stat _ := false
  readlink _ := none
  readdir _ := none
  setBootLunQuery _ _ := false

theorem headerOffset_sampleDisk (lba : UInt8) (crc : UInt32) (gpt : GptInstance) :
    (sampleDisk lba crc).headerOffset gpt = if gpt = .primary then 512 else 2048 := by
  cases gpt
  · rfl
  · simp only [headerOffset, sampleDisk, length_sampleData]
    decide

theorem header_primary_sampleDisk (lba : UInt8) (crc : UInt32) :
    (sampleDisk lba crc).header .primary = sampleHeader 2 3298038650 := by
  rw [header, headerOffset_sampleDisk]
  exact slice_append length_replicate (length_sampleHeader _ _)

theorem header_secondary_sampleDisk (lba : UInt8) (crc : UInt32) :
    (sampleDisk lba crc).header .secondary = sampleHeader lba crc := by
  rw [header, headerOffset_sampleDisk]
  have hsplit : (sampleDisk lba crc).data
      = (List.replicate 512 0 ++ (sampleHeader 2 3298038650 ++ (sampleArray ++
          (List.replicate 256 0 ++ (sampleArray ++ List.replicate 256 0))))) ++
        (sampleHeader lba crc ++ []) := by
    simp only [sampleDisk, sampleData, append_assoc, List.append_nil]
  rw [hsplit]
  refine slice_append ?_ (length_sampleHeader _ _)
  simp only [length_append, length_replicate, length_sampleHeader, length_sampleArray]
  decide

theorem arrayOffset_sampleDisk (gpt : GptInstance) :
    ((sampleDisk 3 2717067324).arrayOffset gpt).toNat = if gpt = .primary then 1024 else 1536 := by
  cases gpt
  · rw [arrayOffset, header_primary_sampleDisk]
    decide +kernel
  · rw [arrayOffset, header_secondary_sampleDisk]
    decide +kernel

theorem arraySize_sampleDisk (gpt : GptInstance) :
    (sampleDisk 3 2717067324).arraySize gpt = 256 := by
  cases gpt
  · rw [arraySize, header_primary_sampleDisk]
    decide +kernel
  · rw [arraySize, header_secondary_sampleDisk]
    decide +kernel

theorem array_sampleDisk (gpt : GptInstance) :
    (sampleDisk 3 2717067324).array gpt = sampleArray := by
  rw [array, arrayOffset_sampleDisk, arraySize_sampleDisk]
  cases gpt <;> decide +kernel

theorem validPair_sampleDisk : ValidPair zlibCrc32 (sampleDisk 3 2717067324) where
  valid gpt := by
    refine ⟨?_, ?_, ?_⟩
    · cases gpt
      · rw [header_primary_sampleDisk]
        decide +kernel
      · rw [header_secondary_sampleDisk]
        decide +kernel
    · cases gpt
      · rw [header_primary_sampleDisk]
        decide +kernel
      · rw [header_secondary_sampleDisk]
        decide +kernel
    · rw [array_sampleDisk]
      cases gpt
      · rw [header_primary_sampleDisk]
        decide +kernel
      · rw [header_secondary_sampleDisk]
        decide +kernel
  headerSize_le gpt := by
    cases gpt
    · rw [header_primary_sampleDisk]
      decide +kernel
    · rw [header_secondary_sampleDisk]
      decide +kernel
  count_eq := by
    rw [header_primary_sampleDisk, header_secondary_sampleDisk]
    decide +kernel
  pentrySize_eq := by
    rw [header_primary_sampleDisk, header_secondary_sampleDisk]
    decide +kernel
  headers := by
    rw [headerOffset_sampleDisk, headerOffset_sampleDisk]
    decide
  arrays := by
    rw [arrayOffset_sampleDisk, arrayOffset_sampleDisk, arraySize_sampleDisk, arraySize_sampleDisk]
    decide
  header_array gpt gpt' := by
    rw [headerOffset_sampleDisk, arrayOffset_sampleDisk, arraySize_sampleDisk]
    cases gpt <;> cases gpt' <;> decide
  array_le gpt := by
    rw [arrayOffset_sampleDisk, arraySize_sampleDisk]
    cases gpt <;> exact (by decide : _ ≤ 2560).trans_eq (length_sampleData _ _).symm

/-! ## Crash safety -/

/-- **Crash safety.** From a disk with two fully valid GPTs, calls of `prepare_partitions` with any
stages, each cut off after any of its writes and each with any answers from the system, never leave
a disk on which neither GPT is valid. -/
theorem gptValid_of_crashReach {crc32 : Bytes → UInt32} {d₀ d : BlockDevice}
    (hv : ValidPair crc32 d₀)
    (hr : CrashReach (fun call : Env × BootUpdateStage ↦ preparePartitions crc32 call.1 call.2)
      d₀ d) :
    GptValid crc32 d .primary ∨ GptValid crc32 d .secondary :=
  (hr.induction (CrashInv.of_validPair hv) fun call ↦
    CrashInv.triple_preparePartitions call.2).valid

theorem gptValid_of_crashReach_sampleDisk :
    (preparePartitions zlibCrc32 sampleEnv .main (sampleDisk 3 2717067324)).trace.length = 3 ∧
      ∀ d ∈ (preparePartitions zlibCrc32 sampleEnv .main (sampleDisk 3 2717067324)).trace,
        GptValid zlibCrc32 d .primary ∨ GptValid zlibCrc32 d .secondary :=
  ⟨by decide +kernel, fun _ hd ↦
    gptValid_of_crashReach validPair_sampleDisk (.cut (sampleEnv, .main) .start hd)⟩

end MataDevice.Gpt
