import MataDevice.Gpt.Layout

/-!
# What the functions of the update do

One lemma for each function of `gpt-utils` that the stages are built from: which device it leaves
after each of its writes and what it returns. Later proofs run the stages through these lemmas and
never unfold the functions again.
-/

namespace MataDevice.Gpt

open BlockDevice

variable {crc32 : Bytes → UInt32} {env : Env} {d : BlockDevice} {gpt : GptInstance} {h : Bytes}

/-! ## Marking a header -/

/-- The signature as the format defines it, without the NUL of the constant. -/
def HasSignature (h : Bytes) : Prop := h.take 8 = chars "EFI PART"

instance (h : Bytes) : Decidable (HasSignature h) := inferInstanceAs (Decidable (_ = _))

/-- A header with its signature written over. -/
def restored (h : Bytes) : Bytes := splice h 0 gptSignature

/-- A header with the first byte of its signature cleared. -/
def broken (h : Bytes) : Bytes := splice h 0 [0]

theorem sameFields_restored (h : Bytes) : SameFields (restored h) h :=
  sameFields_splice (by decide) (by decide)

theorem sameFields_broken (h : Bytes) : SameFields (broken h) h :=
  sameFields_splice (by decide) (by decide)

theorem partitionCrc_restored (h : Bytes) :
    get4 (restored h) partitionCrcOffset = get4 h partitionCrcOffset :=
  get4_congr (slice_splice_apart (by decide))

theorem partitionCrc_broken (h : Bytes) :
    get4 (broken h) partitionCrcOffset = get4 h partitionCrcOffset :=
  get4_congr (slice_splice_apart (by decide))

theorem take_restored (hlen : 512 ≤ h.length) :
    (restored h).take gptSignature.length = gptSignature := by
  have hlen' : 0 + gptSignature.length ≤ h.length := by
    have hsig : gptSignature.length = 9 := by decide
    omega
  have hslice : slice (restored h) 0 gptSignature.length = gptSignature := slice_splice_same hlen'
  simpa [slice] using hslice

theorem take_broken_ne (hlen : 512 ≤ h.length) :
    (broken h).take gptSignature.length ≠ gptSignature := by
  intro heq
  have hcell := congrArg (fun l ↦ l[0]?) heq
  rw [List.getElem?_take_of_lt (by decide), broken, getElem?_splice, if_pos (by simp; omega)]
    at hcell
  revert hcell
  decide

/-- Of the marks on a header only the last one shows. -/
theorem restored_broken (h : Bytes) : restored (broken h) = restored h := by
  apply List.ext_getElem?
  intro i
  have hsig : gptSignature.length = 9 := by decide
  simp only [restored, broken, getElem?_splice, length_splice, hsig, List.length_singleton]
  split_ifs <;> first | rfl | omega

theorem restored_eq_self (hs : h.take gptSignature.length = gptSignature) (hlen : 512 ≤ h.length) :
    restored h = h := by
  have hslice : slice h 0 gptSignature.length = gptSignature := by simpa [slice] using hs
  have hfit : 0 + gptSignature.length ≤ h.length := by
    have hsig : gptSignature.length = 9 := by decide
    omega
  have hself : splice h 0 (slice h 0 gptSignature.length) = h := splice_slice_self h hfit
  rwa [hslice] at hself

theorem hasSignature_of_take (hs : h.take gptSignature.length = gptSignature) : HasSignature h := by
  have htake := congrArg (List.take 8) hs
  rw [List.take_take] at htake
  exact htake

/-! ## Reading and setting the state of a header -/

theorem headerState_of_fits (hf : HeaderFits h) :
    headerState crc32 h = some (
      if headerSum crc32 h ≠ get4 h headerCrcOffset then .badCrc
      else if h.take gptSignature.length ≠ gptSignature then .badSignature
      else .ok) := by
  rw [headerState, headerCrc_of_fits hf]
  rfl

theorem headerState_ok (hok : HeaderCrcOk crc32 h)
    (hs : h.take gptSignature.length = gptSignature) : headerState crc32 h = some .ok := by
  rw [headerState_of_fits hok.fits, if_neg (not_not_intro hok.headerSum_eq),
    if_neg (not_not_intro hs)]

theorem headerState_badSignature (hok : HeaderCrcOk crc32 h)
    (hs : h.take gptSignature.length ≠ gptSignature) :
    headerState crc32 h = some .badSignature := by
  rw [headerState_of_fits hok.fits, if_neg (not_not_intro hok.headerSum_eq), if_pos hs]

variable {state : GptState} {a : Bytes}

/-- Any state but a bad CRC comes with a right CRC, and tells whether the signature is there. -/
theorem headerState_cases (hst : headerState crc32 h = some state) (hne : state ≠ .badCrc) :
    HeaderCrcOk crc32 h ∧ (state = .ok ↔ h.take gptSignature.length = gptSignature) := by
  by_cases hf : HeaderFits h
  · rw [headerState_of_fits hf] at hst
    obtain rfl := Option.some_inj.mp hst
    by_cases hsum : headerSum crc32 h = get4 h headerCrcOffset
    · refine ⟨by rw [HeaderCrcOk, headerCrc_of_fits hf, hsum], ?_⟩
      rw [if_neg (not_not_intro hsum)]
      by_cases hs : h.take gptSignature.length = gptSignature <;> simp [hs]
    · rw [if_pos hsum] at hne
      exact absurd rfl hne
  · have hnone : headerCrc crc32 h = none := if_neg hf
    rw [headerState, hnone] at hst
    cases hst

theorem gptGetState_apply (hst : headerState crc32 (d.header gpt) = some state) :
    gptGetState crc32 gpt d = ⟨[], some state⟩ := by
  rw [gptGetState, hst]

/-- A header that is marked with a state is written back with its new CRC. -/
theorem gptSetState_apply {hdr : Bytes}
    (hmark : markHeader state (d.header gpt) = some hdr) (hf : HeaderFits hdr) :
    gptSetState crc32 gpt state d = ⟨[d.putHeader gpt (sealed crc32 hdr)], some 0⟩ := by
  rw [gptSetState, Prog.read_bind_apply, hmark]
  dsimp only
  rw [sealHeader_eq hf]
  rfl

theorem gptSetState_ok_apply (hf : HeaderFits (d.header gpt)) :
    gptSetState crc32 gpt .ok d
      = ⟨[d.putHeader gpt (sealed crc32 (restored (d.header gpt)))], some 0⟩ :=
  gptSetState_apply rfl (hf.of_sameFields (sameFields_restored _))

theorem gptSetState_badSignature_apply (hf : HeaderFits (d.header gpt)) :
    gptSetState crc32 gpt .badSignature d
      = ⟨[d.putHeader gpt (sealed crc32 (broken (d.header gpt)))], some 0⟩ :=
  gptSetState_apply rfl (hf.of_sameFields (sameFields_broken _))

/-! ## Setting the boot chain of the secondary GPT -/

/-- The secondary header that `gpt2_set_boot_chain` writes for an array. -/
def chainHeader (crc32 : Bytes → UInt32) (h a : Bytes) : Bytes :=
  sealed crc32 (put4 h partitionCrcOffset (crc32 a))

theorem sameFields_chainHeader (h a : Bytes) : SameFields (chainHeader crc32 h a) h :=
  (sameFields_sealed _).trans (sameFields_putPartitionCrc h _)

theorem partitionCrc_chainHeader (hlen : 512 ≤ h.length) :
    get4 (chainHeader crc32 h a) partitionCrcOffset = crc32 a := by
  rw [chainHeader, partitionCrc_sealed, get4_put4 _ (by simp only [partitionCrcOffset]; omega)]

theorem headerCrcOk_chainHeader (hf : HeaderFits h) (hlen : 512 ≤ h.length) :
    HeaderCrcOk crc32 (chainHeader crc32 h a) :=
  headerCrcOk_sealed (hf.of_sameFields (sameFields_putPartitionCrc h _)) (by rwa [length_put4])

theorem take_chainHeader {n : ℕ} (hn : n ≤ 16) :
    (chainHeader crc32 h a).take n = h.take n := by
  rw [chainHeader, take_sealed hn]
  have hslice : slice (put4 h partitionCrcOffset (crc32 a)) 0 n = slice h 0 n :=
    slice_splice_apart (by right; simp only [partitionCrcOffset]; omega)
  simpa [slice] using hslice

theorem length_chainEntries {boot : BootChain} {pentrySize : ℕ} {out : ℤ × Bytes}
    (he : chainEntries env boot pentrySize a = some out) : out.2.length = a.length := by
  cases boot
  · rw [← Option.some_inj.mp he]
  · exact length_gptBootChainSwap he

/-- The entry size of the primary header, which the scan steps by. -/
def BlockDevice.pentrySize (d : BlockDevice) : ℕ :=
  (get4 (d.header .primary) pentrySizeOffset).toNat

theorem writeGpt2_apply {hdr a : Bytes} (hl : d.Layout) (hs : SameFields hdr (d.header .secondary))
    (hlen : a.length = d.arraySize .secondary) :
    writeGpt2 (d.headerOffset .secondary) hdr (d.arrayOffset .secondary) a d
      = ⟨[d.putHeader .secondary hdr, (d.putHeader .secondary hdr).putArray .secondary a],
        some 0⟩ := by
  have hwrite : (d.store (d.headerOffset .secondary) hdr).blkWrite (d.arrayOffset .secondary) a
      = some ((d.putHeader .secondary hdr).putArray .secondary a) := by
    rw [putArray, arrayOffset_congr (sameFields_putHeader hl hs) rfl, putHeader]
    refine blkWrite_eq ?_
    rw [hlen, store_data, length_splice]
    exact hl.array_le .secondary
  simp only [writeGpt2, Prog.read_bind_apply, Prog.write_bind_apply, hwrite]
  rfl

/-- `gpt2_set_boot_chain` on a disk whose primary array is sound: either it writes nothing and does
not return 0, or the entries it is to write are known and it writes the secondary header and then
the array. -/
theorem gpt2SetBootChain_cases (env : Env) (boot : BootChain) (hl : d.Layout)
    (hf : HeaderFits (d.header .secondary))
    (hcrc : get4 (d.header .primary) partitionCrcOffset = crc32 (d.array .primary)) :
    (∃ r, r ≠ some 0 ∧ (∀ a, chainEntries env boot d.pentrySize (d.array .primary) ≠ some (0, a)) ∧
        gpt2SetBootChain crc32 env boot d = ⟨[], r⟩) ∨
      ∃ a, chainEntries env boot d.pentrySize (d.array .primary) = some (0, a) ∧
        a.length = d.arraySize .secondary ∧
        gpt2SetBootChain crc32 env boot d
          = ⟨[d.putHeader .secondary (chainHeader crc32 (d.header .secondary) a),
              (d.putHeader .secondary (chainHeader crc32 (d.header .secondary) a)).putArray
                .secondary a],
            some 0⟩ := by
  have hread :
      d.blkRead (d.arrayOffset .primary) (d.arraySize .primary) = some (d.array .primary) :=
    blkRead_eq (hl.array_le .primary)
  rw [gpt2SetBootChain, Prog.read_bind_apply]
  simp only [hread, if_neg (not_not_intro hcrc)]
  rw [← BlockDevice.pentrySize]
  cases he : chainEntries env boot d.pentrySize (d.array .primary) with
  | none => exact Or.inl ⟨none, by simp, by simp, rfl⟩
  | some out =>
    obtain ⟨r, a⟩ := out
    by_cases hr : r = 0
    · subst hr
      have hlen : a.length = d.arraySize .secondary := by
        rw [length_chainEntries he, length_array hl, hl.arraySize_eq]
      have hseal : sealHeader crc32 (put4 (d.header .secondary) partitionCrcOffset (crc32 a))
          = some (chainHeader crc32 (d.header .secondary) a) :=
        sealHeader_eq (hf.of_sameFields (sameFields_putPartitionCrc _ _))
      refine Or.inr ⟨a, rfl, hlen, ?_⟩
      simp only [if_neg (not_not_intro (rfl : (0 : ℤ) = 0)), hseal]
      exact writeGpt2_apply hl (sameFields_chainHeader _ _) hlen
    · refine Or.inl ⟨some r, by simpa using hr, fun a' ha' ↦ hr ?_, ?_⟩
      · exact (Prod.mk.inj (Option.some_inj.mp ha')).1
      · simp only [if_pos hr]
        rfl

/-- The second case of `gpt2SetBootChain_cases`, when the entries to write are known. -/
theorem gpt2SetBootChain_apply {boot : BootChain} (hl : d.Layout)
    (hf : HeaderFits (d.header .secondary))
    (hcrc : get4 (d.header .primary) partitionCrcOffset = crc32 (d.array .primary))
    (he : chainEntries env boot d.pentrySize (d.array .primary) = some (0, a)) :
    gpt2SetBootChain crc32 env boot d
      = ⟨[d.putHeader .secondary (chainHeader crc32 (d.header .secondary) a),
          (d.putHeader .secondary (chainHeader crc32 (d.header .secondary) a)).putArray
            .secondary a],
        some 0⟩ := by
  rcases gpt2SetBootChain_cases env boot hl hf hcrc with ⟨_, _, hne, _⟩ | ⟨a', ha', _, hrun⟩
  · exact absurd he (hne a)
  · obtain rfl : a' = a := (Prod.mk.inj (Option.some_inj.mp (ha'.symm.trans he))).2
    exact hrun

end MataDevice.Gpt
