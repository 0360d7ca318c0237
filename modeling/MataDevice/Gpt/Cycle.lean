import MataDevice.Gpt.CrashSafety
import MataDevice.Gpt.Image

/-!
# A whole update, and resuming one

On a disk whose two GPTs hold the same entries, the three stages write the following images of it,
where `p`, `s` and `a` are the headers and the entries of the disk, `a'` are the swapped entries and
`s'` is the secondary header for them.

```text
UPDATE_MAIN      p s' a    p s' a'    -p s' a'
UPDATE_BACKUP    p s' a'   p -s' a'
UPDATE_FINALIZE  p -s a'   p -s a     p s a
```

A minus marks a header whose signature is broken. The last image of the last stage is the disk
itself, which is what makes an update undo its own changes. The table also shows what can be
resumed: the first image of `UPDATE_BACKUP` looks like the middle of `UPDATE_MAIN` and the last one
of `UPDATE_FINALIZE` like a disk that no update has touched, so that in these two places the
stage is taken for another one.
-/

namespace MataDevice.Gpt

open BlockDevice

variable {crc32 : Bytes → UInt32} {env : Env} {d : BlockDevice} {stage : BootUpdateStage}

/-! ## Entering a stage -/

section Enter

variable {gptPrim gptSecond : GptState} (hopens : env.opens = true)
  (hp : headerState crc32 (d.header .primary) = some gptPrim)
  (hs : headerState crc32 (d.header .secondary) = some gptSecond)
include hopens hp hs

/-- `prepare_partitions` once the states of the two headers are known. -/
private theorem preparePartitions_apply :
    preparePartitions crc32 env stage d
      = (match internalStage gptPrim gptSecond with
        | none => pure (-1)
        | some internal =>
          if stage.toInt = internal.toInt - 1 then pure 0
          else if stage ≠ internal then pure (-1)
          else runStage crc32 env stage : Prog BlockDevice ℤ) d := by
  rw [preparePartitions, hopens]
  simp only [Bool.not_true, Bool.false_eq_true, if_false]
  rw [Prog.bind_apply_some (gptGetState_apply hp)]
  change (gptGetState crc32 .secondary >>= _) d = _
  rw [Prog.bind_apply_some (gptGetState_apply hs)]
  rfl

theorem preparePartitions_run (h : internalStage gptPrim gptSecond = some stage) :
    preparePartitions crc32 env stage d = runStage crc32 env stage d := by
  rw [preparePartitions_apply hopens hp hs, h]
  cases stage <;> rfl

/-- The stage after the one asked for is next: there is nothing to do. -/
theorem preparePartitions_skip {internal : BootUpdateStage}
    (h : internalStage gptPrim gptSecond = some internal)
    (hnext : stage.toInt = internal.toInt - 1) :
    preparePartitions crc32 env stage d = ⟨[], some 0⟩ := by
  rw [preparePartitions_apply hopens hp hs, h]
  simp only [if_pos hnext, Prog.pure_apply]

theorem preparePartitions_refuse {internal : BootUpdateStage}
    (h : internalStage gptPrim gptSecond = some internal)
    (hnext : stage.toInt ≠ internal.toInt - 1) (hne : stage ≠ internal) :
    preparePartitions crc32 env stage d = ⟨[], some (-1)⟩ := by
  rw [preparePartitions_apply hopens hp hs, h]
  simp only [if_neg hnext, if_pos hne, Prog.pure_apply]

end Enter

/-! ## The stages on images -/

section Runs

variable {p s a a' : Bytes} (hl : d.Layout) (hi : d.Replaces p s a)
include hl hi

/-- `gpt2_set_boot_chain` replaces the secondary header and then the array. -/
private theorem gpt2SetBootChain_image {boot : BootChain} (hf : HeaderFits s)
    (hcrc : get4 p partitionCrcOffset = crc32 (d.array .primary))
    (he : chainEntries env boot (get4 p pentrySizeOffset).toNat (d.array .primary) = some (0, a')) :
    gpt2SetBootChain crc32 env boot (d.image p s a)
      = ⟨[d.image p (chainHeader crc32 s a') a, d.image p (chainHeader crc32 s a') a'],
        some 0⟩ := by
  have hlen : a'.length = a.length := by
    have harray : (d.array .primary).length = a.length := by
      rw [length_array hl, hl.arraySize_eq, hi.array]
    rw [← harray]
    exact length_chainEntries he
  have hi' : d.Replaces p (chainHeader crc32 s a') a :=
    hi.withSecondary (sameFields_chainHeader s a')
  rw [gpt2SetBootChain_apply (layout_image hl hi) (a := a')]
  · rw [header_image_secondary hl hi,
      image_putHeader_secondary hl hi (sameFields_chainHeader s a'), image_putArray hl hi' hlen]
  · rwa [header_image_secondary hl hi]
  · rwa [header_image_primary hi, array_image_primary hl hi]
  · rwa [BlockDevice.pentrySize, header_image_primary hi, array_image_primary hl hi]

omit hl in
/-- A mark on a header of an image, for either state. -/
private theorem gptSetState_image_primary {p' : Bytes} {state : GptState}
    (hm : state = .ok ∧ p' = restored p ∨ state = .badSignature ∧ p' = broken p)
    (hf : HeaderFits p) :
    gptSetState crc32 .primary state (d.image p s a)
      = ⟨[d.image (sealed crc32 p') s a], some 0⟩ := by
  have hfit : HeaderFits ((d.image p s a).header .primary) := by rwa [header_image_primary hi]
  rcases hm with ⟨rfl, rfl⟩ | ⟨rfl, rfl⟩
  · rw [gptSetState_ok_apply hfit, header_image_primary hi,
      image_putHeader_primary ((sameFields_sealed _).trans (sameFields_restored p))]
  · rw [gptSetState_badSignature_apply hfit, header_image_primary hi,
      image_putHeader_primary ((sameFields_sealed _).trans (sameFields_broken p))]

private theorem gptSetState_image_secondary {s' : Bytes} {state : GptState}
    (hm : state = .ok ∧ s' = restored s ∨ state = .badSignature ∧ s' = broken s)
    (hf : HeaderFits s) :
    gptSetState crc32 .secondary state (d.image p s a)
      = ⟨[d.image p (sealed crc32 s') a], some 0⟩ := by
  have hfit : HeaderFits ((d.image p s a).header .secondary) := by
    rwa [header_image_secondary hl hi]
  rcases hm with ⟨rfl, rfl⟩ | ⟨rfl, rfl⟩
  · rw [gptSetState_ok_apply hfit, header_image_secondary hl hi,
      image_putHeader_secondary hl hi ((sameFields_sealed _).trans (sameFields_restored s))]
  · rw [gptSetState_badSignature_apply hfit, header_image_secondary hl hi,
      image_putHeader_secondary hl hi ((sameFields_sealed _).trans (sameFields_broken s))]

theorem runStage_main_image (hswitch : env.switchXbl .backup = 0) (hfp : HeaderFits p)
    (hfs : HeaderFits s) (hcrc : get4 p partitionCrcOffset = crc32 (d.array .primary))
    (hswap : gptBootChainSwap env.isUfsDevice (get4 p pentrySizeOffset).toNat (d.array .primary)
      = some (0, a')) :
    runStage crc32 env .main (d.image p s a)
      = ⟨[d.image p (chainHeader crc32 s a') a, d.image p (chainHeader crc32 s a') a',
          d.image (sealed crc32 (broken p)) (chainHeader crc32 s a') a'], some 0⟩ := by
  have hlen : a'.length = a.length := by
    rw [length_gptBootChainSwap hswap, length_array hl, hl.arraySize_eq, hi.array]
  have hi' : d.Replaces p (chainHeader crc32 s a') a' :=
    (hi.withSecondary (sameFields_chainHeader s a')).withArray hlen
  have he : chainEntries env .backup (get4 p pentrySizeOffset).toNat (d.array .primary)
      = some (0, a') := hswap
  rw [runStage, if_neg (not_not_intro hswitch),
    Prog.bind_apply_some (gpt2SetBootChain_image hl hi hfs hcrc he)]
  simp only [List.getLastD_cons, List.getLastD_nil, ne_eq, not_true_eq_false, if_false,
    gptSetState_image_primary hi' (Or.inr ⟨rfl, rfl⟩) hfp]
  rfl

theorem runStage_backup_image (hswitch : env.switchXbl .normal = 0) (hfp : HeaderFits p)
    (hfs : HeaderFits s) :
    runStage crc32 env .backup (d.image p s a)
      = ⟨[d.image (sealed crc32 (restored p)) s a,
          d.image (sealed crc32 (restored p)) (sealed crc32 (broken s)) a], some 0⟩ := by
  have hi' : d.Replaces (sealed crc32 (restored p)) s a :=
    hi.withPrimary ((sameFields_sealed _).trans (sameFields_restored p))
  rw [runStage, if_neg (not_not_intro hswitch),
    Prog.bind_apply_some (gptSetState_image_primary hi (Or.inl ⟨rfl, rfl⟩) hfp)]
  simp only [List.getLastD_cons, List.getLastD_nil, ne_eq, not_true_eq_false, if_false,
    gptSetState_image_secondary hl hi' (Or.inr ⟨rfl, rfl⟩) hfs]
  rfl

theorem runStage_finalize_image (hfs : HeaderFits s)
    (hcrc : get4 p partitionCrcOffset = crc32 (d.array .primary)) :
    runStage crc32 env .finalize (d.image p s a)
      = ⟨[d.image p (chainHeader crc32 s (d.array .primary)) a,
          d.image p (chainHeader crc32 s (d.array .primary)) (d.array .primary),
          d.image p (sealed crc32 (restored (chainHeader crc32 s (d.array .primary))))
            (d.array .primary)], some 0⟩ := by
  have hlen : (d.array .primary).length = a.length := by
    rw [length_array hl, hl.arraySize_eq, hi.array]
  have hi' : d.Replaces p (chainHeader crc32 s (d.array .primary)) (d.array .primary) :=
    (hi.withSecondary (sameFields_chainHeader _ _)).withArray hlen
  have hfit : HeaderFits (chainHeader crc32 s (d.array .primary)) :=
    hfs.of_sameFields (sameFields_chainHeader _ _)
  rw [runStage, Prog.bind_apply_some (gpt2SetBootChain_image hl hi hfs hcrc rfl)]
  simp only [List.getLastD_cons, List.getLastD_nil, lt_irrefl, if_false,
    gptSetState_image_secondary hl hi' (Or.inl ⟨rfl, rfl⟩) hfit]
  rfl

end Runs

/-! ## Headers during an update -/

section Headers

variable {h a a' : Bytes} (hok : headerState crc32 h = some .ok) (hlen : 512 ≤ h.length)
include hok

private theorem crcOk_of_ok : HeaderCrcOk crc32 h := (headerState_cases hok (by decide)).1

private theorem signature_of_ok : h.take gptSignature.length = gptSignature :=
  (headerState_cases hok (by decide)).2.mp rfl

include hlen

theorem headerState_sealed_broken :
    headerState crc32 (sealed crc32 (broken h)) = some .badSignature := by
  have hfit : HeaderFits (broken h) := (crcOk_of_ok hok).fits.of_sameFields (sameFields_broken h)
  have hlen' : 512 ≤ (broken h).length := by rwa [(sameFields_broken h).length]
  refine headerState_badSignature (headerCrcOk_sealed hfit hlen') ?_
  rw [take_sealed (by decide)]
  exact take_broken_ne hlen

theorem headerState_chainHeader : headerState crc32 (chainHeader crc32 h a) = some .ok := by
  refine headerState_ok (headerCrcOk_chainHeader (crcOk_of_ok hok).fits hlen) ?_
  rw [take_chainHeader (by decide)]
  exact signature_of_ok hok

/-- Breaking and restoring a header gives back its bytes, the CRC field included. -/
theorem sealed_restored_broken :
    sealed crc32 (restored (sealed crc32 (broken h))) = h := by
  rw [sealed_restored_sealed, restored_broken, restored_eq_self (signature_of_ok hok) hlen,
    sealed_eq_self (crcOk_of_ok hok) hlen]

/-- A broken header stays broken while the boot chain is set. -/
theorem headerState_chainHeader_broken :
    headerState crc32 (chainHeader crc32 (sealed crc32 (broken h)) a) = some .badSignature := by
  have hbad := headerState_sealed_broken hok hlen
  have hlen' : 512 ≤ (sealed crc32 (broken h)).length := by
    rwa [length_sealed, (sameFields_broken h).length]
  have hcases := headerState_cases hbad (by decide)
  refine headerState_badSignature (headerCrcOk_chainHeader hcases.1.fits hlen') ?_
  rw [take_chainHeader (by decide)]
  exact fun hs ↦ absurd (hcases.2.mpr hs) (by decide)

/-- What the last write of `UPDATE_FINALIZE` stores is the header that `UPDATE_MAIN` found. -/
theorem sealed_restored_chainHeader (hcrc : get4 h partitionCrcOffset = crc32 a) :
    sealed crc32 (restored (chainHeader crc32
      (sealed crc32 (broken (chainHeader crc32 h a'))) a)) = h := by
  have hcomm : ∀ x y, restored (put4 x partitionCrcOffset y)
      = put4 (restored x) partitionCrcOffset y :=
    fun x y ↦ splice_comm _ (by rw [length_le4]; decide)
  rw [chainHeader_sealed, chainHeader, sealed_restored_sealed, hcomm, restored_broken,
    restored_eq_self, ← chainHeader, chainHeader_chainHeader,
    chainHeader_eq_self (crcOk_of_ok hok) hlen hcrc]
  · rw [take_chainHeader (by decide)]
    exact signature_of_ok hok
  · rwa [(sameFields_chainHeader h a').length]

end Headers

/-! ## The update as a whole -/

section Update

variable (crc32 env d)

/-- A disk that is ready for an update: `gpt_get_state` finds both GPTs sound, their entries have
the right CRC and are the same ones, and `gpt_boot_chain_swap` finds at least one pair to exchange.
The device can be opened and, if it has a boot LUN, the LUN can be switched. -/
structure UpdateReady (swapped : Bytes) : Prop where
  opens : env.opens = true
  switch : ∀ chain, env.switchXbl chain = 0
  state : ∀ gpt, headerState crc32 (d.header gpt) = some .ok
  arrayCrc : ∀ gpt, get4 (d.header gpt) partitionCrcOffset = crc32 (d.array gpt)
  array_le : ∀ gpt, (d.arrayOffset gpt).toNat + d.arraySize gpt ≤ d.data.length
  arrays_eq : d.array .primary = d.array .secondary
  swap : gptBootChainSwap env.isUfsDevice d.pentrySize (d.array .primary) = some (0, swapped)

/-- The disk a stage starts from when the stages before it ran to their ends. -/
def stageStart : BootUpdateStage → BlockDevice
  | .main => d
  | .backup => (preparePartitions crc32 env .main d).final d
  | .finalize =>
    let d' := (preparePartitions crc32 env .main d).final d
    (preparePartitions crc32 env .backup d').final d'

/-- The disk a stage leaves when it runs to its end. -/
def stageEnd (stage : BootUpdateStage) : BlockDevice :=
  (preparePartitions crc32 env stage (stageStart crc32 env d stage)).final
    (stageStart crc32 env d stage)

/-- All stages return 0 and each of them leaves what it is meant to leave. -/
structure FullCycle (swapped : Bytes) : Prop where
  result : ∀ stage,
    (preparePartitions crc32 env stage (stageStart crc32 env d stage)).result = some 0
  main_primary : headerState crc32 ((stageEnd crc32 env d .main).header .primary)
    = some .badSignature
  main_array : (stageEnd crc32 env d .main).array .secondary = swapped
  main_headerCrc : HeaderCrcOk crc32 ((stageEnd crc32 env d .main).header .secondary)
  main_arrayCrc : get4 ((stageEnd crc32 env d .main).header .secondary) partitionCrcOffset
    = crc32 swapped
  backup_primary : (stageEnd crc32 env d .backup).header .primary = d.header .primary
  backup_secondary : headerState crc32 ((stageEnd crc32 env d .backup).header .secondary)
    = some .badSignature
  finalize_eq : stageEnd crc32 env d .finalize = d

/-- Cut off after `k` of its writes and called again, the stage returns 0 and leaves what it would
have left the first time. -/
def Resumes (stage : BootUpdateStage) (k : ℕ) : Prop :=
  let cut := (preparePartitions crc32 env stage (stageStart crc32 env d stage)).after k
    (stageStart crc32 env d stage)
  (preparePartitions crc32 env stage cut).result = some 0 ∧
    (preparePartitions crc32 env stage cut).final cut = stageEnd crc32 env d stage

end Update

namespace UpdateReady

variable {swapped : Bytes}

/-! ### The images of an update -/

section Images

variable (crc32 d swapped)

/-- The secondary header for the swapped entries. -/
def swappedHeader : Bytes := chainHeader crc32 (d.header .secondary) swapped

/-- The secondary header of `UPDATE_FINALIZE` before its signature is restored. -/
def finalHeader : Bytes :=
  chainHeader crc32 (sealed crc32 (broken (swappedHeader crc32 d swapped))) (d.array .primary)

/-- The disk `UPDATE_MAIN` leaves. -/
def mainImage : BlockDevice :=
  d.image (sealed crc32 (broken (d.header .primary))) (swappedHeader crc32 d swapped) swapped

/-- The disk `UPDATE_BACKUP` leaves. -/
def backupImage : BlockDevice :=
  d.image (d.header .primary) (sealed crc32 (broken (swappedHeader crc32 d swapped))) swapped

end Images

variable (hu : UpdateReady crc32 env d swapped) (hr : d.RegionsApart)
include hu

private theorem fits (gpt : GptInstance) : HeaderFits (d.header gpt) :=
  (headerState_cases (hu.state gpt) (by decide)).1.fits

private theorem fits_swappedHeader : HeaderFits (swappedHeader crc32 d swapped) :=
  (hu.fits .secondary).of_sameFields (sameFields_chainHeader _ _)

theorem headerState_swappedHeader :
    headerState crc32 (swappedHeader crc32 d swapped) = some .ok :=
  headerState_chainHeader (hu.state .secondary) (CrashInv.blkSize_le d .secondary)

theorem headerState_broken_swappedHeader :
    headerState crc32 (sealed crc32 (broken (swappedHeader crc32 d swapped)))
      = some .badSignature := by
  refine headerState_sealed_broken hu.headerState_swappedHeader ?_
  rw [swappedHeader, (sameFields_chainHeader _ _).length]
  exact CrashInv.blkSize_le d .secondary

include hr

theorem layout : d.Layout where
  toRegionsApart := hr
  array_le := hu.array_le
  arraySize_eq := by
    rw [← length_slice (hu.array_le .primary), ← length_slice (hu.array_le .secondary)]
    exact congrArg List.length hu.arrays_eq

private theorem length_swapped : swapped.length = d.arraySize .secondary := by
  rw [length_gptBootChainSwap hu.swap, length_array (hu.layout hr), (hu.layout hr).arraySize_eq]

theorem replaces_mainImage : d.Replaces (sealed crc32 (broken (d.header .primary)))
    (swappedHeader crc32 d swapped) swapped :=
  ⟨(sameFields_sealed _).trans (sameFields_broken _), sameFields_chainHeader _ _,
    hu.length_swapped hr⟩

theorem replaces_backupImage : d.Replaces (d.header .primary)
    (sealed crc32 (broken (swappedHeader crc32 d swapped))) swapped :=
  ⟨SameFields.refl _, ((sameFields_sealed _).trans (sameFields_broken _)).trans
    (sameFields_chainHeader _ _), hu.length_swapped hr⟩

theorem headerState_mainImage :
    headerState crc32 ((mainImage crc32 d swapped).header .primary) = some .badSignature ∧
      headerState crc32 ((mainImage crc32 d swapped).header .secondary) = some .ok := by
  constructor
  · rw [mainImage, header_image_primary (hu.replaces_mainImage hr)]
    exact headerState_sealed_broken (hu.state .primary) (CrashInv.blkSize_le d .primary)
  · rw [mainImage, header_image_secondary (hu.layout hr) (hu.replaces_mainImage hr)]
    exact hu.headerState_swappedHeader

theorem headerState_backupImage :
    headerState crc32 ((backupImage crc32 d swapped).header .primary) = some .ok ∧
      headerState crc32 ((backupImage crc32 d swapped).header .secondary) = some .badSignature := by
  constructor
  · rw [backupImage, header_image_primary (hu.replaces_backupImage hr)]
    exact hu.state .primary
  · rw [backupImage, header_image_secondary (hu.layout hr) (hu.replaces_backupImage hr)]
    exact hu.headerState_broken_swappedHeader

/-! ### The stages of an update -/

/-- `UPDATE_MAIN`, also from the images it leaves when it is cut off. -/
theorem preparePartitions_main {s a : Bytes} (hi : d.Replaces (d.header .primary) s a)
    (hs : headerState crc32 s = some .ok)
    (hc : chainHeader crc32 s swapped = swappedHeader crc32 d swapped) :
    preparePartitions crc32 env .main (d.image (d.header .primary) s a)
      = ⟨[d.image (d.header .primary) (swappedHeader crc32 d swapped) a,
          d.image (d.header .primary) (swappedHeader crc32 d swapped) swapped,
          mainImage crc32 d swapped], some 0⟩ := by
  have hl := hu.layout hr
  have hp : headerState crc32 ((d.image (d.header .primary) s a).header .primary) = some .ok := by
    rw [header_image_primary hi]
    exact hu.state .primary
  have hs' :
      headerState crc32 ((d.image (d.header .primary) s a).header .secondary) = some .ok := by
    rwa [header_image_secondary hl hi]
  rw [preparePartitions_run hu.opens hp hs' rfl,
    runStage_main_image hl hi (hu.switch .backup) (hu.fits .primary)
      (headerState_cases hs (by decide)).1.fits (hu.arrayCrc .primary) hu.swap, hc]
  rfl

theorem preparePartitions_backup :
    preparePartitions crc32 env .backup (mainImage crc32 d swapped)
      = ⟨[d.image (d.header .primary) (swappedHeader crc32 d swapped) swapped,
          backupImage crc32 d swapped], some 0⟩ := by
  obtain ⟨hp, hs⟩ := hu.headerState_mainImage hr
  rw [preparePartitions_run hu.opens hp hs rfl, mainImage,
    runStage_backup_image (hu.layout hr) (hu.replaces_mainImage hr) (hu.switch .normal)
      ((hu.fits .primary).of_sameFields ((sameFields_sealed _).trans (sameFields_broken _)))
      hu.fits_swappedHeader,
    sealed_restored_broken (hu.state .primary) (CrashInv.blkSize_le d .primary)]
  rfl

/-- `UPDATE_FINALIZE`, also from the images it leaves when it is cut off. -/
theorem preparePartitions_finalize {s a : Bytes} (hi : d.Replaces (d.header .primary) s a)
    (hs : headerState crc32 s = some .badSignature)
    (hc : chainHeader crc32 s (d.array .primary) = finalHeader crc32 d swapped) :
    preparePartitions crc32 env .finalize (d.image (d.header .primary) s a)
      = ⟨[d.image (d.header .primary) (finalHeader crc32 d swapped) a,
          d.image (d.header .primary) (finalHeader crc32 d swapped) (d.array .primary), d],
        some 0⟩ := by
  have hl := hu.layout hr
  have hp : headerState crc32 ((d.image (d.header .primary) s a).header .primary) = some .ok := by
    rw [header_image_primary hi]
    exact hu.state .primary
  have hs' : headerState crc32 ((d.image (d.header .primary) s a).header .secondary)
      = some .badSignature := by
    rwa [header_image_secondary hl hi]
  have hcrc : get4 (d.header .secondary) partitionCrcOffset = crc32 (d.array .primary) := by
    rw [hu.arrays_eq]
    exact hu.arrayCrc .secondary
  have hlast : d.image (d.header .primary) (sealed crc32 (restored (finalHeader crc32 d swapped)))
      (d.array .primary) = d := by
    rw [finalHeader, swappedHeader,
      sealed_restored_chainHeader (hu.state .secondary) (CrashInv.blkSize_le d .secondary) hcrc,
      hu.arrays_eq, image_self hl]
  rw [preparePartitions_run hu.opens hp hs' rfl,
    runStage_finalize_image hl hi (headerState_cases hs (by decide)).1.fits (hu.arrayCrc .primary),
    hc, hlast]

/-! ### Where the stages start -/

theorem preparePartitions_main_start :
    preparePartitions crc32 env .main d
      = ⟨[d.image (d.header .primary) (swappedHeader crc32 d swapped) (d.array .secondary),
          d.image (d.header .primary) (swappedHeader crc32 d swapped) swapped,
          mainImage crc32 d swapped], some 0⟩ := by
  have hl := hu.layout hr
  have hrun := hu.preparePartitions_main hr (Replaces.self hl) (hu.state .secondary) rfl
  rwa [image_self hl] at hrun

theorem stageStart_backup : stageStart crc32 env d .backup = mainImage crc32 d swapped := by
  rw [stageStart, hu.preparePartitions_main_start hr]
  rfl

theorem stageStart_finalize : stageStart crc32 env d .finalize = backupImage crc32 d swapped := by
  change (preparePartitions crc32 env .backup (stageStart crc32 env d .backup)).final
    (stageStart crc32 env d .backup) = _
  rw [hu.stageStart_backup hr, hu.preparePartitions_backup hr]
  rfl

theorem preparePartitions_finalize_start :
    preparePartitions crc32 env .finalize (backupImage crc32 d swapped)
      = ⟨[d.image (d.header .primary) (finalHeader crc32 d swapped) swapped,
          d.image (d.header .primary) (finalHeader crc32 d swapped) (d.array .primary), d],
        some 0⟩ :=
  hu.preparePartitions_finalize hr (hu.replaces_backupImage hr)
    hu.headerState_broken_swappedHeader rfl

theorem stageEnd_eq (stage : BootUpdateStage) :
    stageEnd crc32 env d stage = match stage with
      | .main => mainImage crc32 d swapped
      | .backup => backupImage crc32 d swapped
      | .finalize => d := by
  cases stage with
  | main => exact hu.stageStart_backup hr
  | backup => exact hu.stageStart_finalize hr
  | finalize =>
    rw [stageEnd, hu.stageStart_finalize hr, hu.preparePartitions_finalize_start hr]
    rfl

end UpdateReady

/-! ## The full cycle -/

/-- The swapped entries of the sample disks. -/
def sampleSwapped : Bytes := sampleEntry 2 "tzbak" ++ sampleEntry 1 "tz"

theorem updateReady_sampleDisk :
    UpdateReady zlibCrc32 sampleEnv (sampleDisk 3 2717067324) sampleSwapped where
  opens := rfl
  switch _ := rfl
  state gpt := by
    cases gpt
    · rw [header_primary_sampleDisk]
      decide +kernel
    · rw [header_secondary_sampleDisk]
      decide +kernel
  arrayCrc gpt := (validPair_sampleDisk.valid gpt).arrayCrc
  array_le := validPair_sampleDisk.array_le
  arrays_eq := by rw [array_sampleDisk, array_sampleDisk]
  swap := by
    rw [array_sampleDisk, BlockDevice.pentrySize, header_primary_sampleDisk]
    decide +kernel

/-- The disk whose two headers describe one and the same array. -/
theorem updateReady_sharedArray :
    UpdateReady zlibCrc32 sampleEnv (sampleDisk 2 3298038650) sampleSwapped where
  opens := rfl
  switch _ := rfl
  state gpt := by
    cases gpt
    · rw [header_primary_sampleDisk]
      decide +kernel
    · rw [header_secondary_sampleDisk]
      decide +kernel
  arrayCrc gpt := by cases gpt <;> decide +kernel
  array_le gpt := by cases gpt <;> decide +kernel
  arrays_eq := by decide +kernel
  swap := by decide +kernel

/-- **Full cycle.** From every disk that is ready for an update and whose regions lie apart, the
three stages return 0, mark the headers in turn, and leave the disk byte for byte as it was. -/
theorem fullCycle_of_updateReady {swapped : Bytes} (hu : UpdateReady crc32 env d swapped)
    (hr : d.RegionsApart) : FullCycle crc32 env d swapped := by
  have hl := hu.layout hr
  have hlen := CrashInv.blkSize_le d .secondary
  refine ⟨?_, ?_, ?_, ?_, ?_, ?_, ?_, ?_⟩
  · intro stage
    cases stage with
    | main => rw [stageStart, hu.preparePartitions_main_start hr]
    | backup => rw [hu.stageStart_backup hr, hu.preparePartitions_backup hr]
    | finalize => rw [hu.stageStart_finalize hr, hu.preparePartitions_finalize_start hr]
  · rw [hu.stageEnd_eq hr]
    exact (hu.headerState_mainImage hr).1
  · rw [hu.stageEnd_eq hr, UpdateReady.mainImage,
      array_image_secondary hl (hu.replaces_mainImage hr)]
  · rw [hu.stageEnd_eq hr]
    exact (headerState_cases (hu.headerState_mainImage hr).2 (by decide)).1
  · rw [hu.stageEnd_eq hr, UpdateReady.mainImage,
      header_image_secondary hl (hu.replaces_mainImage hr)]
    exact partitionCrc_chainHeader hlen
  · rw [hu.stageEnd_eq hr, UpdateReady.backupImage,
      header_image_primary (hu.replaces_backupImage hr)]
  · rw [hu.stageEnd_eq hr]
    exact (hu.headerState_backupImage hr).2
  · rw [hu.stageEnd_eq hr]

theorem fullCycle_of_updateReady_sampleDisk :
    FullCycle zlibCrc32 sampleEnv (sampleDisk 3 2717067324) sampleSwapped :=
  fullCycle_of_updateReady updateReady_sampleDisk validPair_sampleDisk.toRegionsApart

/-- Where both headers describe one array, `UPDATE_MAIN` swaps the entries under the CRC of the
primary header, and `UPDATE_FINALIZE` refuses to read them back. -/
theorem not_fullCycle_sharedArray :
    UpdateReady zlibCrc32 sampleEnv (sampleDisk 2 3298038650) sampleSwapped ∧
      ¬FullCycle zlibCrc32 sampleEnv (sampleDisk 2 3298038650) sampleSwapped := by
  refine ⟨updateReady_sharedArray, fun hc ↦ ?_⟩
  have hfin : (preparePartitions zlibCrc32 sampleEnv .finalize
      (stageStart zlibCrc32 sampleEnv (sampleDisk 2 3298038650) .finalize)).result = some (-1) := by
    decide +kernel
  rw [hc.result .finalize] at hfin
  exact absurd hfin (by decide)

/-! ## Resuming a stage -/

section Resume

variable {swapped : Bytes} {k : ℕ} {cut : BlockDevice} {trace : List BlockDevice}

private theorem resumes_of_run
    (hcut : (preparePartitions crc32 env stage (stageStart crc32 env d stage)).after k
      (stageStart crc32 env d stage) = cut)
    (hrun : preparePartitions crc32 env stage cut = ⟨trace, some 0⟩)
    (hend : trace.getLastD cut = stageEnd crc32 env d stage) : Resumes crc32 env d stage k := by
  rw [Resumes, hcut, hrun]
  exact ⟨rfl, hend⟩

private theorem not_resumes_of_run
    (hcut : (preparePartitions crc32 env stage (stageStart crc32 env d stage)).after k
      (stageStart crc32 env d stage) = cut)
    (hrun : preparePartitions crc32 env stage cut = ⟨trace, some (-1)⟩) :
    ¬Resumes crc32 env d stage k := by
  rw [Resumes, hcut, hrun]
  rintro ⟨h, -⟩
  exact absurd (Option.some_inj.mp h) (by decide)

variable (hu : UpdateReady crc32 env d swapped) (hr : d.RegionsApart)
include hu hr

theorem resumes_main (k : ℕ) : Resumes crc32 env d .main k := by
  have hs := hu.headerState_swappedHeader
  have hc : chainHeader crc32 (UpdateReady.swappedHeader crc32 d swapped) swapped
      = UpdateReady.swappedHeader crc32 d swapped := chainHeader_chainHeader
  have hi : d.Replaces (d.header .primary) (UpdateReady.swappedHeader crc32 d swapped)
      (d.array .secondary) :=
    (Replaces.self (hu.layout hr)).withSecondary (sameFields_chainHeader _ _)
  have hrun := hu.preparePartitions_main_start hr
  have hend := (hu.stageEnd_eq hr .main).symm
  match k with
  | 0 => exact resumes_of_run rfl hrun hend
  | 1 =>
    -- the header is new and the array old, but the stage reads the array of the primary GPT only
    exact resumes_of_run (by rw [stageStart, hrun]; rfl)
      (hu.preparePartitions_main hr hi hs hc) hend
  | 2 =>
    have hi' : d.Replaces (d.header .primary) (UpdateReady.swappedHeader crc32 d swapped) swapped :=
      hi.withArray ((hu.replaces_mainImage hr).array.trans hi.array.symm)
    exact resumes_of_run (by rw [stageStart, hrun]; rfl) (hu.preparePartitions_main hr hi' hs hc)
      hend
  | k + 3 =>
    -- the stage is recognised as done
    obtain ⟨hp, hs'⟩ := hu.headerState_mainImage hr
    refine resumes_of_run ?_ (preparePartitions_skip hu.opens hp hs' rfl rfl) hend
    rw [stageStart, hrun, Outcome.after_of_length_le (by simp)]
    rfl

theorem not_resumes_backup_one : ¬Resumes crc32 env d .backup 1 := by
  have hl := hu.layout hr
  have hi : d.Replaces (d.header .primary) (UpdateReady.swappedHeader crc32 d swapped) swapped :=
    ⟨SameFields.refl _, sameFields_chainHeader _ _, (hu.replaces_mainImage hr).array⟩
  have hp : headerState crc32 ((d.image (d.header .primary)
      (UpdateReady.swappedHeader crc32 d swapped) swapped).header .primary) = some .ok := by
    rw [header_image_primary hi]
    exact hu.state .primary
  have hs : headerState crc32 ((d.image (d.header .primary)
      (UpdateReady.swappedHeader crc32 d swapped) swapped).header .secondary) = some .ok := by
    rw [header_image_secondary hl hi]
    exact hu.headerState_swappedHeader
  -- both headers are sound again, so that the disk looks as if no update had begun
  refine not_resumes_of_run ?_ (preparePartitions_refuse hu.opens hp hs rfl (by decide) (by decide))
  rw [hu.stageStart_backup hr, hu.preparePartitions_backup hr]
  rfl

theorem resumes_backup_iff : Resumes crc32 env d .backup k ↔ k ≠ 1 := by
  have hrun := hu.preparePartitions_backup hr
  have hstart := hu.stageStart_backup hr
  have hend := (hu.stageEnd_eq hr .backup).symm
  match k with
  | 0 => exact iff_of_true (resumes_of_run hstart hrun hend) (by decide)
  | 1 => exact iff_of_false (not_resumes_backup_one hu hr) (by decide)
  | k + 2 =>
    obtain ⟨hp, hs⟩ := hu.headerState_backupImage hr
    refine iff_of_true (resumes_of_run ?_ (preparePartitions_skip hu.opens hp hs rfl rfl) hend)
      (by omega)
    rw [hstart, hrun, Outcome.after_of_length_le (by simp)]
    rfl

theorem resumes_finalize_iff : Resumes crc32 env d .finalize k ↔ k < 3 := by
  have hlen : 512 ≤ (UpdateReady.swappedHeader crc32 d swapped).length := by
    rw [UpdateReady.swappedHeader, (sameFields_chainHeader _ _).length]
    exact CrashInv.blkSize_le d .secondary
  have hs : headerState crc32 (UpdateReady.finalHeader crc32 d swapped) = some .badSignature :=
    headerState_chainHeader_broken hu.headerState_swappedHeader hlen
  have hc : chainHeader crc32 (UpdateReady.finalHeader crc32 d swapped) (d.array .primary)
      = UpdateReady.finalHeader crc32 d swapped := chainHeader_chainHeader
  have hi : d.Replaces (d.header .primary) (UpdateReady.finalHeader crc32 d swapped) swapped :=
    (hu.replaces_backupImage hr).withSecondary (sameFields_chainHeader _ _)
  have hrun := hu.preparePartitions_finalize_start hr
  have hstart := hu.stageStart_finalize hr
  have hend := (hu.stageEnd_eq hr .finalize).symm
  match k with
  | 0 => exact iff_of_true (resumes_of_run hstart hrun hend) (by decide)
  | 1 =>
    refine iff_of_true (resumes_of_run ?_ (hu.preparePartitions_finalize hr hi hs hc) hend)
      (by decide)
    rw [hstart, hrun]
    rfl
  | 2 =>
    have hi' : d.Replaces (d.header .primary) (UpdateReady.finalHeader crc32 d swapped)
        (d.array .primary) := hi.withArray (length_gptBootChainSwap hu.swap).symm
    refine iff_of_true (resumes_of_run ?_ (hu.preparePartitions_finalize hr hi' hs hc) hend)
      (by decide)
    rw [hstart, hrun]
    rfl
  | k + 3 =>
    -- the update is complete, and the disk is the one it started from
    refine iff_of_false (not_resumes_of_run ?_ (preparePartitions_refuse hu.opens
      (hu.state .primary) (hu.state .secondary) rfl (by decide) (by decide))) (by omega)
    rw [hstart, hrun, Outcome.after_of_length_le (by simp)]
    rfl

/-- **Resumability.** A stage that is cut off can be called again unless the cut comes between the
two writes of `UPDATE_BACKUP` or after the last write of `UPDATE_FINALIZE`. -/
theorem resumes_iff : Resumes crc32 env d stage k
    ↔ ¬(stage = .backup ∧ k = 1 ∨ stage = .finalize ∧ 3 ≤ k) := by
  cases stage with
  | main => exact iff_of_true (resumes_main hu hr k) (by simp)
  | backup => simpa using resumes_backup_iff hu hr
  | finalize => simpa using resumes_finalize_iff hu hr

end Resume

theorem resumes_iff_sampleDisk :
    Resumes zlibCrc32 sampleEnv (sampleDisk 3 2717067324) .main 2 ∧
      ¬Resumes zlibCrc32 sampleEnv (sampleDisk 3 2717067324) .finalize 3 :=
  ⟨(resumes_iff updateReady_sampleDisk validPair_sampleDisk.toRegionsApart).mpr (by decide), fun h ↦
    (resumes_iff updateReady_sampleDisk validPair_sampleDisk.toRegionsApart).mp h (by decide)⟩

/-- After the first write of `UPDATE_BACKUP` both headers are sound, and calling it again fails. -/
theorem not_resumes_sampleDisk :
    UpdateReady zlibCrc32 sampleEnv (sampleDisk 3 2717067324) sampleSwapped ∧
      (sampleDisk 3 2717067324).RegionsApart ∧
      ¬Resumes zlibCrc32 sampleEnv (sampleDisk 3 2717067324) .backup 1 :=
  ⟨updateReady_sampleDisk, validPair_sampleDisk.toRegionsApart,
    not_resumes_backup_one updateReady_sampleDisk validPair_sampleDisk.toRegionsApart⟩

end MataDevice.Gpt
