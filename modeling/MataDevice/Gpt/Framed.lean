import MataDevice.Gpt.CrashSafety

/-!
# What the update leaves alone

The update writes the two header blocks and the array of the secondary GPT, and nothing else. This
needs no valid GPT, only regions that lie apart. So the partitions and the primary array are the same
at every point at which a call may be cut off.
-/

namespace MataDevice.Gpt

open BlockDevice List

/-- The byte lies in none of the regions that are written. -/
def BlockDevice.LeavesAlone (d : BlockDevice) (i : ℕ) : Prop :=
  (∀ gpt, i < d.headerOffset gpt ∨ d.headerOffset gpt + d.blkSize.toNat ≤ i) ∧
    (i < (d.arrayOffset .secondary).toNat ∨
      (d.arrayOffset .secondary).toNat + d.arraySize .secondary ≤ i)

/-- A disk that an update of `d₀` has come to. -/
structure Framed (d₀ d : BlockDevice) : Prop where
  blkSize : d.blkSize = d₀.blkSize
  length : d.data.length = d₀.data.length
  fields : ∀ gpt, SameFields (d.header gpt) (d₀.header gpt)
  bytes : ∀ i, d₀.LeavesAlone i → d.data[i]? = d₀.data[i]?

variable {crc32 : Bytes → UInt32} {env : Env} {d₀ d : BlockDevice} {gpt : GptInstance}
  {h a : Bytes}

namespace Framed

theorem layout (hl : d₀.Layout) (hd : Framed d₀ d) : d.Layout :=
  hl.of_sameFields hd.blkSize hd.length hd.fields

theorem headerOffset_eq (hd : Framed d₀ d) (gpt : GptInstance) :
    d.headerOffset gpt = d₀.headerOffset gpt := by
  cases gpt <;> simp only [headerOffset, hd.blkSize, hd.length]

theorem putHeader (hl : d₀.Layout) (hd : Framed d₀ d) (hs : SameFields h (d.header gpt)) :
    Framed d₀ (d.putHeader gpt h) where
  blkSize := hd.blkSize
  length := (length_splice _ _ _).trans hd.length
  fields gpt' := (sameFields_putHeader (hd.layout hl) hs).trans (hd.fields gpt')
  bytes i hi := by
    have hout := hi.1 gpt
    rw [BlockDevice.putHeader, store_data, getElem?_splice, hs.length, length_header,
      hd.headerOffset_eq, hd.blkSize, if_neg (by omega)]
    exact hd.bytes i hi

theorem putArray (hl : d₀.Layout) (hd : Framed d₀ d) (hlen : a.length = d.arraySize .secondary) :
    Framed d₀ (d.putArray .secondary a) where
  blkSize := hd.blkSize
  length := (length_splice _ _ _).trans hd.length
  fields gpt := by
    rw [header_putArray (hd.layout hl) hlen]
    exact hd.fields gpt
  bytes i hi := by
    have hout := hi.2
    rw [BlockDevice.putArray, store_data, getElem?_splice, hlen,
      arraySize_congr (hd.fields .secondary),
      arrayOffset_congr (hd.fields .secondary) hd.blkSize, if_neg (by omega)]
    exact hd.bytes i hi

/-- The primary array lies apart from all that is written. -/
theorem array_primary (hl : d₀.Layout) (hd : Framed d₀ d) : d.array .primary = d₀.array .primary := by
  rw [array, array, arraySize_congr (hd.fields .primary),
    arrayOffset_congr (hd.fields .primary) hd.blkSize]
  refine ext_getElem? fun i ↦ ?_
  rw [getElem?_slice, getElem?_slice]
  split
  · next hi =>
    refine hd.bytes _ ⟨fun gpt ↦ ?_, ?_⟩
    · have hapart := hl.header_array gpt .primary
      unfold Apart at hapart
      omega
    · have hapart := hl.arrays
      unfold Apart at hapart
      omega
  · rfl

/-! ## The calls -/

theorem sameFields_of_markHeader {state : GptState} {h' : Bytes} (hm : markHeader state h = some h') :
    SameFields h' h := by
  cases state with
  | ok => exact Option.some_inj.mp hm ▸ sameFields_restored h
  | badSignature => exact Option.some_inj.mp hm ▸ sameFields_broken h
  | badCrc => cases hm

theorem sameFields_of_sealHeader {h' : Bytes} (hs : sealHeader crc32 h = some h') :
    SameFields h' h := by
  obtain ⟨crc, -, rfl⟩ := Option.map_eq_some_iff.mp hs
  exact sameFields_putHeaderCrc h crc

theorem triple_gptSetState (hl : d₀.Layout) (gpt : GptInstance) (state : GptState) :
    Prog.Triple (Framed d₀) (gptSetState crc32 gpt state) (Framed d₀) fun _ ↦ Framed d₀ := by
  intro d hd
  rw [gptSetState, Prog.read_bind_apply]
  cases hm : markHeader state (d.header gpt) with
  | none => exact ⟨by simp, fun _ _ ↦ hd⟩
  | some h =>
    dsimp only
    cases hseal : sealHeader crc32 h with
    | none => exact ⟨by simp, by simp⟩
    | some h' =>
      have hd' : Framed d₀ (d.putHeader gpt h') := hd.putHeader hl
        ((sameFields_of_sealHeader hseal).trans (sameFields_of_markHeader hm))
      exact ⟨fun t ht ↦ mem_singleton.mp ht ▸ hd', fun _ _ ↦ hd'⟩

theorem triple_gpt2SetBootChain (hl : d₀.Layout) (boot : BootChain) :
    Prog.Triple (Framed d₀) (gpt2SetBootChain crc32 env boot) (Framed d₀) fun _ ↦ Framed d₀ := by
  intro d hd
  have hpure (r : ℤ) : Prog.Triple (· = d) (pure r) (Framed d₀) fun _ ↦ Framed d₀ :=
    Prog.triple_pure r fun _ h ↦ h ▸ hd
  have hfault : Prog.Triple (· = d) (Prog.fault : Prog BlockDevice ℤ) (Framed d₀)
      fun _ ↦ Framed d₀ := fun _ _ ↦ ⟨by simp [Prog.fault], by simp [Prog.fault]⟩
  rw [gpt2SetBootChain, Prog.read_bind_apply]
  cases hread : d.blkRead (d.arrayOffset .primary) (d.arraySize .primary) with
  | none => exact hpure _ d rfl
  | some pentries =>
    dsimp only
    refine Prog.triple_ite (fun _ ↦ hpure _) (fun _ ↦ ?_) d rfl
    cases hchain : chainEntries env boot (get4 (d.header .primary) pentrySizeOffset).toNat
      pentries with
    | none => exact hfault
    | some swapped =>
      obtain ⟨r, a⟩ := swapped
      refine Prog.triple_ite (fun _ ↦ hpure _) fun _ ↦ ?_
      cases hseal : sealHeader crc32 (put4 (d.header .secondary) partitionCrcOffset (crc32 a)) with
      | none => exact hfault
      | some h =>
        -- the header is written first, then the array
        have hs : SameFields h (d.header .secondary) :=
          (sameFields_of_sealHeader hseal).trans (sameFields_putPartitionCrc _ _)
        have hlen : a.length = d.arraySize .secondary := by
          rw [length_chainEntries hchain, length_of_blkRead hread, (hd.layout hl).arraySize_eq]
        have hd₁ := hd.putHeader hl hs
        have hd₂ := hd₁.putArray (a := a) hl
          (hlen.trans (arraySize_congr (sameFields_putHeader (hd.layout hl) hs)).symm)
        rintro _ rfl
        dsimp only
        rw [writeGpt2_apply (hd.layout hl) hs hlen]
        refine ⟨fun t ht ↦ ?_, fun _ _ ↦ hd₂⟩
        rcases mem_cons.mp ht with rfl | ht
        · exact hd₁
        · exact mem_singleton.mp ht ▸ hd₂

theorem triple_runStage (hl : d₀.Layout) (stage : BootUpdateStage) :
    Prog.Triple (Framed d₀) (runStage crc32 env stage) (Framed d₀) fun _ ↦ Framed d₀ := by
  have hpure (r : ℤ) : Prog.Triple (Framed d₀) (pure r) (Framed d₀) fun _ ↦ Framed d₀ :=
    Prog.triple_pure r fun _ h ↦ h
  cases stage with
  | main =>
    refine Prog.triple_ite (fun _ ↦ hpure _) fun _ ↦ ?_
    refine Prog.triple_bind (triple_gpt2SetBootChain hl .backup) fun r ↦ ?_
    exact Prog.triple_ite (fun _ ↦ hpure _) fun _ ↦ triple_gptSetState hl .primary _
  | backup =>
    refine Prog.triple_ite (fun _ ↦ hpure _) fun _ ↦ ?_
    refine Prog.triple_bind (triple_gptSetState hl .primary .ok) fun r ↦ ?_
    exact Prog.triple_ite (fun _ ↦ hpure _) fun _ ↦ triple_gptSetState hl .secondary _
  | finalize =>
    refine Prog.triple_bind (triple_gpt2SetBootChain hl .normal) fun r ↦ ?_
    exact Prog.triple_ite (fun _ ↦ hpure _) fun _ ↦ triple_gptSetState hl .secondary _

theorem triple_preparePartitions (hl : d₀.Layout) (stage : BootUpdateStage) :
    Prog.Triple (Framed d₀) (preparePartitions crc32 env stage) (Framed d₀) fun _ _ ↦ True := by
  have hpure (r : ℤ) : Prog.Triple (Framed d₀) (pure r) (Framed d₀) fun _ _ ↦ True :=
    Prog.triple_pure r fun _ _ ↦ trivial
  have hget (gpt : GptInstance) :
      Prog.Triple (Framed d₀) (gptGetState crc32 gpt) (Framed d₀) fun _ ↦ Framed d₀ := fun d hd ↦ by
    unfold gptGetState
    split <;> exact ⟨by simp, fun _ _ ↦ hd⟩
  refine Prog.triple_ite (fun _ ↦ hpure _) fun _ ↦ ?_
  refine Prog.triple_bind (hget .primary) fun gptPrim ↦ ?_
  refine Prog.triple_bind (hget .secondary) fun gptSecond ↦ ?_
  cases internalStage gptPrim gptSecond with
  | none => exact hpure _
  | some internal =>
    refine Prog.triple_ite (fun _ ↦ hpure _) fun _ ↦ ?_
    refine Prog.triple_ite (fun _ ↦ hpure _) fun _ ↦ ?_
    exact (triple_runStage hl stage).conseq (fun _ h ↦ h) fun _ _ _ ↦ trivial

end Framed

end MataDevice.Gpt
