import MataDevice.Gpt.Prepare

/-!
# Where the two GPTs lie, and what one write does to them

The update writes header blocks and entries arrays. As long as the four regions lie apart and
within the device, a write to one of them leaves the other three as they are, and since no write of
the update touches the fields that say where an array lies and how large it is, the regions stay
where they are. This file states that once, for an arbitrary header write and an arbitrary array
write; the stages are put together from these two.
-/

namespace MataDevice.Gpt

/-! ## The fields that no stage changes -/

/-- Two header blocks agree on the header size and on the place and the size of the array. -/
structure SameFields (h h' : Bytes) : Prop where
  length : h.length = h'.length
  headerSize : get4 h headerSizeOffset = get4 h' headerSizeOffset
  pentries : get8 h pentriesOffset = get8 h' pentriesOffset
  count : get4 h partitionCountOffset = get4 h' partitionCountOffset
  pentrySize : get4 h pentrySizeOffset = get4 h' pentrySizeOffset

theorem SameFields.refl (h : Bytes) : SameFields h h := ⟨rfl, rfl, rfl, rfl, rfl⟩

theorem SameFields.trans {h h' h'' : Bytes} (a : SameFields h h') (b : SameFields h' h'') :
    SameFields h h'' :=
  ⟨a.length.trans b.length, a.headerSize.trans b.headerSize, a.pentries.trans b.pentries,
    a.count.trans b.count, a.pentrySize.trans b.pentrySize⟩

/-- A write within the first twelve bytes, the two CRC fields or anything else off the fields. -/
theorem sameFields_splice {h buf : Bytes} {off : ℕ} (hsize : Apart off buf.length 12 4)
    (hrest : Apart off buf.length 72 16) : SameFields (splice h off buf) h := by
  refine ⟨length_splice _ _ _, ?_, ?_, ?_, ?_⟩
  · exact get4_congr (slice_splice_apart hsize)
  · exact get8_congr (slice_splice_apart (hrest.mono (by decide) (by decide)))
  · exact get4_congr (slice_splice_apart (hrest.mono (by decide) (by decide)))
  · exact get4_congr (slice_splice_apart (hrest.mono (by decide) (by decide)))

theorem sameFields_putHeaderCrc (h : Bytes) (y : UInt32) :
    SameFields (put4 h headerCrcOffset y) h :=
  sameFields_splice (by rw [length_le4]; decide) (by rw [length_le4]; decide)

theorem sameFields_putPartitionCrc (h : Bytes) (y : UInt32) :
    SameFields (put4 h partitionCrcOffset y) h :=
  sameFields_splice (by rw [length_le4]; decide) (by rw [length_le4]; decide)

/-! ## Sealing a header -/

section Seal

variable (crc32 : Bytes → UInt32)

/-- The size a header gives for itself fits into its block. -/
def HeaderFits (h : Bytes) : Prop := (get4 h headerSizeOffset).toNat ≤ h.length

instance (h : Bytes) : Decidable (HeaderFits h) := inferInstanceAs (Decidable (_ ≤ _))

/-- The CRC field of a header is right. -/
def HeaderCrcOk (h : Bytes) : Prop := headerCrc crc32 h = some (get4 h headerCrcOffset)

instance (h : Bytes) : Decidable (HeaderCrcOk crc32 h) := inferInstanceAs (Decidable (_ = _))

/-- The CRC that belongs into the CRC field of a header. -/
def headerSum (h : Bytes) : UInt32 :=
  crc32 ((put4 h headerCrcOffset 0).take (get4 h headerSizeOffset).toNat)

/-- A header with its CRC field recomputed. -/
def sealed (h : Bytes) : Bytes := put4 h headerCrcOffset (headerSum crc32 h)

variable {crc32} {h h' : Bytes}

theorem headerCrc_of_fits (hf : HeaderFits h) : headerCrc crc32 h = some (headerSum crc32 h) :=
  if_pos hf

theorem HeaderCrcOk.fits (hok : HeaderCrcOk crc32 h) : HeaderFits h := by
  by_contra hfit
  have hnone : headerCrc crc32 h = none := if_neg hfit
  rw [HeaderCrcOk, hnone] at hok
  cases hok

theorem HeaderCrcOk.headerSum_eq (hok : HeaderCrcOk crc32 h) :
    headerSum crc32 h = get4 h headerCrcOffset := by
  have hc := hok
  rw [HeaderCrcOk, headerCrc_of_fits hok.fits] at hc
  exact Option.some_inj.mp hc

theorem HeaderFits.of_sameFields (hf : HeaderFits h') (hs : SameFields h h') : HeaderFits h := by
  rw [HeaderFits, hs.headerSize, hs.length]
  exact hf

theorem sealHeader_eq (hf : HeaderFits h) : sealHeader crc32 h = some (sealed crc32 h) := by
  rw [sealHeader, headerCrc_of_fits hf]
  rfl

@[simp] theorem length_sealed : (sealed crc32 h).length = h.length := length_put4 _ _ _

theorem sameFields_sealed (h : Bytes) : SameFields (sealed crc32 h) h :=
  sameFields_putHeaderCrc h _

/-- The CRC field does not take part in the CRC. -/
theorem headerSum_put4 (y : UInt32) :
    headerSum crc32 (put4 h headerCrcOffset y) = headerSum crc32 h := by
  have hclear : put4 (put4 h headerCrcOffset y) headerCrcOffset 0 = put4 h headerCrcOffset 0 :=
    splice_splice_same _ rfl
  rw [headerSum, headerSum, hclear, (sameFields_putHeaderCrc h y).headerSize]

theorem headerCrcOk_sealed (hf : HeaderFits h) (hlen : 512 ≤ h.length) :
    HeaderCrcOk crc32 (sealed crc32 h) := by
  rw [HeaderCrcOk, headerCrc_of_fits (hf.of_sameFields (sameFields_sealed h)), sealed,
    headerSum_put4, get4_put4 _ (by simp only [headerCrcOffset]; omega)]

/-- Sealing a header whose CRC is right already changes nothing. -/
theorem sealed_eq_self (hok : HeaderCrcOk crc32 h) (hlen : 512 ≤ h.length) :
    sealed crc32 h = h := by
  rw [sealed, hok.headerSum_eq, put4_get4_self (by simp only [headerCrcOffset]; omega)]

/-- Two headers that differ in the CRC field only are the same once sealed. -/
theorem sealed_put4 (y : UInt32) : sealed crc32 (put4 h headerCrcOffset y) = sealed crc32 h := by
  rw [sealed, headerSum_put4]
  exact splice_splice_same _ rfl

theorem partitionCrc_sealed :
    get4 (sealed crc32 h) partitionCrcOffset = get4 h partitionCrcOffset :=
  get4_put4_apart _ (by decide)

theorem take_sealed {n : ℕ} (hn : n ≤ 16) : (sealed crc32 h).take n = h.take n := by
  have hslice : slice (sealed crc32 h) 0 n = slice h 0 n :=
    slice_splice_apart (by right; simpa [headerCrcOffset] using hn)
  simpa [slice] using hslice

end Seal

/-! ## The four regions of a device -/

namespace BlockDevice

/-- Write a header block. -/
def putHeader (d : BlockDevice) (gpt : GptInstance) (h : Bytes) : BlockDevice :=
  d.store (d.headerOffset gpt) h

/-- Write an entries array. -/
def putArray (d : BlockDevice) (gpt : GptInstance) (a : Bytes) : BlockDevice :=
  d.store (d.arrayOffset gpt).toNat a

/-- The two headers and the two arrays lie apart from each other. -/
structure RegionsApart (d : BlockDevice) : Prop where
  headers : Apart (d.headerOffset .primary) d.blkSize.toNat
    (d.headerOffset .secondary) d.blkSize.toNat
  arrays : Apart (d.arrayOffset .primary).toNat (d.arraySize .primary)
    (d.arrayOffset .secondary).toNat (d.arraySize .secondary)
  header_array : ∀ gpt gpt', Apart (d.headerOffset gpt) d.blkSize.toNat
    (d.arrayOffset gpt').toNat (d.arraySize gpt')

/-- The four regions lie apart, and both arrays within the device and of one size. -/
structure Layout (d : BlockDevice) : Prop extends RegionsApart d where
  array_le : ∀ gpt, (d.arrayOffset gpt).toNat + d.arraySize gpt ≤ d.data.length
  arraySize_eq : d.arraySize .primary = d.arraySize .secondary

variable {d : BlockDevice} {gpt gpt' : GptInstance} {h a : Bytes} {e : BlockDevice}

theorem arrayOffset_congr (hs : SameFields (d.header gpt) (e.header gpt))
    (hb : d.blkSize = e.blkSize) : d.arrayOffset gpt = e.arrayOffset gpt := by
  rw [arrayOffset, arrayOffset, hs.pentries, hb]

theorem arraySize_congr (hs : SameFields (d.header gpt) (e.header gpt)) :
    d.arraySize gpt = e.arraySize gpt := by
  rw [arraySize, arraySize, hs.count, hs.pentrySize]

theorem Layout.headers_ne (hl : d.Layout) (hne : gpt ≠ gpt') :
    Apart (d.headerOffset gpt) d.blkSize.toNat (d.headerOffset gpt') d.blkSize.toNat := by
  cases gpt <;> cases gpt'
  · exact absurd rfl hne
  · exact hl.headers
  · exact hl.headers.symm
  · exact absurd rfl hne

theorem Layout.arrays_ne (hl : d.Layout) (hne : gpt ≠ gpt') :
    Apart (d.arrayOffset gpt).toNat (d.arraySize gpt)
      (d.arrayOffset gpt').toNat (d.arraySize gpt') := by
  cases gpt <;> cases gpt'
  · exact absurd rfl hne
  · exact hl.arrays
  · exact hl.arrays.symm
  · exact absurd rfl hne

/-- The layout depends on the fields of the headers only. -/
theorem Layout.of_sameFields (hl : e.Layout) (hb : d.blkSize = e.blkSize)
    (hn : d.data.length = e.data.length)
    (hs : ∀ gpt, SameFields (d.header gpt) (e.header gpt)) : d.Layout := by
  have hoff : ∀ gpt, d.headerOffset gpt = e.headerOffset gpt := by
    intro gpt
    cases gpt <;> simp only [headerOffset, hb, hn]
  have haoff : ∀ gpt, d.arrayOffset gpt = e.arrayOffset gpt := fun gpt ↦
    arrayOffset_congr (hs gpt) hb
  have hasz : ∀ gpt, d.arraySize gpt = e.arraySize gpt := fun gpt ↦ arraySize_congr (hs gpt)
  refine ⟨⟨?_, ?_, ?_⟩, ?_, ?_⟩
  · rw [hoff, hoff, hb]
    exact hl.headers
  · rw [haoff, haoff, hasz, hasz]
    exact hl.arrays
  · intro gpt gpt'
    rw [hoff, haoff, hasz, hb]
    exact hl.header_array gpt gpt'
  · intro gpt
    rw [haoff, hasz, hn]
    exact hl.array_le gpt
  · rw [hasz, hasz]
    exact hl.arraySize_eq

theorem length_array (hl : d.Layout) : (d.array gpt).length = d.arraySize gpt :=
  length_slice (hl.array_le gpt)

/-! ### A header write -/

theorem header_putHeader_same (hlen : h.length = d.blkSize.toNat) :
    (d.putHeader gpt h).header gpt = h := by
  rw [header, putHeader, store_headerOffset, store_blkSize, store_data, ← hlen]
  exact slice_splice_same (by rw [hlen]; exact d.headerOffset_add_le gpt)

variable (hl : d.Layout)
include hl

theorem header_putHeader_ne (hlen : h.length = d.blkSize.toNat)
    (hne : gpt ≠ gpt') : (d.putHeader gpt h).header gpt' = d.header gpt' := by
  rw [header, putHeader, store_headerOffset, store_blkSize, store_data, header]
  exact slice_splice_apart (by rw [hlen]; exact hl.headers_ne hne)

theorem sameFields_putHeader (hs : SameFields h (d.header gpt)) :
    SameFields ((d.putHeader gpt h).header gpt') (d.header gpt') := by
  have hlen : h.length = d.blkSize.toNat := by rw [hs.length, length_header]
  by_cases hne : gpt = gpt'
  · subst hne
    rw [header_putHeader_same hlen]
    exact hs
  · rw [header_putHeader_ne hl hlen hne]
    exact SameFields.refl _

theorem Layout.putHeader (hs : SameFields h (d.header gpt)) :
    (d.putHeader gpt h).Layout :=
  hl.of_sameFields rfl (length_splice _ _ _) fun _ ↦ sameFields_putHeader hl hs

theorem array_putHeader (hs : SameFields h (d.header gpt)) :
    (d.putHeader gpt h).array gpt' = d.array gpt' := by
  have hlen : h.length = d.blkSize.toNat := by rw [hs.length, length_header]
  rw [array, arrayOffset_congr (sameFields_putHeader hl hs) rfl,
    arraySize_congr (sameFields_putHeader hl hs), array]
  exact slice_splice_apart (by rw [hlen]; exact hl.header_array gpt gpt')

/-! ### An array write -/

variable (hlen : a.length = d.arraySize gpt)
include hlen

theorem header_putArray :
    (d.putArray gpt a).header gpt' = d.header gpt' := by
  rw [header, putArray, store_headerOffset, store_blkSize, store_data, header]
  exact slice_splice_apart (by rw [hlen]; exact (hl.header_array gpt' gpt).symm)

theorem Layout.putArray :
    (d.putArray gpt a).Layout := by
  refine hl.of_sameFields rfl (length_splice _ _ _) fun gpt' ↦ ?_
  rw [header_putArray hl hlen]
  exact SameFields.refl _

theorem array_putArray_same :
    (d.putArray gpt a).array gpt = a := by
  have hs : SameFields ((d.putArray gpt a).header gpt) (d.header gpt) := by
    rw [header_putArray hl hlen]
    exact SameFields.refl _
  rw [array, arrayOffset_congr hs rfl, arraySize_congr hs, ← hlen, putArray, store_data]
  exact slice_splice_same (by rw [hlen]; exact hl.array_le gpt)

theorem array_putArray_ne (hne : gpt ≠ gpt') :
    (d.putArray gpt a).array gpt' = d.array gpt' := by
  have hs : SameFields ((d.putArray gpt a).header gpt') (d.header gpt') := by
    rw [header_putArray hl hlen]
    exact SameFields.refl _
  rw [array, arrayOffset_congr hs rfl, arraySize_congr hs, putArray, store_data, array]
  exact slice_splice_apart (by rw [hlen]; exact hl.arrays_ne hne)

end BlockDevice

end MataDevice.Gpt
