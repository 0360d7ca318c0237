import MataDevice.Gpt.Stages

/-!
# The three blocks the update writes

Of a whole disk the update only ever writes the two headers and the secondary array. `image` is the
disk with these three replaced and everything else as it was, and every state of an update is an
image of the disk it started from. On images a write is the replacement of one component, so that
the byte-for-byte claims about the update come down to equations between header blocks.
-/

namespace MataDevice.Gpt

/-! ## Equations between header blocks -/

section Headers

variable {crc32 : Bytes → UInt32} {h a b : Bytes}

/-- A mark on the first bytes and a field behind them do not get in each other's way. -/
private theorem mark_put4 {m : Bytes} {off : ℕ} (y : UInt32) (hm : m.length ≤ off) :
    splice (put4 h off y) 0 m = put4 (splice h 0 m) off y :=
  splice_comm _ (by right; simpa using hm)

theorem sealed_restored_sealed (h : Bytes) :
    sealed crc32 (restored (sealed crc32 h)) = sealed crc32 (restored h) := by
  rw [sealed.eq_def crc32 h, restored, mark_put4 _ (by decide), sealed_put4, restored]

/-- The secondary header depends on the array it is given last. -/
theorem chainHeader_sealed (h : Bytes) :
    chainHeader crc32 (sealed crc32 h) a = chainHeader crc32 h a := by
  have hcomm : put4 (sealed crc32 h) partitionCrcOffset (crc32 a)
      = put4 (put4 h partitionCrcOffset (crc32 a)) headerCrcOffset (headerSum crc32 h) :=
    splice_comm _ (by simp only [length_le4]; decide)
  rw [chainHeader, hcomm, sealed_put4, chainHeader]

theorem chainHeader_put4 (y : UInt32) :
    chainHeader crc32 (put4 h partitionCrcOffset y) a = chainHeader crc32 h a := by
  rw [chainHeader, put4, put4, splice_splice_same _ (by simp), ← put4, chainHeader]

theorem chainHeader_chainHeader : chainHeader crc32 (chainHeader crc32 h b) a
    = chainHeader crc32 h a := by
  rw [chainHeader.eq_def crc32 h b, chainHeader_sealed, chainHeader_put4]

/-- The header of a valid GPT is the one its own array would be given. -/
theorem chainHeader_eq_self (hok : HeaderCrcOk crc32 h) (hlen : 512 ≤ h.length)
    (hc : get4 h partitionCrcOffset = crc32 a) : chainHeader crc32 h a = h := by
  rw [chainHeader, ← hc, put4_get4_self (by simp only [partitionCrcOffset]; omega),
    sealed_eq_self hok hlen]

end Headers

/-! ## Images of a disk -/

namespace BlockDevice

/-- The disk with its two headers and its secondary array replaced. -/
def image (d : BlockDevice) (p s a : Bytes) : BlockDevice :=
  ((d.putArray .secondary a).putHeader .secondary s).putHeader .primary p

/-- Blocks that describe the regions as the disk itself does, and so can stand in their place. -/
structure Replaces (d : BlockDevice) (p s a : Bytes) : Prop where
  primary : SameFields p (d.header .primary)
  secondary : SameFields s (d.header .secondary)
  array : a.length = d.arraySize .secondary

variable {d : BlockDevice} {p s a : Bytes}

theorem Replaces.self (hl : d.Layout) :
    d.Replaces (d.header .primary) (d.header .secondary) (d.array .secondary) :=
  ⟨SameFields.refl _, SameFields.refl _, length_array hl⟩

theorem Replaces.withPrimary {p' : Bytes} (hi : d.Replaces p s a) (hp : SameFields p' p) :
    d.Replaces p' s a :=
  ⟨hp.trans hi.primary, hi.secondary, hi.array⟩

theorem Replaces.withSecondary {s' : Bytes} (hi : d.Replaces p s a) (hs : SameFields s' s) :
    d.Replaces p s' a :=
  ⟨hi.primary, hs.trans hi.secondary, hi.array⟩

theorem Replaces.withArray {a' : Bytes} (hi : d.Replaces p s a) (ha : a'.length = a.length) :
    d.Replaces p s a' :=
  ⟨hi.primary, hi.secondary, ha.trans hi.array⟩

private theorem headerOffset_image (gpt : GptInstance) :
    (d.image p s a).headerOffset gpt = d.headerOffset gpt := by
  rw [image, putHeader, putHeader, putArray, store_headerOffset, store_headerOffset,
    store_headerOffset]

private theorem data_image : (d.image p s a).data
    = splice (splice (splice d.data (d.arrayOffset .secondary).toNat a)
        (d.headerOffset .secondary) s) (d.headerOffset .primary) p := by
  simp only [image, putHeader, putArray, store_headerOffset, store_data]

private theorem Replaces.length_primary (hi : d.Replaces p s a) :
    p.length = ((d.putArray .secondary a).putHeader .secondary s).blkSize.toNat := by
  rw [hi.primary.length, length_header]
  rfl

private theorem Replaces.length_secondary (hi : d.Replaces p s a) :
    s.length = (d.putArray .secondary a).blkSize.toNat := by
  rw [hi.secondary.length, length_header]
  rfl

theorem header_image_primary (hi : d.Replaces p s a) : (d.image p s a).header .primary = p :=
  header_putHeader_same hi.length_primary

section Reading

variable (hl : d.Layout) (hi : d.Replaces p s a)
include hl hi

private theorem layout_putArray : (d.putArray .secondary a).Layout := hl.putArray hi.array

private theorem secondary_putArray :
    SameFields s ((d.putArray .secondary a).header .secondary) := by
  rw [header_putArray hl hi.array]
  exact hi.secondary

private theorem layout_putSecondary :
    ((d.putArray .secondary a).putHeader .secondary s).Layout :=
  (layout_putArray hl hi).putHeader (secondary_putArray hl hi)

private theorem primary_putSecondary :
    SameFields p (((d.putArray .secondary a).putHeader .secondary s).header .primary) := by
  rw [header_putHeader_ne (layout_putArray hl hi) hi.length_secondary (by decide),
    header_putArray hl hi.array]
  exact hi.primary

theorem layout_image : (d.image p s a).Layout :=
  (layout_putSecondary hl hi).putHeader (primary_putSecondary hl hi)

theorem header_image_secondary : (d.image p s a).header .secondary = s := by
  rw [image, header_putHeader_ne (layout_putSecondary hl hi) hi.length_primary (by decide),
    header_putHeader_same hi.length_secondary]

theorem array_image_primary : (d.image p s a).array .primary = d.array .primary := by
  rw [image, array_putHeader (layout_putSecondary hl hi) (primary_putSecondary hl hi),
    array_putHeader (layout_putArray hl hi) (secondary_putArray hl hi),
    array_putArray_ne hl hi.array (by decide)]

theorem array_image_secondary : (d.image p s a).array .secondary = a := by
  rw [image, array_putHeader (layout_putSecondary hl hi) (primary_putSecondary hl hi),
    array_putHeader (layout_putArray hl hi) (secondary_putArray hl hi),
    array_putArray_same hl hi.array]

private theorem arrayOffset_image : (d.image p s a).arrayOffset .secondary
    = d.arrayOffset .secondary := by
  refine arrayOffset_congr ?_ rfl
  rw [header_image_secondary hl hi]
  exact hi.secondary

end Reading

/-! ### A write replaces one component -/

variable {p' s' a' : Bytes}

theorem image_putHeader_primary (hp : SameFields p' p) :
    (d.image p s a).putHeader .primary p' = d.image p' s a := by
  refine ext_data ?_ rfl
  rw [putHeader, store_data, headerOffset_image, data_image, data_image]
  exact splice_splice_same _ hp.length.symm

section Writing

variable (hl : d.Layout) (hi : d.Replaces p s a)
include hl hi

theorem image_putHeader_secondary (hs : SameFields s' s) :
    (d.image p s a).putHeader .secondary s' = d.image p s' a := by
  have hcomm : Apart (d.headerOffset .primary) p.length (d.headerOffset .secondary) s'.length := by
    rw [hi.primary.length, hs.length, hi.secondary.length, length_header, length_header]
    exact hl.headers
  refine ext_data ?_ rfl
  rw [putHeader, store_data, headerOffset_image, data_image, data_image, splice_comm _ hcomm,
    splice_splice_same _ hs.length.symm]

theorem image_putArray (ha : a'.length = a.length) :
    (d.image p s a).putArray .secondary a' = d.image p s a' := by
  have hp : Apart (d.headerOffset .primary) p.length (d.arrayOffset .secondary).toNat
      a'.length := by
    rw [hi.primary.length, length_header, ha, hi.array]
    exact hl.header_array _ _
  have hs : Apart (d.headerOffset .secondary) s.length (d.arrayOffset .secondary).toNat
      a'.length := by
    rw [hi.secondary.length, length_header, ha, hi.array]
    exact hl.header_array _ _
  refine ext_data ?_ rfl
  rw [putArray, store_data, arrayOffset_image hl hi, data_image, data_image, splice_comm _ hp,
    splice_comm _ hs, splice_splice_same _ ha.symm]

end Writing

/-- A disk is an image of itself. -/
theorem image_self (hl : d.Layout) :
    d.image (d.header .primary) (d.header .secondary) (d.array .secondary) = d := by
  refine ext_data ?_ rfl
  rw [data_image, array, splice_slice_self _ (hl.array_le .secondary), header,
    header, splice_slice_self _ (d.headerOffset_add_le .secondary),
    splice_slice_self _ (d.headerOffset_add_le .primary)]

end BlockDevice

end MataDevice.Gpt
