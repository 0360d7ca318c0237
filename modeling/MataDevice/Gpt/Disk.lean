import MataDevice.Lib.ByteStore

/-!
# Block devices and GPT header blocks

The bytes `gpt-utils.cpp` works on. A header block is the list of the bytes of one block of the
device; its fields sit at fixed offsets and are read and written byte by byte, little endian, by the
`GET_4_BYTES`, `GET_8_BYTES` and `PUT_4_BYTES` macros. Sizes and offsets keep the widths they have
in the source: the block size and the size of the entries array are 32-bit, the byte offset of the
array is 64-bit, and both products wrap.

A `BlockDevice` holds at least the two blocks that a header access needs and is small enough for
its size to be a non-negative `int64_t`, so that no header access is ever short.
-/

namespace MataDevice.Gpt

open List

abbrev Bytes := List UInt8

/-! ## Header fields -/

def headerSizeOffset : ℕ := 12

def headerCrcOffset : ℕ := 16

def pentriesOffset : ℕ := 72

def partitionCountOffset : ℕ := 80

def pentrySizeOffset : ℕ := 84

def partitionCrcOffset : ℕ := 88

/-- The characters of a string constant as bytes, without the terminating NUL. -/
def chars (s : String) : Bytes := s.toList.map fun c ↦ c.toNat.toUInt8

/-- `GPT_SIGNATURE` as the compiler stores it: the terminating NUL is part of the constant, and
`sizeof` counts it. -/
def gptSignature : Bytes := chars "EFI PART" ++ [0]

/-- `GET_4_BYTES`. -/
def get4 (p : Bytes) (off : ℕ) : UInt32 :=
  UInt32.ofNat ((p.getD off 0).toNat ||| (p.getD (off + 1) 0).toNat <<< 8
    ||| (p.getD (off + 2) 0).toNat <<< 16 ||| (p.getD (off + 3) 0).toNat <<< 24)

/-- `GET_8_BYTES`. -/
def get8 (p : Bytes) (off : ℕ) : UInt64 :=
  UInt64.ofNat ((p.getD off 0).toNat ||| (p.getD (off + 1) 0).toNat <<< 8
    ||| (p.getD (off + 2) 0).toNat <<< 16 ||| (p.getD (off + 3) 0).toNat <<< 24
    ||| (p.getD (off + 4) 0).toNat <<< 32 ||| (p.getD (off + 5) 0).toNat <<< 40
    ||| (p.getD (off + 6) 0).toNat <<< 48 ||| (p.getD (off + 7) 0).toNat <<< 56)

/-- The four bytes `PUT_4_BYTES` stores. -/
def le4 (y : UInt32) : Bytes :=
  [UInt8.ofNat y.toNat, UInt8.ofNat (y.toNat >>> 8), UInt8.ofNat (y.toNat >>> 16),
    UInt8.ofNat (y.toNat >>> 24)]

/-- `PUT_4_BYTES`. -/
def put4 (p : Bytes) (off : ℕ) (y : UInt32) : Bytes := splice p off (le4 y)

@[simp] theorem length_le4 (y : UInt32) : (le4 y).length = 4 := rfl

@[simp] theorem length_put4 (p : Bytes) (off : ℕ) (y : UInt32) : (put4 p off y).length = p.length :=
  length_splice _ _ _

/-- A shifted byte has no bit in common with what lies below it. -/
private theorem or_shiftLeft {x y k : ℕ} (h : x < 2 ^ k) : x ||| y <<< k = x + y * 2 ^ k := by
  rw [Nat.or_comm, ← Nat.shiftLeft_add_eq_or_of_lt h, Nat.shiftLeft_eq, Nat.add_comm]

theorem get4_toNat (p : Bytes) (off : ℕ) :
    (get4 p off).toNat = (p.getD off 0).toNat + (p.getD (off + 1) 0).toNat * 2 ^ 8
      + (p.getD (off + 2) 0).toNat * 2 ^ 16 + (p.getD (off + 3) 0).toNat * 2 ^ 24 := by
  have h0 := (p.getD off 0).toNat_lt
  have h1 := (p.getD (off + 1) 0).toNat_lt
  have h2 := (p.getD (off + 2) 0).toNat_lt
  have h3 := (p.getD (off + 3) 0).toNat_lt
  rw [get4, or_shiftLeft (x := (p.getD off 0).toNat) (k := 8) (by omega),
    or_shiftLeft (k := 16) (by omega), or_shiftLeft (k := 24) (by omega),
    UInt32.toNat_ofNat_of_lt' (by simp only [UInt32.size]; omega)]

private theorem getD_eq_of_slice {p q : Bytes} {off n i : ℕ} (h : slice p off n = slice q off n)
    (hi : i < n) : p.getD (off + i) 0 = q.getD (off + i) 0 := by
  have hcell := congrArg (fun l ↦ l[i]?) h
  simp only [getElem?_slice, if_pos hi] at hcell
  rw [getD_eq_getElem?_getD, getD_eq_getElem?_getD, hcell]

variable {off : ℕ} {p : Bytes}

/-- A field depends on its own four bytes only. -/
theorem get4_congr {p q : Bytes} (h : slice p off 4 = slice q off 4) :
    get4 p off = get4 q off := by
  have h0 : p.getD off 0 = q.getD off 0 := getD_eq_of_slice h (i := 0) (by omega)
  rw [get4, get4, h0, getD_eq_of_slice h (i := 1) (by omega),
    getD_eq_of_slice h (i := 2) (by omega), getD_eq_of_slice h (i := 3) (by omega)]

theorem get8_congr {p q : Bytes} (h : slice p off 8 = slice q off 8) :
    get8 p off = get8 q off := by
  have h0 : p.getD off 0 = q.getD off 0 := getD_eq_of_slice h (i := 0) (by omega)
  rw [get8, get8, h0, getD_eq_of_slice h (i := 1) (by omega),
    getD_eq_of_slice h (i := 2) (by omega), getD_eq_of_slice h (i := 3) (by omega),
    getD_eq_of_slice h (i := 4) (by omega), getD_eq_of_slice h (i := 5) (by omega),
    getD_eq_of_slice h (i := 6) (by omega), getD_eq_of_slice h (i := 7) (by omega)]

/-- What `PUT_4_BYTES` stored, `GET_4_BYTES` reads back. -/
theorem get4_put4 (y : UInt32) (h : off + 4 ≤ p.length) :
    get4 (put4 p off y) off = y := by
  have hcell : ∀ i, i < 4 → (put4 p off y).getD (off + i) 0 = (le4 y).getD i 0 := by
    intro i hi
    rw [getD_eq_getElem?_getD, put4, getElem?_splice, if_pos (by simp; omega),
      Nat.add_sub_cancel_left, ← getD_eq_getElem?_getD]
  have h0 : (put4 p off y).getD off 0 = (le4 y).getD 0 0 := hcell 0 (by omega)
  apply UInt32.toNat_inj.mp
  rw [get4_toNat, h0, hcell 1 (by omega), hcell 2 (by omega), hcell 3 (by omega)]
  have hy := y.toNat_lt
  simp only [le4, getD_cons_zero, getD_cons_succ, UInt8.toNat_ofNat',
    Nat.shiftRight_eq_div_pow]
  omega

theorem get4_put4_apart {off a : ℕ} (y : UInt32) (h : Apart off 4 a 4) :
    get4 (put4 p off y) a = get4 p a :=
  get4_congr (slice_splice_apart (by simpa using h))

/-- Storing what a field already holds changes nothing. -/
theorem put4_get4_self (h : off + 4 ≤ p.length) :
    put4 p off (get4 p off) = p := by
  have hle : le4 (get4 p off) = slice p off 4 := by
    apply ext_getElem?
    intro i
    rw [getElem?_slice]
    have hy := get4_toNat p off
    have h0 := (p.getD off 0).toNat_lt
    have h1 := (p.getD (off + 1) 0).toNat_lt
    have h2 := (p.getD (off + 2) 0).toNat_lt
    have h3 := (p.getD (off + 3) 0).toNat_lt
    have hget : ∀ k, k < 4 → p[off + k]? = some (p.getD (off + k) 0) := by
      intro k hk
      rw [getD_eq_getElem?_getD, getElem?_eq_getElem (by omega), Option.getD_some]
    have hbyte : ∀ (n : ℕ) (b : UInt8), n % 256 = b.toNat → UInt8.ofNat n = b := by
      intro n b hb
      apply UInt8.toNat_inj.mp
      rw [UInt8.toNat_ofNat', hb]
    match i with
    | 0 => rw [if_pos (by omega), hget 0 (by omega)]
           exact congrArg some (hbyte _ _ (by simp only [Nat.add_zero]; omega))
    | 1 => rw [if_pos (by omega), hget 1 (by omega)]
           exact congrArg some (hbyte _ _ (by rw [Nat.shiftRight_eq_div_pow]; omega))
    | 2 => rw [if_pos (by omega), hget 2 (by omega)]
           exact congrArg some (hbyte _ _ (by rw [Nat.shiftRight_eq_div_pow]; omega))
    | 3 => rw [if_pos (by omega), hget 3 (by omega)]
           exact congrArg some (hbyte _ _ (by rw [Nat.shiftRight_eq_div_pow]; omega))
    | n + 4 => rw [if_neg (by omega), getElem?_eq_none (by simp)]
  rw [put4, hle, splice_slice_self p h]

/-! ## Block devices -/

/-- An open block device. -/
structure BlockDevice where
  /-- The bytes of the device. -/
  data : Bytes
  /-- What `ioctl(fd, BLKSSZGET, ..)` stores. -/
  blkSize : UInt32
  /-- A header fits into a block; Linux has no smaller logical block. -/
  blkSize_ge : 512 ≤ blkSize.toNat
  /-- The device has the block that the primary header is read from. -/
  size_ge : 2 * blkSize.toNat ≤ data.length
  /-- `lseek64(fd, 0, SEEK_END)` is an `int64_t`. -/
  size_lt : data.length < 2 ^ 63

/-- `enum gpt_instance`. -/
inductive GptInstance
  | primary
  | secondary
  deriving DecidableEq, Repr

namespace BlockDevice

variable (d : BlockDevice)

/-- A write to the device. What lies beyond its end is not written. -/
def store (off : ℕ) (buf : Bytes) : BlockDevice where
  data := splice d.data off buf
  blkSize := d.blkSize
  blkSize_ge := d.blkSize_ge
  size_ge := by rw [length_splice]; exact d.size_ge
  size_lt := by rw [length_splice]; exact d.size_lt

/-- `blk_rw` with `rw` zero, into a zeroed buffer of `len` bytes. Seeking beyond the end of a block
device fails; a read that reaches the end is short, and `blk_rw` takes it for a success. -/
def blkRead (off : UInt64) (len : ℕ) : Option Bytes :=
  if off.toNat ≤ d.data.length then
    let got := slice d.data off.toNat len
    some (got ++ List.replicate (len - got.length) 0)
  else none

/-- `blk_rw` with `rw` non-zero. Nothing can be written at or beyond the end of the device; a write
that reaches the end is short, and `blk_rw` takes it for a success. -/
def blkWrite (off : UInt64) (buf : Bytes) : Option BlockDevice :=
  if off.toNat < d.data.length ∨ (off.toNat = d.data.length ∧ buf = []) then
    some (d.store off.toNat buf)
  else none

/-- Where the header block of an instance starts: block 1, or the last block. -/
def headerOffset : GptInstance → ℕ
  | .primary => d.blkSize.toNat
  | .secondary => d.data.length - d.blkSize.toNat

/-- The header block of an instance. -/
def header (gpt : GptInstance) : Bytes := slice d.data (d.headerOffset gpt) d.blkSize.toNat

/-- The size of the entries array a header describes, in bytes. The product is a `uint32_t`. -/
def arraySize (gpt : GptInstance) : ℕ :=
  (get4 (d.header gpt) partitionCountOffset * get4 (d.header gpt) pentrySizeOffset).toNat

/-- The byte offset of the entries array a header describes. The product is a `uint64_t`. -/
def arrayOffset (gpt : GptInstance) : UInt64 :=
  get8 (d.header gpt) pentriesOffset * d.blkSize.toUInt64

/-- The entries array on the device. -/
def array (gpt : GptInstance) : Bytes :=
  slice d.data (d.arrayOffset gpt).toNat (d.arraySize gpt)

variable {d}

@[simp] theorem store_blkSize (off : ℕ) (buf : Bytes) : (d.store off buf).blkSize = d.blkSize := rfl

@[simp] theorem store_data (off : ℕ) (buf : Bytes) :
    (d.store off buf).data = splice d.data off buf := rfl

@[simp] theorem store_headerOffset (off : ℕ) (buf : Bytes) (gpt : GptInstance) :
    (d.store off buf).headerOffset gpt = d.headerOffset gpt := by
  cases gpt
  · rfl
  · simp [headerOffset]

/-- A device is its bytes and its block size. -/
theorem ext_data {d e : BlockDevice} (hdata : d.data = e.data) (hblk : d.blkSize = e.blkSize) :
    d = e := by
  obtain ⟨data, blkSize, _, _, _⟩ := d
  obtain ⟨data', blkSize', _, _, _⟩ := e
  cases hdata
  cases hblk
  rfl

theorem headerOffset_add_le (d : BlockDevice) (gpt : GptInstance) :
    d.headerOffset gpt + d.blkSize.toNat ≤ d.data.length := by
  have h := d.size_ge
  cases gpt <;> simp only [headerOffset] <;> omega

@[simp] theorem length_header (d : BlockDevice) (gpt : GptInstance) :
    (d.header gpt).length = d.blkSize.toNat := length_slice (d.headerOffset_add_le gpt)

/-- A read that stays within the device returns the bytes that are there. -/
theorem blkRead_eq {off : UInt64} {len : ℕ} (h : off.toNat + len ≤ d.data.length) :
    d.blkRead off len = some (slice d.data off.toNat len) := by
  simp only [blkRead, if_pos (show off.toNat ≤ d.data.length by omega), length_slice h]
  simp

/-- A read fills the whole buffer. -/
theorem length_of_blkRead {off : UInt64} {len : ℕ} {buf : Bytes} (h : d.blkRead off len = some buf) :
    buf.length = len := by
  rw [blkRead] at h
  split at h
  · have hle : (slice d.data off.toNat len).length ≤ len := length_take_le _ _
    rw [← Option.some_inj.mp h, length_append, length_replicate]
    omega
  · cases h

theorem blkWrite_eq {off : UInt64} {buf : Bytes} (h : off.toNat + buf.length ≤ d.data.length) :
    d.blkWrite off buf = some (d.store off.toNat buf) := by
  rw [blkWrite, if_pos]
  rcases Nat.lt_or_ge off.toNat d.data.length with hlt | hge
  · exact Or.inl hlt
  · exact Or.inr ⟨by omega, length_eq_zero_iff.mp (by omega)⟩

end BlockDevice

end MataDevice.Gpt
