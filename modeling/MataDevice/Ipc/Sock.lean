import Mathlib.Data.List.TakeWhile
import MataDevice.Lib.Decimal

/-!
# Messages over datagrams

`Sock` sends a message of at most `mMaxTxSize` bytes as one datagram. A longer one is announced by a
datagram with its length as text, and sent in parts. The receiver tells the datagrams apart by how
they begin: one that reads as the abort message makes it leave its loop, and one that begins as an
announcement makes it take the next datagrams, whatever they are, for the parts of a long message.

The receiver waits in one of two calls of the kernel, for a new message or for the next part of a
long one, and what it does with a datagram is one step. The kernel cuts a datagram off to the room
there is for it. The buffer for a new message is filled with zeros before, so that whatever is
received reads as a string of C. `maxSize` is the longest string that `resize` grants; beyond it, it
throws.
-/

namespace MataDevice.Ipc

open Decimal List

abbrev Bytes := List UInt8

/-! ## Texts -/

/-- `strncmp` finds no difference in the first `n` characters. The end of a list is the end of the
string. -/
def strncmpEq : ℕ → Bytes → Bytes → Bool
  | 0, _, _ => true
  | n + 1, s, t => s.headD 0 == t.headD 0 && (s.headD 0 == 0 || strncmpEq n s.tail t.tail)

/-- A string without zeros is compared to its end. -/
theorem strncmpEq_iff {s t : Bytes} (ht : 0 ∉ t) : strncmpEq t.length s t = true ↔ t <+: s := by
  induction t generalizing s with
  | nil => simp [strncmpEq]
  | cons b t ih =>
    have hb : b ≠ 0 := fun heq ↦ ht (heq ▸ mem_cons_self)
    rw [length_cons, strncmpEq]
    cases s with
    | nil => simp [Ne.symm hb]
    | cons c s =>
      have hrec := ih (s := s) fun hmem ↦ ht (mem_cons_of_mem _ hmem)
      by_cases hc : c = b
      · simp [hc, hb, hrec]
      · simp [hc, Ne.symm hc]

/-- With the zero at its end, what is read has to end there too. -/
theorem strncmpEq_succ_iff {s t : Bytes} (ht : 0 ∉ t) :
    strncmpEq (t.length + 1) s t = true ↔ t <+: s ∧ (s.drop t.length).headD 0 = 0 := by
  induction t generalizing s with
  | nil => simp [strncmpEq]
  | cons b t ih =>
    have hb : b ≠ 0 := fun heq ↦ ht (heq ▸ mem_cons_self)
    rw [length_cons, strncmpEq]
    cases s with
    | nil => simp [Ne.symm hb]
    | cons c s =>
      have hrec := ih (s := s) fun hmem ↦ ht (mem_cons_of_mem _ hmem)
      by_cases hc : c = b
      · simp [hc, hb, hrec]
      · simp [hc, Ne.symm hc]

def isSpace (b : UInt8) : Bool := b == 32 || (9 ≤ b && b ≤ 13)

/-- `sscanf` with `%zu` into a variable that is zero. A number that is too large is read as the
largest one, and a negative one wraps around. -/
def scanZu (text : Bytes) : ℕ :=
  let text := text.dropWhile isSpace
  let negative := text.head? = some 45
  let digits := (if negative ∨ text.head? = some 43 then text.tail else text).takeWhile isDigit
  let v := value digits
  if 2 ^ 64 ≤ v then 2 ^ 64 - 1 else if negative then (2 ^ 64 - v) % 2 ^ 64 else v

theorem scanZu_of_digits {text : Bytes} (h : ∀ b ∈ text, isDigit b = true)
    (hv : value text < 2 ^ 64) : scanZu text = value text := by
  have hhead : ∀ b, text.head? = some b → 48 ≤ b.toNat := fun b hb ↦
    (isDigit_iff.mp (h b (mem_of_head? hb))).1
  have hspace : text.dropWhile isSpace = text := by
    cases text with
    | nil => rfl
    | cons b text =>
      refine dropWhile_cons_of_neg ?_
      have hb := hhead b rfl
      intro hspace
      simp only [isSpace, Bool.or_eq_true, beq_iff_eq, Bool.and_eq_true, decide_eq_true_eq] at hspace
      rcases hspace with rfl | ⟨-, hle⟩
      · exact absurd hb (by decide)
      · have hle : b.toNat ≤ 13 := hle
        omega
  have hsign : ∀ b : UInt8, b.toNat < 48 → text.head? ≠ some b := fun b hb hhd ↦
    absurd (hhead b hhd) (by omega)
  have hdigits : text.takeWhile isDigit = text := takeWhile_eq_self_iff.mpr h
  simp only [scanZu, hspace, hsign 45 (by decide), hsign 43 (by decide), or_self, if_false, hdigits,
    if_neg hv.not_ge]

/-- A text is at least as long as the number it stands for. -/
theorem length_toText_scanZu_le {text : Bytes} (hpos : 0 < scanZu text)
    (hlt : scanZu text < 2 ^ 32) : (toText (scanZu text)).length ≤ text.length := by
  set rest := text.dropWhile isSpace with hrest
  set unsigned := if rest.head? = some 45 ∨ rest.head? = some 43 then rest.tail else rest with hun
  set digits := unsigned.takeWhile isDigit with hdigits
  have hlen : digits.length ≤ text.length := by
    calc digits.length ≤ unsigned.length := (takeWhile_sublist _).length_le
      _ ≤ rest.length := by
        rw [hun]
        split
        · simp
        · exact le_rfl
      _ ≤ text.length := (dropWhile_suffix _).length_le
  have hv : value digits < 10 ^ digits.length := value_lt fun b hb ↦ mem_takeWhile_imp hb
  have hscan : scanZu text = if 2 ^ 64 ≤ value digits then 2 ^ 64 - 1
      else if rest.head? = some 45 then (2 ^ 64 - value digits) % 2 ^ 64 else value digits := rfl
  have hpow : scanZu text < 10 ^ digits.length := by
    refine lt_of_le_of_lt ?_ hv
    rw [hscan] at hlt hpos ⊢
    split at hlt
    · omega
    · next hsmall =>
      rw [if_neg hsmall] at hpos ⊢
      split at hlt
      · next hneg =>
        -- only a number close to 2 ^ 64 wraps around to a small one
        rw [if_pos hneg] at hpos ⊢
        omega
      · next hneg => rw [if_neg hneg]
  have hk : 0 < digits.length := by
    rcases Nat.eq_zero_or_pos digits.length with h0 | h0
    · rw [h0] at hpow
      omega
    · exact h0
  exact ((length_toText_le_iff hk).mpr hpow).trans hlen

/-! ## Sending -/

/-- The text of the abort message. -/
def abortText : Bytes :=
  ['L', 'o', 'c', 'I', 'p', 'c', ':', ':', 'S', 'o', 'c', 'k', ':', ':', 'A', 'B', 'O', 'R',
    'T'].map fun c ↦ c.toNat.toUInt8

/-- `MSG_ABORT`, which is sent with the zero at its end. -/
def msgAbort : Bytes := abortText ++ [0]

/-- `LOC_IPC_HEAD`. -/
def locIpcHead : Bytes :=
  ['$', 'M', 'S', 'G', 'L', 'E', 'N', '$'].map fun c ↦ c.toNat.toUInt8

/-- The loop of `Sock::sendto`. The offset grows with every round, so that a round for each byte is
enough. -/
def sendParts (mMaxTxSize : ℕ) : ℕ → Bytes → List Bytes
  | 0, _ => []
  | rounds + 1, buf =>
    if buf = [] then [] else buf.take mMaxTxSize :: sendParts mMaxTxSize rounds (buf.drop mMaxTxSize)

/-- `Sock::sendto`, as the datagrams it sends. -/
def sendto (mMaxTxSize : ℕ) (buf : Bytes) : List Bytes :=
  if buf.length ≤ mMaxTxSize then [buf]
  else (locIpcHead ++ toText buf.length) :: sendParts mMaxTxSize buf.length buf

theorem flatten_sendParts {mMaxTxSize : ℕ} (h : 0 < mMaxTxSize) {rounds : ℕ} {buf : Bytes}
    (hr : buf.length ≤ rounds) : (sendParts mMaxTxSize rounds buf).flatten = buf := by
  induction rounds generalizing buf with
  | zero =>
    rw [length_eq_zero_iff.mp (Nat.le_zero.mp hr)]
    rfl
  | succ rounds ih =>
    rw [sendParts]
    split
    · next hnil => rw [hnil]; rfl
    · next hnil =>
      have hpos := length_pos_of_ne_nil hnil
      rw [flatten_cons, ih (by rw [length_drop]; omega), take_append_drop]

theorem ne_nil_of_mem_sendParts {mMaxTxSize : ℕ} (h : 0 < mMaxTxSize) {rounds : ℕ} {buf part : Bytes}
    (hp : part ∈ sendParts mMaxTxSize rounds buf) : part ≠ [] := by
  induction rounds generalizing buf with
  | zero => cases hp
  | succ rounds ih =>
    rw [sendParts] at hp
    split at hp
    · cases hp
    · next hnil =>
      rcases mem_cons.mp hp with rfl | hp
      · simp [hnil, h.ne']
      · exact ih hp

/-! ## Receiving -/

/-- Where the receiver waits, or that it has left its loop. -/
inductive Recver
  /-- for a new message -/
  | listening
  /-- for the next part of a message of `msgLen` bytes, of which it has `msg` -/
  | collecting (msgLen : ℕ) (msg : Bytes)
  | left
  deriving DecidableEq, Repr

section Receive

variable (mMaxTxSize maxSize : ℕ)

/-- What `Sock::recvfrom` takes for the abort message. -/
def isAbort (msg : Bytes) : Bool := strncmpEq (abortText.length + 1) msg abortText

/-- What it takes for an announcement. -/
def isHead (msg : Bytes) : Bool := strncmpEq locIpcHead.length msg locIpcHead

/-- `Sock::recvfrom` with a datagram that comes in, and what it hands to `onReceive`. It goes on
listening if what it returns is positive. -/
def Recver.recvfrom : Recver → Bytes → Recver × List Bytes
  | .listening, datagram =>
    let msg := datagram.take mMaxTxSize
    if msg = [] then (.left, [])
    else if isAbort msg then (.left, [])
    else if !isHead msg then (.listening, [msg])
    else
      let msgLen := scanZu (msg.drop locIpcHead.length)
      if maxSize < msgLen then (.left, [])
      else if msgLen = 0 then (.left, [[]])
      else (.collecting msgLen [], [])
  | .collecting msgLen msg, datagram =>
    let part := datagram.take (msgLen - msg.length)
    if part = [] then (.left, [])
    else if (msg ++ part).length < msgLen then (.collecting msgLen (msg ++ part), [])
    else (.listening, [msg ++ part])
  | .left, _ => (.left, [])

/-- `LocIpc::startBlockingListening` on the datagrams that come in. -/
def Recver.listen : Recver → List Bytes → Recver × List Bytes
  | r, [] => (r, [])
  | r, datagram :: datagrams =>
    let (r', received) := r.recvfrom mMaxTxSize maxSize datagram
    let (r'', received') := listen r' datagrams
    (r'', received ++ received')

end Receive

end MataDevice.Ipc
