import MataDevice.Ipc.Sock

/-!
# What is sent is received

With one sender, the messages arrive as they were sent if and only if each of them is `Carried`: a
short one must not read as the abort message or begin as an announcement, and the announcement of a
long one must fit into a datagram.

That these messages arrive is shown one message at a time. That no others do takes a count of bytes.
A short message that begins as an announcement makes the receiver put together the next message from
the datagrams that follow, and it might put together the very message that was lost; but from then
on it would have to deliver more bytes than are left.
-/

namespace MataDevice.Ipc

open Decimal List

/-- Whether a message arrives as it was sent. -/
def Carried (mMaxTxSize : ℕ) (buf : Bytes) : Prop :=
  if buf.length ≤ mMaxTxSize then ¬isAbort buf ∧ ¬isHead buf
  else locIpcHead.length + (toText buf.length).length ≤ mMaxTxSize

instance (mMaxTxSize : ℕ) : DecidablePred (Carried mMaxTxSize) := fun _ ↦
  inferInstanceAs (Decidable (ite ..))

theorem isHead_iff {msg : Bytes} : isHead msg = true ↔ locIpcHead <+: msg :=
  strncmpEq_iff (by decide)

theorem isAbort_iff {msg : Bytes} :
    isAbort msg = true ↔ abortText <+: msg ∧ (msg.drop abortText.length).headD 0 = 0 :=
  strncmpEq_succ_iff (by decide)

/-- What begins as an announcement, even if it is cut off, does not read as the abort message. -/
theorem isAbort_take_head (text : Bytes) {n : ℕ} (hn : 0 < n) :
    isAbort ((locIpcHead ++ text).take n) = false := by
  rw [← Bool.not_eq_true, isAbort_iff]
  rintro ⟨hstart, -⟩
  obtain ⟨n, rfl⟩ := Nat.exists_eq_succ_of_ne_zero hn.ne'
  obtain ⟨rest, hrest⟩ := hstart
  have hfirst := congrArg List.head? hrest
  exact absurd hfirst (by simp [abortText, locIpcHead])

section Listen

variable {mMaxTxSize maxSize : ℕ}

theorem listen_cons (r : Recver) (datagram : Bytes) (datagrams : List Bytes) :
    r.listen mMaxTxSize maxSize (datagram :: datagrams)
      = (((r.recvfrom mMaxTxSize maxSize datagram).1.listen mMaxTxSize maxSize datagrams).1,
        (r.recvfrom mMaxTxSize maxSize datagram).2 ++
          ((r.recvfrom mMaxTxSize maxSize datagram).1.listen mMaxTxSize maxSize datagrams).2) := rfl

theorem listen_append (r : Recver) (datagrams datagrams' : List Bytes) :
    r.listen mMaxTxSize maxSize (datagrams ++ datagrams')
      = (((r.listen mMaxTxSize maxSize datagrams).1.listen mMaxTxSize maxSize datagrams').1,
        (r.listen mMaxTxSize maxSize datagrams).2 ++
          ((r.listen mMaxTxSize maxSize datagrams).1.listen mMaxTxSize maxSize datagrams').2) := by
  induction datagrams generalizing r with
  | nil => rfl
  | cons datagram datagrams ih => simp only [cons_append, Recver.listen, ih, append_assoc]

theorem listen_left (datagrams : List Bytes) :
    Recver.left.listen mMaxTxSize maxSize datagrams = (.left, []) := by
  induction datagrams with
  | nil => rfl
  | cons datagram datagrams ih => simp only [Recver.listen, Recver.recvfrom, ih, List.append_nil]

/-- What the receiver does with an announcement, cut off or not. -/
theorem recvfrom_head {text : Bytes} (hfit : locIpcHead.length ≤ mMaxTxSize) :
    Recver.listening.recvfrom mMaxTxSize maxSize (locIpcHead ++ text)
      = (let msgLen := scanZu (text.take (mMaxTxSize - locIpcHead.length))
        if maxSize < msgLen then (.left, [])
        else if msgLen = 0 then (.left, [[]])
        else (.collecting msgLen [], [])) := by
  have hpos : 0 < mMaxTxSize := hfit.trans_lt' (by decide)
  have htake : (locIpcHead ++ text).take mMaxTxSize
      = locIpcHead ++ text.take (mMaxTxSize - locIpcHead.length) := by
    rw [take_append, take_of_length_le hfit]
  have hhead : isHead (locIpcHead ++ text.take (mMaxTxSize - locIpcHead.length)) = true :=
    isHead_iff.mpr (prefix_append ..)
  have habort := isAbort_take_head text hpos
  have hne : locIpcHead ++ text.take (mMaxTxSize - locIpcHead.length) ≠ [] := by
    simp [locIpcHead]
  rw [htake] at habort
  rw [Recver.recvfrom, htake, if_neg hne, habort, hhead, drop_left]
  rfl

variable {buf : Bytes}

/-- A message of one datagram. -/
theorem recvfrom_short (hne : buf ≠ []) (hlen : buf.length ≤ mMaxTxSize)
    (habort : isAbort buf = false) (hhead : isHead buf = false) :
    Recver.listening.recvfrom mMaxTxSize maxSize buf = (.listening, [buf]) := by
  rw [Recver.recvfrom, take_of_length_le hlen, if_neg hne, habort, hhead]
  rfl

/-- The parts of a message are put together. -/
theorem listen_parts {parts : List Bytes} {msgLen : ℕ} (msg : Bytes)
    (hne : ∀ part ∈ parts, part ≠ []) (hlen : msg.length + parts.flatten.length = msgLen)
    (hlt : msg.length < msgLen) :
    (Recver.collecting msgLen msg).listen mMaxTxSize maxSize parts
      = (.listening, [msg ++ parts.flatten]) := by
  induction parts generalizing msg with
  | nil =>
    rw [flatten_nil, length_nil] at hlen
    omega
  | cons part parts ih =>
    have hpart := hne part mem_cons_self
    rw [flatten_cons, length_append] at hlen
    have htake : part.take (msgLen - msg.length) = part := take_of_length_le (by omega)
    rw [Recver.listen, Recver.recvfrom, htake, if_neg hpart, length_append]
    by_cases hlast : msg.length + part.length < msgLen
    · rw [if_pos hlast]
      have hrest := ih (msg ++ part) (fun p hp ↦ hne p (mem_cons_of_mem _ hp))
        (by rw [length_append]; omega) (by rw [length_append]; omega)
      simp only [hrest, nil_append, flatten_cons, append_assoc]
    · rw [if_neg hlast]
      -- parts are not empty, so that this was the last one
      cases parts with
      | nil => simp only [Recver.listen, flatten_cons, flatten_nil, List.append_nil]
      | cons part' parts =>
        have hpos := length_pos_of_ne_nil (hne part' (by simp))
        rw [flatten_cons, length_append] at hlen
        omega

/-- A message that is carried arrives. -/
theorem listen_sendto (hpos : 0 < mMaxTxSize) (hmax : 2 ^ 32 ≤ maxSize)
    (hne : buf ≠ []) (hlen : buf.length < 2 ^ 32) (h : Carried mMaxTxSize buf) :
    Recver.listening.listen mMaxTxSize maxSize (sendto mMaxTxSize buf) = (.listening, [buf]) := by
  rw [Carried] at h
  rw [sendto]
  split at h
  · next hshort =>
    rw [if_pos hshort, Recver.listen, recvfrom_short hne hshort (by simpa using h.1)
      (by simpa using h.2)]
    rfl
  · next hlong =>
    have hfull : (toText buf.length).take (mMaxTxSize - locIpcHead.length) = toText buf.length :=
      take_of_length_le (by omega)
    have hscan : scanZu (toText buf.length) = buf.length := by
      rw [scanZu_of_digits (fun b hb ↦ isDigit_of_mem_toText hb), value_toText]
      rw [value_toText]
      omega
    rw [if_neg hlong, Recver.listen, recvfrom_head (by omega), hfull, hscan]
    dsimp only
    rw [if_neg (by omega), if_neg (length_pos_of_ne_nil hne).ne',
      listen_parts [] (fun part hp ↦ ne_nil_of_mem_sendParts hpos hp)
        (by rw [flatten_sendParts hpos le_rfl]; exact Nat.zero_add _)
        (length_pos_of_ne_nil hne), flatten_sendParts hpos le_rfl]
    rfl

/-! ## Nothing else is received -/

variable (mMaxTxSize maxSize) in
/-- What a datagram can do to a receiver that waits for a new message. -/
theorem recvfrom_listening_cases (datagram : Bytes) :
    Recver.listening.recvfrom mMaxTxSize maxSize datagram = (.left, []) ∨
      Recver.listening.recvfrom mMaxTxSize maxSize datagram
        = (.listening, [datagram.take mMaxTxSize]) ∨
      Recver.listening.recvfrom mMaxTxSize maxSize datagram = (.left, [[]]) ∨
      ∃ text, datagram.take mMaxTxSize = locIpcHead ++ text ∧ 0 < scanZu text ∧
        Recver.listening.recvfrom mMaxTxSize maxSize datagram
          = (.collecting (scanZu text) [], []) := by
  rw [Recver.recvfrom]
  dsimp only
  split_ifs with hnil habort hhead hmax hzero
  · exact .inl rfl
  · exact .inl rfl
  · exact .inr (.inl rfl)
  · exact .inl rfl
  · exact .inr (.inr (.inl rfl))
  · obtain ⟨text, htext⟩ := isHead_iff.mp (by simpa using hhead)
    rw [← htext, drop_left] at hzero ⊢
    exact .inr (.inr (.inr ⟨text, rfl, Nat.pos_of_ne_zero hzero, rfl⟩))

variable (mMaxTxSize maxSize) in
/-- What a datagram can do to a receiver that waits for a part. -/
theorem recvfrom_collecting_cases (msgLen : ℕ) (msg datagram : Bytes) :
    (Recver.collecting msgLen msg).recvfrom mMaxTxSize maxSize datagram = (.left, []) ∨
      ∃ part, part.length ≤ datagram.length ∧
        ((Recver.collecting msgLen msg).recvfrom mMaxTxSize maxSize datagram
            = (.collecting msgLen (msg ++ part), []) ∨
          (msg ++ part).length = msgLen ∧
          (Recver.collecting msgLen msg).recvfrom mMaxTxSize maxSize datagram
            = (.listening, [msg ++ part])) := by
  rw [Recver.recvfrom]
  split_ifs with hnil hmore
  · exact .inl rfl
  · exact .inr ⟨_, length_take_le' .., .inl rfl⟩
  · refine .inr ⟨_, length_take_le' .., .inr ⟨?_, rfl⟩⟩
    -- there was room for no more than the rest
    have hpos := length_pos_of_ne_nil hnil
    rw [length_append, length_take] at hmore
    rw [length_take] at hpos
    rw [length_append, length_take]
    omega

/-- The message that is put together has the length that was announced. -/
theorem length_of_listen_collecting {msgLen : ℕ} {msg : Bytes} {datagrams : List Bytes}
    {received : Bytes} {rest : List Bytes}
    (h : ((Recver.collecting msgLen msg).listen mMaxTxSize maxSize datagrams).2
      = received :: rest) : received.length = msgLen := by
  induction datagrams generalizing msg with
  | nil => cases h
  | cons datagram datagrams ih =>
    rw [Recver.listen] at h
    rcases recvfrom_collecting_cases mMaxTxSize maxSize msgLen msg datagram with
      hstep | ⟨part, -, hstep | ⟨hlen, hstep⟩⟩
    · rw [hstep] at h
      simp only [listen_left] at h
      cases h
    · rw [hstep] at h
      exact ih h
    · rw [hstep] at h
      have hfirst := (List.cons.inj h).1
      rw [← hfirst, hlen]

/-- How many bytes a message takes in the datagrams it is sent in. -/
def wireLength (mMaxTxSize : ℕ) (buf : Bytes) : ℕ := (sendto mMaxTxSize buf).flatten.length

theorem wireLength_of_le (h : buf.length ≤ mMaxTxSize) :
    wireLength mMaxTxSize buf = buf.length := by
  rw [wireLength, sendto, if_pos h, flatten_singleton]

theorem wireLength_of_lt (hpos : 0 < mMaxTxSize) (h : mMaxTxSize < buf.length) :
    wireLength mMaxTxSize buf
      = locIpcHead.length + (toText buf.length).length + buf.length := by
  rw [wireLength, sendto, if_neg h.not_ge, flatten_cons, flatten_sendParts hpos le_rfl,
    length_append, length_append]

/-- The bytes that the receiver has been sent of the message it puts together. An announcement
counts if a sender would have written it. -/
def Recver.held (mMaxTxSize : ℕ) : Recver → ℕ
  | .collecting msgLen msg =>
    msg.length + if mMaxTxSize < msgLen ∧ msgLen < 2 ^ 32 then
      locIpcHead.length + (toText msgLen).length else 0
  | _ => 0

/-- A datagram does not make more of the bytes that it has. -/
theorem wireLength_recvfrom_le (hpos : 0 < mMaxTxSize) (r : Recver) (datagram : Bytes)
    (h : ∀ buf ∈ (r.recvfrom mMaxTxSize maxSize datagram).2, buf.length < 2 ^ 32) :
    ((r.recvfrom mMaxTxSize maxSize datagram).2.map (wireLength mMaxTxSize)).sum
        + (r.recvfrom mMaxTxSize maxSize datagram).1.held mMaxTxSize
      ≤ r.held mMaxTxSize + datagram.length := by
  cases r with
  | left => exact Nat.zero_le _
  | listening =>
    rcases recvfrom_listening_cases mMaxTxSize maxSize datagram with
      hstep | hstep | hstep | ⟨text, htext, hm, hstep⟩
    · rw [hstep]
      exact Nat.zero_le _
    · rw [hstep]
      have htake := length_take_le mMaxTxSize datagram
      have hlen := length_take_le' mMaxTxSize datagram
      simp only [map_cons, map_nil, sum_cons, sum_nil, Recver.held,
        wireLength_of_le htake]
      omega
    · rw [hstep]
      simp [Recver.held, wireLength_of_le]
    · rw [hstep]
      have hlen := length_take_le' mMaxTxSize datagram
      rw [htext, length_append] at hlen
      simp only [map_nil, sum_nil, Recver.held, length_nil]
      split
      · next hlong =>
        have hdigits := length_toText_scanZu_le hm hlong.2
        omega
      · omega
  | collecting msgLen msg =>
    rcases recvfrom_collecting_cases mMaxTxSize maxSize msgLen msg datagram with
      hstep | ⟨part, hpart, hstep | ⟨hlen, hstep⟩⟩
    · rw [hstep]
      exact Nat.zero_le _
    · rw [hstep]
      simp only [map_nil, sum_nil, Recver.held, length_append]
      omega
    · rw [hstep] at h ⊢
      have hlt := h _ mem_cons_self
      simp only [map_cons, map_nil, sum_cons, sum_nil, Recver.held]
      by_cases hlong : mMaxTxSize < (msg ++ part).length
      · rw [wireLength_of_lt hpos hlong, hlen, if_pos ⟨hlen ▸ hlong, hlen ▸ hlt⟩]
        rw [length_append] at hlen
        omega
      · rw [wireLength_of_le (not_lt.mp hlong), length_append]
        omega

/-- Nor do many. -/
theorem wireLength_listen_le (hpos : 0 < mMaxTxSize) (r : Recver) (datagrams : List Bytes)
    (h : ∀ buf ∈ (r.listen mMaxTxSize maxSize datagrams).2, buf.length < 2 ^ 32) :
    ((r.listen mMaxTxSize maxSize datagrams).2.map (wireLength mMaxTxSize)).sum
      ≤ r.held mMaxTxSize + datagrams.flatten.length := by
  induction datagrams generalizing r with
  | nil => exact Nat.zero_le _
  | cons datagram datagrams ih =>
    simp only [Recver.listen, mem_append] at h
    have hstep := wireLength_recvfrom_le hpos r datagram fun buf hbuf ↦ h buf (.inl hbuf)
    have hrest := ih _ fun buf hbuf ↦ h buf (.inr hbuf)
    simp only [Recver.listen, map_append, sum_append, flatten_cons,
      length_append]
    omega

variable {rest received : List Bytes}

/-- After an announcement, a message that was not announced with its length is not the next one. -/
theorem length_of_listen_head {text : Bytes}
    (hfit : locIpcHead.length ≤ mMaxTxSize) (hne : buf ≠ [])
    (h : (Recver.listening.listen mMaxTxSize maxSize ((locIpcHead ++ text) :: rest)).2
      = buf :: received) :
    scanZu (text.take (mMaxTxSize - locIpcHead.length)) = buf.length ∧
      ((Recver.collecting buf.length []).listen mMaxTxSize maxSize rest).2 = buf :: received := by
  rw [Recver.listen, recvfrom_head hfit] at h
  dsimp only at h
  split_ifs at h with hbig hzero
  · simp only [listen_left] at h
    cases h
  · simp only [listen_left] at h
    exact absurd (List.cons.inj h).1.symm hne
  · have hlen := length_of_listen_collecting h
    rw [← hlen] at h
    exact ⟨hlen.symm, h⟩

/-- A short message that does arrive is carried, if what follows has no more bytes than the messages
that arrive after it. -/
theorem carried_of_short (hpos : 0 < mMaxTxSize) (hne : buf ≠ []) (hshort : buf.length ≤ mMaxTxSize)
    (hlen : ∀ buf' ∈ buf :: received, buf'.length < 2 ^ 32)
    (hrest : rest.flatten.length ≤ (received.map (wireLength mMaxTxSize)).sum)
    (h : (Recver.listening.listen mMaxTxSize maxSize (buf :: rest)).2 = buf :: received) :
    ¬isAbort buf ∧ ¬isHead buf := by
  constructor
  · intro habort
    have hstep : Recver.listening.recvfrom mMaxTxSize maxSize buf = (.left, []) := by
      rw [Recver.recvfrom, take_of_length_le hshort, if_neg hne, if_pos habort]
    rw [Recver.listen, hstep] at h
    simp only [listen_left] at h
    cases h
  · intro hhead
    obtain ⟨text, rfl⟩ := isHead_iff.mp hhead
    have hfit : locIpcHead.length ≤ mMaxTxSize :=
      (prefix_append ..).length_le.trans hshort
    obtain ⟨-, hcollect⟩ := length_of_listen_head hfit hne h
    -- the message has to be put together from what follows, which has no bytes for it
    have hcount := wireLength_listen_le hpos _ rest fun buf' hbuf' ↦ hlen buf' (hcollect ▸ hbuf')
    rw [hcollect, map_cons, sum_cons, wireLength_of_le hshort, Recver.held,
      if_neg (fun hlong ↦ hlong.1.not_ge hshort)] at hcount
    have hbytes := length_pos_of_ne_nil hne
    simp only [length_nil] at hcount
    omega

/-- The announcement of a long message that does arrive fits into a datagram. -/
theorem carried_of_long (hpos : 0 < mMaxTxSize)
    (hlong : mMaxTxSize < buf.length) (hlen : buf.length < 2 ^ 32)
    (h : (Recver.listening.listen mMaxTxSize maxSize
      ((locIpcHead ++ toText buf.length) :: rest)).2 = buf :: received) :
    locIpcHead.length + (toText buf.length).length ≤ mMaxTxSize := by
  by_contra! hcut
  by_cases hfit : locIpcHead.length ≤ mMaxTxSize
  · -- the digits that are cut off are missing from the length
    obtain ⟨hscan, -⟩ := length_of_listen_head hfit (ne_nil_of_length_pos (by omega)) h
    set kept := (toText buf.length).take (mMaxTxSize - locIpcHead.length) with hkept
    set missing := (toText buf.length).drop (mMaxTxSize - locIpcHead.length) with hmissing
    have hvalue : value kept * 10 ^ missing.length + value missing = buf.length := by
      rw [← value_append, take_append_drop, value_toText]
    have hpow : 10 ≤ 10 ^ missing.length := by
      refine Nat.le_self_pow ?_ 10
      rw [hmissing, length_drop]
      omega
    have hmul : value kept * 10 ≤ buf.length :=
      (Nat.mul_le_mul_left _ hpow).trans (hvalue ▸ Nat.le_add_right ..)
    have hdigits : ∀ b ∈ kept, isDigit b = true := fun b hb ↦
      isDigit_of_mem_toText (mem_of_mem_take hb)
    rw [scanZu_of_digits hdigits (by omega)] at hscan
    omega
  · -- not even the mark arrives, and what does reads as a message
    have hmsg : (locIpcHead ++ toText buf.length).take mMaxTxSize = locIpcHead.take mMaxTxSize :=
      take_append_of_le_length (by omega)
    have hmsglen : (locIpcHead.take mMaxTxSize).length = mMaxTxSize := by
      rw [length_take]
      omega
    have habort := isAbort_take_head (toText buf.length) hpos
    have hhead : isHead (locIpcHead.take mMaxTxSize) = false := by
      rw [← Bool.not_eq_true, isHead_iff]
      intro hstart
      have hle := hstart.length_le
      omega
    rw [hmsg] at habort
    rw [Recver.listen, Recver.recvfrom, hmsg, habort, hhead,
      if_neg (ne_nil_of_length_pos (by omega))] at h
    have hfirst := congrArg List.length (List.cons.inj h).1
    omega

theorem flatten_flatMap_sendto (payloads : List Bytes) :
    (payloads.flatMap (sendto mMaxTxSize)).flatten.length
      = (payloads.map (wireLength mMaxTxSize)).sum := by
  induction payloads with
  | nil => rfl
  | cons buf payloads ih =>
    rw [flatMap_cons, flatten_append, length_append, ih, map_cons,
      sum_cons, wireLength]

/-- A message that arrives as the next one is carried. -/
theorem carried_of_listen {payloads : List Bytes} (hpos : 0 < mMaxTxSize)
    (hne : buf ≠ []) (hlen : ∀ buf' ∈ buf :: payloads, buf'.length < 2 ^ 32)
    (h : (Recver.listening.listen mMaxTxSize maxSize
      ((buf :: payloads).flatMap (sendto mMaxTxSize))).2 = buf :: payloads) :
    Carried mMaxTxSize buf := by
  rw [flatMap_cons, sendto] at h
  rw [Carried]
  split at h
  · next hshort =>
    rw [if_pos hshort]
    exact carried_of_short hpos hne hshort hlen (flatten_flatMap_sendto payloads).le h
  · next hlong =>
    rw [if_neg hlong]
    exact carried_of_long hpos (not_le.mp hlong) (hlen buf mem_cons_self) h

/-- With one sender, the listener receives the messages as they were sent if and only if each of
them is carried. -/
theorem received_eq_sent_iff (hpos : 0 < mMaxTxSize) (hmax : 2 ^ 32 ≤ maxSize)
    {payloads : List Bytes} (h : ∀ buf ∈ payloads, buf ≠ [] ∧ buf.length < 2 ^ 32) :
    (Recver.listening.listen mMaxTxSize maxSize (payloads.flatMap (sendto mMaxTxSize))).2 = payloads
      ↔ ∀ buf ∈ payloads, Carried mMaxTxSize buf := by
  induction payloads with
  | nil => simp [Recver.listen]
  | cons buf payloads ih =>
    have hbuf := h buf mem_cons_self
    have hrest : (Recver.listening.listen mMaxTxSize maxSize
        (payloads.flatMap (sendto mMaxTxSize))).2 = payloads
        ↔ ∀ buf ∈ payloads, Carried mMaxTxSize buf :=
      ih fun buf' hmem ↦ h buf' (mem_cons_of_mem _ hmem)
    have hfirst : Carried mMaxTxSize buf →
        (Recver.listening.listen mMaxTxSize maxSize
          ((buf :: payloads).flatMap (sendto mMaxTxSize))).2
          = buf :: (Recver.listening.listen mMaxTxSize maxSize
            (payloads.flatMap (sendto mMaxTxSize))).2 := by
      intro hcarried
      rw [flatMap_cons, listen_append, listen_sendto hpos hmax hbuf.1 hbuf.2 hcarried]
      rfl
    rw [forall_mem_cons]
    constructor
    · intro hall
      have hcarried := carried_of_listen hpos hbuf.1 (fun buf' hmem ↦ (h buf' hmem).2) hall
      rw [hfirst hcarried] at hall
      exact ⟨hcarried, hrest.mp (List.cons.inj hall).2⟩
    · rintro ⟨hcarried, hall⟩
      rw [hfirst hcarried, hrest.mpr hall]

/-- A short message and a long one, in datagrams of twenty bytes. -/
theorem received_eq_sent_short_long :
    (Recver.listening.listen 20 (2 ^ 62)
      ([[1, 2, 3], List.replicate 50 7].flatMap (sendto 20))).2 = [[1, 2, 3], List.replicate 50 7] :=
  (received_eq_sent_iff (by decide) (by decide) (by decide)).mpr (by decide)

/-- A message that begins as an announcement is lost, and the one after it arrives with a piece of
the third. -/
theorem received_ne_sent_of_head :
    ∃ payloads : List Bytes, (∀ buf ∈ payloads, buf ≠ [] ∧ buf.length < 2 ^ 32 ∧ buf ≠ msgAbort) ∧
      (Recver.listening.listen 8192 (2 ^ 62) (payloads.flatMap (sendto 8192))).2 ≠ payloads :=
  ⟨[locIpcHead ++ toText 2, [1], [2, 3]], by decide, by decide⟩

end Listen

end MataDevice.Ipc
