import Mathlib.Logic.Function.Basic
import MataDevice.Ipc.RoundTrip
import MataDevice.Lib.History

/-!
# Several senders

Any number of senders share the socket of one receiver. The socket keeps the datagrams in the order
in which they come, and a sender that is in the middle of a long message can be overtaken by any
other one. The datagrams do not say whose they are, and the receiver takes the next ones for the
parts it waits for.

As long as no call of `send` begins while another one is in the middle of a long message, what is
received is what was sent: at any time, the datagrams in the queue and those still to be sent would
bring the receiver back to listening, with the messages delivered that are missing.
-/

namespace MataDevice.Ipc

open Decimal

variable {ι : Type}

/-- The senders, the socket and the receiver. -/
structure Channel (ι : Type) where
  /-- what is left to be sent in the call of `send` that a sender is in -/
  pending : ι → List Bytes
  queue : List Bytes
  recver : Recver

namespace Channel

def initial : Channel ι := ⟨fun _ ↦ [], [], .listening⟩

inductive Event (ι : Type)
  /-- a sender calls `send`, and the first datagram goes out -/
  | send (i : ι) (buf : Bytes)
  /-- the next datagram of a call goes out -/
  | next (i : ι)
  /-- the receiver takes the next datagram -/
  | recv

/-- One step, with the messages it hands to `onReceive`. A sender makes one call at a time; `send`
refuses an empty message, and its length has 32 bits. -/
def step [DecidableEq ι] (mMaxTxSize maxSize : ℕ) (s : Channel ι) :
    Event ι → Option (Channel ι × List Bytes)
  | .send i buf =>
    if s.pending i = [] ∧ buf ≠ [] ∧ buf.length < 2 ^ 32 then
      some ({ s with
        pending := Function.update s.pending i (sendto mMaxTxSize buf).tail
        queue := s.queue ++ (sendto mMaxTxSize buf).take 1 }, [])
    else none
  | .next i =>
    match s.pending i with
    | [] => none
    | datagram :: rest => some ({ s with
        pending := Function.update s.pending i rest
        queue := s.queue ++ [datagram] }, [])
  | .recv =>
    match s.recver, s.queue with
    | .left, _ => none
    | _, [] => none
    | recver, datagram :: queue =>
      let (recver', received) := recver.recvfrom mMaxTxSize maxSize datagram
      some ({ s with queue := queue, recver := recver' }, received)

/-- The messages that were sent, in the order of their first datagrams. -/
def sentOf (hist : List (Item (Event ι) Bytes)) : List Bytes :=
  (eventsOf hist).filterMap fun
    | .send _ buf => some buf
    | .next _ | .recv => none

/-- No message begins as a reserved text. -/
def Plain : Event ι → Prop
  | .send _ buf => ¬abortText <+: buf ∧ ¬locIpcHead <+: buf
  | .next _ | .recv => True

/-- A call of `send` begins while no other one is in the middle of a message, and if its message is
long, the announcement fits into a datagram. -/
def OneAtATime (mMaxTxSize : ℕ) (s : Channel ι) : Event ι → Prop
  | .send _ buf => (∀ j, s.pending j = []) ∧
    (mMaxTxSize < buf.length → locIpcHead.length + (toText buf.length).length ≤ mMaxTxSize)
  | .next _ | .recv => True

instance : DecidablePred (Plain (ι := ι))
  | .send .. => inferInstanceAs (Decidable (_ ∧ _))
  | .next _ | .recv => .isTrue trivial

instance [Fintype ι] (mMaxTxSize : ℕ) (s : Channel ι) : DecidablePred (OneAtATime mMaxTxSize s)
  | .send .. => inferInstanceAs (Decidable (_ ∧ _))
  | .next _ | .recv => .isTrue trivial

theorem carried_of_plain {mMaxTxSize : ℕ} {s : Channel ι} {i : ι} {buf : Bytes}
    (hplain : Plain (.send i buf)) (hone : OneAtATime mMaxTxSize s (.send i buf)) :
    Carried mMaxTxSize buf := by
  rw [Carried]
  split
  · exact ⟨fun h ↦ hplain.1 (isAbort_iff.mp h).1, fun h ↦ hplain.2 (isHead_iff.mp h)⟩
  · next hlong => exact hone.2 (not_le.mp hlong)

/-- The datagrams still to be sent are `rest`, all of one call. -/
def Remains (pending : ι → List Bytes) (rest : List Bytes) : Prop :=
  (∀ i, pending i = []) ∧ rest = [] ∨ ∃ i, pending i = rest ∧ ∀ j, j ≠ i → pending j = []

variable {pending : ι → List Bytes}

theorem Remains.eq_nil {rest : List Bytes} (h : Remains pending rest)
    (hall : ∀ i, pending i = []) : rest = [] := by
  rcases h with ⟨-, hrest⟩ | ⟨i, hi, -⟩
  · exact hrest
  · rw [← hi, hall i]

theorem Remains.eq_of_ne_nil {rest : List Bytes}
    (h : Remains pending rest) {i : ι} (hi : pending i ≠ []) :
    pending i = rest ∧ ∀ j, j ≠ i → pending j = [] := by
  rcases h with ⟨hall, -⟩ | ⟨k, hk, hothers⟩
  · exact absurd (hall i) hi
  · obtain rfl : i = k := by_contra fun hne ↦ hi (hothers i hne)
    exact ⟨hk, hothers⟩

theorem Remains.update [DecidableEq ι] {i : ι}
    (h : ∀ j, j ≠ i → pending j = []) (rest : List Bytes) :
    Remains (Function.update pending i rest) rest := by
  refine .inr ⟨i, Function.update_self .., fun j hj ↦ ?_⟩
  rw [Function.update_of_ne hj, h j hj]

variable {mMaxTxSize maxSize : ℕ} {s : Channel ι} {hist : List (Item (Event ι) Bytes)}

/-- With the datagrams that have not been received yet, everything that was sent is received. -/
def Completes (mMaxTxSize maxSize : ℕ) (hist : List (Item (Event ι) Bytes)) (s : Channel ι) : Prop :=
  ∃ rest received, Remains s.pending rest ∧
    s.recver.listen mMaxTxSize maxSize (s.queue ++ rest) = (.listening, received) ∧
    sentOf hist = outsOf hist ++ received

theorem Completes.initial : Completes mMaxTxSize maxSize [] (initial : Channel ι) :=
  ⟨[], [], .inl ⟨fun _ ↦ rfl, rfl⟩, rfl, rfl⟩

theorem sentOf_append_entry (e : Event ι) (received : List Bytes) :
    sentOf (hist ++ entry e received) = sentOf hist ++ sentOf [Item.event e] := by
  rw [sentOf, eventsOf_append_entry, List.filterMap_append]
  rfl

section

variable (h : Completes mMaxTxSize maxSize hist s)
include h

theorem Completes.send [DecidableEq ι]
    (hpos : 0 < mMaxTxSize) (hmax : 2 ^ 32 ≤ maxSize) {i : ι} {buf : Bytes} (hne : buf ≠ [])
    (hlen : buf.length < 2 ^ 32) (hidle : ∀ j, s.pending j = [])
    (hcarried : Carried mMaxTxSize buf) :
    Completes mMaxTxSize maxSize (hist ++ entry (.send i buf) [])
      { s with
        pending := Function.update s.pending i (sendto mMaxTxSize buf).tail
        queue := s.queue ++ (sendto mMaxTxSize buf).take 1 } := by
  obtain ⟨rest, received, hremains, hlisten, hsent⟩ := h
  obtain rfl := hremains.eq_nil hidle
  rw [List.append_nil] at hlisten
  refine ⟨(sendto mMaxTxSize buf).tail, received ++ [buf], .update (fun j _ ↦ hidle j) _, ?_, ?_⟩
  · dsimp only
    rw [List.append_assoc, ← List.drop_one, List.take_append_drop, listen_append, hlisten,
      listen_sendto hpos hmax hne hlen hcarried]
  · rw [sentOf_append_entry, hsent, outsOf_append_entry, List.append_nil, List.append_assoc]
    rfl

theorem Completes.next [DecidableEq ι] {i : ι}
    {datagram : Bytes} {rest : List Bytes} (hi : s.pending i = datagram :: rest) :
    Completes mMaxTxSize maxSize (hist ++ entry (.next i) [])
      { s with
        pending := Function.update s.pending i rest
        queue := s.queue ++ [datagram] } := by
  obtain ⟨rest', received, hremains, hlisten, hsent⟩ := h
  have hbusy : s.pending i ≠ [] := by simp [hi]
  obtain ⟨rfl, hothers⟩ := hremains.eq_of_ne_nil hbusy
  refine ⟨rest, received, .update hothers _, ?_, ?_⟩
  · dsimp only
    rw [← hlisten, hi, List.append_assoc, List.singleton_append]
  · rw [sentOf_append_entry, hsent, outsOf_append_entry, List.append_nil]
    exact List.append_nil _

theorem Completes.recv {datagram : Bytes}
    {queue : List Bytes} (hqueue : s.queue = datagram :: queue) :
    Completes mMaxTxSize maxSize
      (hist ++ entry .recv (s.recver.recvfrom mMaxTxSize maxSize datagram).2)
      { s with
        queue := queue
        recver := (s.recver.recvfrom mMaxTxSize maxSize datagram).1 } := by
  obtain ⟨rest, received, hremains, hlisten, hsent⟩ := h
  rw [hqueue, List.cons_append, listen_cons] at hlisten
  obtain ⟨hlistening, hreceived⟩ := Prod.mk.inj hlisten
  refine ⟨rest, _, hremains, Prod.ext hlistening rfl, ?_⟩
  rw [sentOf_append_entry, hsent, outsOf_append_entry, ← hreceived, ← List.append_assoc]
  exact List.append_nil _

theorem Completes.recver_ne_left :
    s.recver ≠ .left := by
  intro hleft
  obtain ⟨rest, received, -, hlisten, -⟩ := h
  rw [hleft, listen_left] at hlisten
  cases hlisten

theorem Completes.step [DecidableEq ι]
    (hpos : 0 < mMaxTxSize) (hmax : 2 ^ 32 ≤ maxSize) {e : Event ι} {s' : Channel ι}
    {received : List Bytes} (hg : Plain e ∧ OneAtATime mMaxTxSize s e)
    (hs : s.step mMaxTxSize maxSize e = some (s', received)) :
    Completes mMaxTxSize maxSize (hist ++ entry e received) s' := by
  cases e with
  | send i buf =>
    rw [Channel.step] at hs
    split at hs
    · next hcall =>
      obtain ⟨rfl, rfl⟩ := some_pair_inj hs
      exact h.send hpos hmax hcall.2.1 hcall.2.2 hg.2.1 (carried_of_plain hg.1 hg.2)
    · cases hs
  | next i =>
    rw [Channel.step] at hs
    split at hs
    · cases hs
    · next hi =>
      obtain ⟨rfl, rfl⟩ := some_pair_inj hs
      exact h.next hi
  | recv =>
    rw [Channel.step] at hs
    split at hs
    · cases hs
    · cases hs
    · next hqueue _ =>
      obtain ⟨rfl, rfl⟩ := some_pair_inj hs
      exact h.recv hqueue

end

/-- **Several senders.** In every run in which no message begins as a reserved text, and in which no
call of `send` begins while another one is in the middle of a message, the messages that have been
received are the first ones that were sent, the receiver goes on, and once everything has arrived,
each message has been received as often as it was sent. -/
theorem received_eq_sent_of_run [DecidableEq ι] (hpos : 0 < mMaxTxSize) (hmax : 2 ^ 32 ≤ maxSize)
    (h : Run (step mMaxTxSize maxSize) (fun s e ↦ Plain e ∧ OneAtATime mMaxTxSize s e) initial hist
      s) :
    outsOf hist <+: sentOf hist ∧ s.recver ≠ .left ∧
      ((∀ i, s.pending i = []) → s.queue = [] →
        (outsOf hist : Multiset Bytes) = (sentOf hist : Multiset Bytes)) := by
  have hinv : Completes mMaxTxSize maxSize hist s :=
    h.invariant .initial fun hinv hg hs ↦ hinv.step hpos hmax hg hs
  have hleft := hinv.recver_ne_left
  obtain ⟨rest, received, hremains, hlisten, hsent⟩ := hinv
  refine ⟨⟨received, hsent.symm⟩, hleft, fun hidle hqueue ↦ ?_⟩
  rw [hqueue, hremains.eq_nil hidle] at hlisten
  obtain ⟨-, rfl⟩ := Prod.mk.inj hlisten
  rw [hsent, List.append_nil]

/-- Two senders, one with a long message in two parts, the other one with a short message before
and after it, in datagrams of twenty bytes. -/
theorem received_eq_sent_of_run_two :
    ∃ (hist : List (Item (Event Bool) Bytes)) (s : Channel Bool),
      Run (step 20 (2 ^ 62)) (fun s e ↦ Plain e ∧ OneAtATime 20 s e) initial hist s ∧
      sentOf hist = [[1], List.replicate 21 2, [3]] ∧
      (outsOf hist : Multiset Bytes)
        = (([[1], List.replicate 21 2, [3]] : List Bytes) : Multiset Bytes) := by
  obtain ⟨hist, s, hrun, hidle, hqueue, hsent⟩ := Run.exists_of_runEvents (step 20 (2 ^ 62))
    (fun s e ↦ Plain e ∧ OneAtATime 20 s e) (initial : Channel Bool)
    [.send true [1], .recv, .send false (List.replicate 21 2), .next false, .recv, .recv,
      .next false, .send true [3], .recv, .recv]
    (fun hist s ↦ (∀ i, s.pending i = []) ∧ s.queue = [] ∧
      sentOf hist = [[1], List.replicate 21 2, [3]]) (by decide +kernel)
  refine ⟨hist, s, hrun, hsent, ?_⟩
  rw [← hsent]
  exact (received_eq_sent_of_run (by decide) (by decide) hrun).2.2 hidle hqueue

/-- A short message comes in between the announcement of a long one and its parts. -/
theorem received_ne_sent_of_overtaken :
    ∃ (hist : List (Item (Event Bool) Bytes)) (s : Channel Bool),
      Run (step 8192 (2 ^ 62)) (fun _ e ↦ Plain e) initial hist s ∧
      (∀ i, s.pending i = []) ∧ s.queue = [] ∧
      (outsOf hist : Multiset Bytes) ≠ (sentOf hist : Multiset Bytes) := by
  obtain ⟨hist, s, hrun, hidle, hqueue, hsent, hlost⟩ :=
    Run.exists_of_runEvents (step 8192 (2 ^ 62))
    (fun _ e ↦ Plain e) (initial : Channel Bool)
    [.send false (List.replicate 8193 2), .send true [1], .next false, .next false, .recv, .recv,
      .recv, .recv]
    (fun hist s ↦ (∀ i, s.pending i = []) ∧ s.queue = [] ∧
      [1] ∈ sentOf hist ∧ [1] ∉ outsOf hist) (by decide +kernel)
  refine ⟨hist, s, hrun, hidle, hqueue, fun heq ↦ hlost ?_⟩
  rw [← Multiset.mem_coe, heq]
  exact hsent

end Channel

end MataDevice.Ipc
