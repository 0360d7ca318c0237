import MataDevice.Ipc.RoundTrip
import MataDevice.Lib.History

/-!
# How the listener ends

The loop of the listener should go on until the abort message arrives or the socket fails, whatever
else is sent to it. It ends with the first call of `recvfrom` that returns nothing positive or
throws, and some datagrams do that. A receiver that waits for a new message is ended by what reads
as the abort message up to its end, be it without the zero or with more after it, and by an
announcement of no bytes at all or of more than a string can have. A receiver that waits for a part
is ended by nothing.
-/

namespace MataDevice.Ipc

open Recver

/-- What comes out of the socket. -/
inductive Arrival
  | datagram (bytes : Bytes)
  | error
  deriving DecidableEq

variable {mMaxTxSize maxSize : ℕ} {r : Recver} {hist : List (Item Arrival Bytes)}

/-- One return of the kernel to the listener. -/
def Recver.arrive (mMaxTxSize maxSize : ℕ) : Recver → Arrival → Option (Recver × List Bytes)
  | .left, _ => none
  | _, .error => some (.left, [])
  | r, .datagram bytes =>
    if bytes = [] then none else some (r.recvfrom mMaxTxSize maxSize bytes)

/-- A datagram that does not end a receiver which waits for a new message. -/
def Harmless (mMaxTxSize maxSize : ℕ) (bytes : Bytes) : Prop :=
  ¬isAbort (bytes.take mMaxTxSize) ∧
    (isHead (bytes.take mMaxTxSize) →
      0 < scanZu ((bytes.take mMaxTxSize).drop locIpcHead.length) ∧
        scanZu ((bytes.take mMaxTxSize).drop locIpcHead.length) ≤ maxSize)

instance : DecidablePred (Harmless mMaxTxSize maxSize) := fun _ ↦ inferInstanceAs (Decidable (_ ∧ _))

/-- While the receiver waits for a new message, it gets the abort message or one that is
harmless. -/
def NoMischief (mMaxTxSize maxSize : ℕ) : Recver → Arrival → Prop
  | .listening, .datagram bytes => bytes = msgAbort ∨ Harmless mMaxTxSize maxSize bytes
  | _, _ => True

instance : DecidablePred (NoMischief mMaxTxSize maxSize r) := fun a ↦
  match r, a with
  | .listening, .datagram _ => inferInstanceAs (Decidable (_ ∨ _))
  | .listening, .error | .collecting .., _ | .left, _ => .isTrue trivial

/-- A part is still missing. -/
def Recver.Waits : Recver → Prop
  | .collecting msgLen msg => msg.length < msgLen
  | _ => True

theorem waits_recvfrom (bytes : Bytes) : (r.recvfrom mMaxTxSize maxSize bytes).1.Waits := by
  cases r with
  | left => trivial
  | listening =>
    rcases recvfrom_listening_cases mMaxTxSize maxSize bytes with
      hstep | hstep | hstep | ⟨text, -, hpos, hstep⟩
    · rw [hstep]
      trivial
    · rw [hstep]
      trivial
    · rw [hstep]
      trivial
    · rw [hstep]
      exact hpos
  | collecting msgLen msg =>
    rw [recvfrom]
    split_ifs with hnil hmore
    · trivial
    · exact hmore
    · trivial

/-- Exactly the datagrams that are not harmless end a receiver, and only while it waits for a new
message. -/
theorem recvfrom_eq_left_iff (hpos : 0 < mMaxTxSize) (hwaits : r.Waits) (hr : r ≠ .left)
    {bytes : Bytes} (hne : bytes ≠ []) :
    (r.recvfrom mMaxTxSize maxSize bytes).1 = .left ↔
      r = .listening ∧ ¬Harmless mMaxTxSize maxSize bytes := by
  cases r with
  | left => exact absurd rfl hr
  | listening =>
    have hmsg : bytes.take mMaxTxSize ≠ [] := by simp [hne, hpos.ne']
    rw [recvfrom, Harmless]
    dsimp only
    rw [if_neg hmsg]
    split_ifs with habort hhead hmax hzero
    · simp [habort]
    · rw [Bool.not_eq_true'] at hhead
      simp [habort, hhead]
    · rw [Bool.not_eq_true', Bool.not_eq_false] at hhead
      simp [hhead, hmax]
    · rw [Bool.not_eq_true', Bool.not_eq_false] at hhead
      simp [hhead, hzero]
    · rw [not_lt] at hmax
      simp [habort, hmax, Nat.pos_of_ne_zero hzero]
  | collecting msgLen msg =>
    have hroom : msg.length < msgLen := hwaits
    have hpart : bytes.take (msgLen - msg.length) ≠ [] := by
      simp [hne, (Nat.sub_pos_of_lt hroom).ne']
    rw [recvfrom, if_neg hpart]
    split <;> simp

/-- What ends the loop as it should. -/
def Ends (hist : List (Item Arrival Bytes)) : Prop :=
  .event .error ∈ hist ∨ .event (.datagram msgAbort) ∈ hist

/-- The receiver has left only if it should have. -/
structure Steady (hist : List (Item Arrival Bytes)) (r : Recver) : Prop where
  waits : r.Waits
  ends : r = .left → Ends hist

theorem Steady.arrive (h : Steady hist r) (hpos : 0 < mMaxTxSize) {a : Arrival} {r' : Recver}
    {received : List Bytes} (hg : NoMischief mMaxTxSize maxSize r a)
    (hs : r.arrive mMaxTxSize maxSize a = some (r', received)) :
    Steady (hist ++ entry a received) r' := by
  rw [Recver.arrive.eq_def] at hs
  split at hs
  · cases hs
  · obtain ⟨rfl, rfl⟩ := some_pair_inj hs
    exact ⟨trivial, fun _ ↦ .inl (by simp [entry])⟩
  · next bytes hr =>
    split at hs
    · cases hs
    · next hne =>
      have hs := Option.some_inj.mp hs
      obtain rfl : (r.recvfrom mMaxTxSize maxSize bytes).1 = r' := congrArg Prod.fst hs
      refine ⟨waits_recvfrom bytes, fun hleft ↦ ?_⟩
      obtain ⟨rfl, hharm⟩ := (recvfrom_eq_left_iff hpos h.waits hr hne).mp hleft
      rcases hg with rfl | hharmless
      · exact .inr (by simp [entry])
      · exact absurd hharmless hharm

/-- **The listener goes on.** In every run in which a receiver that waits for a new message gets
only harmless datagrams and the abort message, it leaves its loop only once the abort message has
arrived or the socket has failed. The condition cannot be done without: in every state that is
reached, a datagram ends the loop if and only if the receiver waits for a new message and the
datagram is not harmless. -/
theorem listening_of_run (hpos : 0 < mMaxTxSize)
    (h : Run (Recver.arrive mMaxTxSize maxSize) (NoMischief mMaxTxSize maxSize) .listening hist r) :
    (r = .left → .event .error ∈ hist ∨ .event (.datagram msgAbort) ∈ hist) ∧
      (r ≠ .left → ∀ bytes ≠ [], (r.recvfrom mMaxTxSize maxSize bytes).1 = .left ↔
        r = .listening ∧ ¬Harmless mMaxTxSize maxSize bytes) := by
  have hinv : Steady hist r := by
    refine h.invariant ⟨trivial, fun hleft ↦ ?_⟩ fun hinv hg hs ↦ hinv.arrive hpos hg hs
    cases hleft
  exact ⟨hinv.ends, fun hr bytes hne ↦ recvfrom_eq_left_iff hpos hinv.waits hr hne⟩

/-- An announcement with its part, a short message and the abort message. -/
theorem listening_of_run_abort :
    ∃ hist, Run (Recver.arrive 8192 (2 ^ 62)) (NoMischief 8192 (2 ^ 62)) .listening hist .left ∧
      outsOf hist = [[1, 2, 3], [4]] ∧
      (.event .error ∈ hist ∨ .event (.datagram msgAbort) ∈ hist) := by
  obtain ⟨hist, r, hrun, rfl, houts⟩ := Run.exists_of_runEvents (Recver.arrive 8192 (2 ^ 62))
    (NoMischief 8192 (2 ^ 62)) .listening
    [.datagram (locIpcHead ++ [51]), .datagram [1, 2, 3], .datagram [4], .datagram msgAbort]
    (fun hist r ↦ r = .left ∧ outsOf hist = [[1, 2, 3], [4]]) (by decide +kernel)
  exact ⟨hist, hrun, houts, (listening_of_run (by decide) hrun).1 rfl⟩

/-- The announcement of a message without bytes ends the loop. -/
theorem left_of_announced_zero :
    ∃ hist, Run (Recver.arrive 8192 (2 ^ 62)) (fun _ _ ↦ True) .listening hist .left ∧
      ¬(.event .error ∈ hist ∨ .event (.datagram msgAbort) ∈ hist) := by
  obtain ⟨hist, r, hrun, rfl, hhist⟩ := Run.exists_of_runEvents (Recver.arrive 8192 (2 ^ 62))
    (fun _ _ ↦ True) .listening [.datagram (locIpcHead ++ [48])]
    (fun hist r ↦ r = .left ∧
      ¬(.event .error ∈ hist ∨ .event (.datagram msgAbort) ∈ hist)) (by decide +kernel)
  exact ⟨hist, hrun, hhist⟩

end MataDevice.Ipc
