import MataDevice.Lib.History

/-!
# The interaction handler

`InteractionHandler` holds the CPU boost of the hint `INTERACTION` while the user interacts and
until the display is idle. Callers announce interactions with `Acquire`; a worker thread waits and
gives the boost back.

```text
UNINITIALIZED  --Init-->  IDLE  --Acquire / PerfLock-->  INTERACTION
INTERACTION  --worker-->  WAITING  --Release / PerfRel-->  IDLE
WAITING  --Acquire / abort-->  INTERACTION          any  --Exit / abort-->  UNINITIALIZED
```

All of this happens under `mLock`, but the wait itself does not, so that a step here is what one
thread does under the lock, or one system call of the worker outside it. The caller that leaves
`Exit` joins the worker and closes the descriptors without the lock. Any number of threads may be
inside the calls.
-/

namespace MataDevice.Power

/-- `interaction_state`. -/
inductive InteractionState
  | uninitialized
  | idle
  | interaction
  | waiting
  deriving DecidableEq, Repr

structure Timespec where
  tvSec : ℤ
  tvNsec : ℤ
  deriving DecidableEq, Repr

/-- Where the worker thread is in `Routine`. -/
inductive Worker
  /-- There is no thread, or it has been joined. -/
  | none
  /-- At the top of the loop, in `mCond.wait`. -/
  | top
  /-- It has set `WAITING` and unlocked, and has not called `WaitForIdle` yet. -/
  | unlocked
  /-- In the first `poll` of `WaitForIdle`. -/
  | polling (timeoutMs : Int32)
  /-- Between the two calls of `poll`. -/
  | reading (timeoutMs : Int32)
  /-- In the second `poll` of `WaitForIdle`. -/
  | idlePolling (timeoutMs : Int32)
  /-- `WaitForIdle` has returned and `Release` has not been called yet. -/
  | returned
  /-- `Routine` has returned. -/
  | done
  deriving DecidableEq, Repr

/-- The worker is inside `WaitForIdle`, or has just left it. -/
def Worker.InWait : Worker → Prop
  | .polling _ | .reading _ | .idlePolling _ | .returned => True
  | _ => False

theorem Worker.inWait_iff (w : Worker) : w.InWait ↔
    (∃ d, w = .polling d) ∨ (∃ d, w = .reading d) ∨ (∃ d, w = .idlePolling d) ∨ w = .returned := by
  cases w with
  | polling d => exact iff_of_true trivial (Or.inl ⟨d, rfl⟩)
  | reading d => exact iff_of_true trivial (Or.inr (Or.inl ⟨d, rfl⟩))
  | idlePolling d => exact iff_of_true trivial (Or.inr (Or.inr (Or.inl ⟨d, rfl⟩)))
  | returned => exact iff_of_true trivial (Or.inr (Or.inr (Or.inr rfl)))
  | none | top | unlocked | done => exact iff_of_false id (by simp)

/-- What `poll` reports. -/
inductive Poll
  | eventFd
  | idleFd
  | timedOut
  | error
  deriving DecidableEq, Repr

/-- What `pread` finds in the idle file: nothing, a text that starts with `idle`, or anything
else. -/
inductive IdleFile
  | eof
  | idle
  | other
  deriving DecidableEq, Repr

/-- The counter of an event descriptor, `none` once it is closed. -/
abbrev EventFd := Option ℕ

/-- A write of 1, which fails where the counter would overflow. -/
def EventFd.write : EventFd → EventFd
  | some n => some (if n + 1 < 2 ^ 64 - 1 then n + 1 else n)
  | Option.none => Option.none

/-- A read, which takes the whole counter. -/
def EventFd.clear : EventFd → EventFd
  | some _ => some 0
  | Option.none => Option.none

/-- `poll` reports the descriptor: its counter is not 0, or it is closed. -/
def EventFd.readable : EventFd → Bool
  | some n => n ≠ 0
  | Option.none => true

structure InteractionHandler where
  mState : InteractionState
  mEventFd : EventFd
  mDurationMs : Int32
  mLastTimespec : Timespec
  worker : Worker
  /-- The calls of `Exit` that have joined the worker and have not returned. -/
  closing : ℕ
  /-- `std::terminate` has been called. -/
  terminated : Bool
  deriving DecidableEq, Repr

inductive Event
  /-- `Init`, and whether its files could be opened. -/
  | init (opened : Bool)
  /-- `Acquire` at a time. -/
  | acquire (duration : Int32) (curTimespec : Timespec)
  /-- The part of `Exit` under the lock. -/
  | exit
  /-- `Exit` joins the worker. -/
  | join
  /-- `Exit` closes the descriptors and returns. -/
  | close
  /-- The worker leaves `mCond.wait`. -/
  | wake
  /-- The worker calls `WaitForIdle`. -/
  | waitForIdle
  /-- The first `poll` returns. -/
  | poll (ret : Poll)
  /-- `pread` returns. -/
  | pread (data : IdleFile)
  /-- The second `poll` returns. -/
  | idlePoll (ret : Poll)
  /-- The worker calls `Release`. -/
  | release
  deriving DecidableEq, Repr

/-- The steps inside `WaitForIdle`. -/
def Event.IsWait : Event → Prop
  | .poll _ | .pread _ | .idlePoll _ => True
  | _ => False

inductive Output
  | perfLock
  | perfRel
  /-- `AbortWaitLocked`. -/
  | abortWait
  /-- The log line of an `Acquire` that is not covered by the one before. -/
  | extended (finalDuration : Int32)
  /-- `WaitForIdle` has been called. -/
  | waits (timeoutMs : Int32)
  /-- `Exit` has returned. -/
  | exitReturned
  deriving DecidableEq, Repr

def mMinDurationMs : Int32 := 1400

def mMaxDurationMs : Int32 := 5650

/-- `CalcTimespecDiffMs`, in the arithmetic of `size_t`. -/
def calcTimespecDiffMs (start stop : Timespec) : UInt64 :=
  UInt64.ofInt ((stop.tvSec - start.tvSec) * 1000) +
    UInt64.ofInt ((stop.tvNsec - start.tvNsec).tdiv 1000000)

/-- The duration an `Acquire` asks for, between the two bounds. -/
def finalDuration (duration : Int32) : Int32 :=
  let inputDuration := duration + 650
  if inputDuration > mMaxDurationMs then mMaxDurationMs
  else if inputDuration > mMinDurationMs then inputDuration
  else mMinDurationMs

namespace InteractionHandler

def initial : InteractionHandler :=
  ⟨.uninitialized, none, 0, ⟨0, 0⟩, .none, 0, false⟩

variable (s : InteractionHandler)

/-- The states in which the boost is meant to be held. -/
def Interacting : Prop := s.mState = .interaction ∨ s.mState = .waiting

instance : Decidable s.Interacting := inferInstanceAs (Decidable (_ ∨ _))

/-- The previous hint's duration covers this one. -/
def Covered (duration : Int32) (curTimespec : Timespec) : Prop :=
  s.mState ≠ .idle ∧ finalDuration duration ≤ s.mDurationMs ∧
    calcTimespecDiffMs s.mLastTimespec curTimespec ≤
      UInt64.ofInt (s.mDurationMs - finalDuration duration).toInt

instance (duration : Int32) (curTimespec : Timespec) : Decidable (s.Covered duration curTimespec) :=
  inferInstanceAs (Decidable (_ ∧ _ ∧ _))

/-- `Init`. Putting the new thread into `mThread` terminates the process while the old one is not
joined. -/
def init (opened : Bool) : InteractionHandler × List Output :=
  if s.mState ≠ .uninitialized then (s, [])
  else if opened then
    if s.worker = .none then
      ({ s with mState := .idle, mEventFd := some 0, worker := .top }, [])
    else ({ s with mState := .idle, mEventFd := some 0, terminated := true }, [])
  else (s, [])

def acquire (duration : Int32) (curTimespec : Timespec) : InteractionHandler × List Output :=
  if s.mState = .uninitialized then (s, [])
  else if s.Covered duration curTimespec then (s, [])
  else
    let s' := { s with
      mLastTimespec := curTimespec, mDurationMs := finalDuration duration, mState := .interaction }
    match s.mState with
    | .waiting =>
      ({ s' with mEventFd := s.mEventFd.write },
        [.extended (finalDuration duration), .abortWait])
    | .idle => (s', [.extended (finalDuration duration), .perfLock])
    | _ => (s', [.extended (finalDuration duration)])

/-- `Exit` up to its `unlock`. -/
def exit : InteractionHandler × List Output :=
  if s.mState = .uninitialized then (s, [.exitReturned])
  else ({ s with mEventFd := s.mEventFd.write, mState := .uninitialized }, [.abortWait])

/-- The worker passes `mCond.wait`, whose condition holds. -/
def wake : InteractionHandler :=
  if s.mState = .uninitialized then { s with worker := .done }
  else { s with mState := .waiting, worker := .unlocked }

def release : InteractionHandler × List Output :=
  if s.mState = .waiting then ({ s with mState := .idle, worker := .top }, [.perfRel])
  else ({ s with mEventFd := s.mEventFd.clear, worker := .top }, [])

/-- A step of a caller or of the worker. It is refused where the thread is not at that point, where
it would block, or where `poll` cannot report that. -/
def step : Event → Option (InteractionHandler × List Output)
  | .init opened => if s.terminated then none else some (s.init opened)
  | .acquire duration curTimespec =>
    if s.terminated then none else some (s.acquire duration curTimespec)
  | .exit => if s.terminated then none else some s.exit
  | .join =>
    if ¬s.terminated ∧ s.worker = .done then
      some ({ s with worker := .none, closing := s.closing + 1 }, [])
    else none
  | .close =>
    if ¬s.terminated ∧ 0 < s.closing then
      some ({ s with mEventFd := none, closing := s.closing - 1 }, [.exitReturned])
    else none
  | .wake =>
    if ¬s.terminated ∧ s.worker = .top ∧ s.mState ≠ .idle then some (s.wake, []) else none
  | .waitForIdle =>
    -- the argument `mDurationMs` is read without the lock
    if ¬s.terminated ∧ s.worker = .unlocked then
      some ({ s with worker := .polling s.mDurationMs }, [.waits s.mDurationMs])
    else none
  | .poll ret =>
    match s.worker with
    | .polling timeoutMs =>
      if s.terminated then none
      else
        match ret with
        | .eventFd =>
          if s.mEventFd.readable then some ({ s with worker := .returned }, []) else none
        | .timedOut =>
          if s.mEventFd.readable then none else some ({ s with worker := .reading timeoutMs }, [])
        | .error => some ({ s with worker := .returned }, [])
        | .idleFd => none
    | _ => none
  | .pread data =>
    match s.worker with
    | .reading timeoutMs =>
      if s.terminated then none
      else if data = .other then some ({ s with worker := .idlePolling timeoutMs }, [])
      else some ({ s with worker := .returned }, [])
    | _ => none
  | .idlePoll ret =>
    match s.worker with
    | .idlePolling _ =>
      if s.terminated then none
      else if ret = .eventFd ∧ ¬s.mEventFd.readable then none
      else if (ret = .idleFd ∨ ret = .timedOut) ∧ s.mEventFd.readable then none
      else some ({ s with worker := .returned }, [])
    | _ => none
  | .release =>
    if ¬s.terminated ∧ s.worker = .returned then some s.release else none

/-! ## What a step can do -/

variable {s} {s' : InteractionHandler} {outs : List Output} {duration : Int32}
  {curTimespec : Timespec}

theorem acquire_of_covered (h : s.mState = .uninitialized ∨ s.Covered duration curTimespec) :
    s.acquire duration curTimespec = (s, []) := by
  rw [acquire]
  rcases h with hu | hcov
  · rw [if_pos hu]
  · rw [if_pos hcov, ite_self]

/-- An `Acquire` with an effect: the duration is recorded, and in the state `IDLE` the boost is
switched on, in the state `WAITING` the wait aborted. -/
theorem acquire_of_not_covered
    (hu : s.mState ≠ .uninitialized) (hcov : ¬s.Covered duration curTimespec) :
    s.acquire duration curTimespec =
      ({ s with
          mState := .interaction
          mEventFd := if s.mState = .waiting then s.mEventFd.write else s.mEventFd
          mDurationMs := finalDuration duration
          mLastTimespec := curTimespec },
        .extended (finalDuration duration) ::
          if s.mState = .waiting then [.abortWait]
          else if s.mState = .idle then [.perfLock] else []) := by
  rw [acquire, if_neg hu, if_neg hcov]
  cases hstate : s.mState with
  | uninitialized => exact absurd hstate hu
  | idle | interaction | waiting => simp

theorem init_of_step {opened : Bool} (h : s.step (.init opened) = some (s', outs)) :
    s.terminated = false ∧ s.init opened = (s', outs) := by
  simpa [step] using h

theorem acquire_of_step (h : s.step (.acquire duration curTimespec) = some (s', outs)) :
    s.terminated = false ∧ s.acquire duration curTimespec = (s', outs) := by
  simpa [step] using h

theorem exit_of_step (h : s.step .exit = some (s', outs)) :
    s.terminated = false ∧ s.exit = (s', outs) := by
  simpa [step] using h

theorem join_of_step (h : s.step .join = some (s', outs)) :
    s.terminated = false ∧ s.worker = .done ∧
      s' = { s with worker := .none, closing := s.closing + 1 } ∧ outs = [] := by
  obtain ⟨⟨ht, hw⟩, rfl, rfl⟩ := ite_pair_inj h
  exact ⟨Bool.eq_false_iff.mpr ht, hw, rfl, rfl⟩

theorem close_of_step (h : s.step .close = some (s', outs)) :
    s.terminated = false ∧ 0 < s.closing ∧
      s' = { s with mEventFd := none, closing := s.closing - 1 } ∧ outs = [.exitReturned] := by
  obtain ⟨⟨ht, hw⟩, rfl, rfl⟩ := ite_pair_inj h
  exact ⟨Bool.eq_false_iff.mpr ht, hw, rfl, rfl⟩

theorem wake_of_step (h : s.step .wake = some (s', outs)) :
    s.terminated = false ∧ s.worker = .top ∧ s.mState ≠ .idle ∧ s' = s.wake ∧ outs = [] := by
  obtain ⟨⟨ht, hw, hidle⟩, rfl, rfl⟩ := ite_pair_inj h
  exact ⟨Bool.eq_false_iff.mpr ht, hw, hidle, rfl, rfl⟩

theorem waitForIdle_of_step (h : s.step .waitForIdle = some (s', outs)) :
    s.terminated = false ∧ s.worker = .unlocked ∧
      s' = { s with worker := .polling s.mDurationMs } ∧ outs = [.waits s.mDurationMs] := by
  obtain ⟨⟨ht, hw⟩, rfl, rfl⟩ := ite_pair_inj h
  exact ⟨Bool.eq_false_iff.mpr ht, hw, rfl, rfl⟩

/-- The wait only moves the worker on. -/
theorem wait_of_step {e : Event} (he : e.IsWait) (h : s.step e = some (s', outs)) :
    s.terminated = false ∧ s.worker.InWait ∧ outs = [] ∧
      ∃ w : Worker, w.InWait ∧ s' = { s with worker := w } := by
  cases e with
  | poll ret =>
    rw [step] at h
    split at h
    · next timeoutMs hw =>
      rw [Option.ite_none_left_eq_some] at h
      obtain ⟨ht, h⟩ := h
      refine ⟨Bool.eq_false_iff.mpr ht, by simp [hw, Worker.inWait_iff], ?_⟩
      cases ret with
      | eventFd =>
        obtain ⟨-, rfl, rfl⟩ := ite_pair_inj h
        exact ⟨rfl, .returned, trivial, rfl⟩
      | idleFd => cases h
      | timedOut =>
        obtain ⟨-, heq⟩ := Option.ite_none_left_eq_some.mp h
        obtain ⟨rfl, rfl⟩ := some_pair_inj heq
        exact ⟨rfl, .reading timeoutMs, trivial, rfl⟩
      | error =>
        obtain ⟨rfl, rfl⟩ := some_pair_inj h
        exact ⟨rfl, .returned, trivial, rfl⟩
    · cases h
  | pread data =>
    rw [step] at h
    split at h
    · next timeoutMs hw =>
      rw [Option.ite_none_left_eq_some] at h
      obtain ⟨ht, h⟩ := h
      refine ⟨Bool.eq_false_iff.mpr ht, by simp [hw, Worker.inWait_iff], ?_⟩
      split at h
      · obtain ⟨rfl, rfl⟩ := some_pair_inj h
        exact ⟨rfl, .idlePolling timeoutMs, trivial, rfl⟩
      · obtain ⟨rfl, rfl⟩ := some_pair_inj h
        exact ⟨rfl, .returned, trivial, rfl⟩
    · cases h
  | idlePoll ret =>
    rw [step] at h
    split at h
    · next timeoutMs hw =>
      simp only [Option.ite_none_left_eq_some] at h
      obtain ⟨ht, -, -, h⟩ := h
      obtain ⟨rfl, rfl⟩ := some_pair_inj h
      exact ⟨Bool.eq_false_iff.mpr ht, by simp [hw, Worker.inWait_iff], rfl, .returned, trivial, rfl⟩
    · cases h
  | _ => exact he.elim

theorem release_of_step (h : s.step .release = some (s', outs)) :
    s.terminated = false ∧ s.worker = .returned ∧ s.release = (s', outs) := by
  simpa [step, and_assoc] using h

end InteractionHandler

end MataDevice.Power
