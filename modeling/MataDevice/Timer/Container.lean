import MataDevice.Lib.History
import MataDevice.Timer.Heap

/-!
# The timer service

A client starts and stops its `LocTimer`s. Each start makes a `LocTimerDelegate` with the time at
which it expires, and sends it to the container, a heap with the delegate that expires first at its
top. The container keeps one timer of the kernel armed for that delegate. Three threads take part:

* clients, whose calls of `start` and `stop` hold the lock of the timer and are one step each;
* the poll thread, which sleeps until the timer of the kernel has expired, disarms it, takes it out
  of the epoll set and sends a message to the message task, each of which is a step of its own;
* the message task, which works off its messages in their order; the calls of the kernel and of
  clients that a message makes are steps of their own too.

Only the message task touches the heap. A delegate has an address, which is never used again here,
and the fields that change during its life are kept in the system, by the address.
-/

namespace MataDevice.Timer

/-! ## Time -/

/-- `struct timespec`. -/
structure Timespec where
  tvSec : ℤ
  tvNsec : ℤ
  deriving DecidableEq, Repr

namespace Timespec

def Normalized (t : Timespec) : Prop := 0 ≤ t.tvNsec ∧ t.tvNsec < 1000000000

instance (t : Timespec) : Decidable t.Normalized := inferInstanceAs (Decidable (_ ∧ _))

instance : LE Timespec := ⟨fun t u ↦ t.tvSec < u.tvSec ∨ t.tvSec = u.tvSec ∧ t.tvNsec ≤ u.tvNsec⟩

theorem le_def {t u : Timespec} :
    t ≤ u ↔ t.tvSec < u.tvSec ∨ t.tvSec = u.tvSec ∧ t.tvNsec ≤ u.tvNsec :=
  Iff.rfl

instance (t u : Timespec) : Decidable (t ≤ u) := inferInstanceAs (Decidable (_ ∨ _ ∧ _))

protected theorem le_refl (t : Timespec) : t ≤ t := Or.inr ⟨rfl, le_rfl⟩

protected theorem le_trans {t u v : Timespec} (h : t ≤ u) (h' : u ≤ v) : t ≤ v := by
  rw [le_def] at *
  omega

theorem tvSec_le {t u : Timespec} (h : t ≤ u) : t.tvSec ≤ u.tvSec := by
  rw [le_def] at h
  omega

/-- The time that a timer is to expire at, as `LocTimer::start` computes it. -/
def after (now : Timespec) (timeOutInMs : UInt32) : Timespec :=
  let tvSec := now.tvSec + (timeOutInMs / 1000).toNat
  let tvNsec := now.tvNsec + (timeOutInMs % 1000).toNat * 1000000
  if tvNsec ≥ 1000000000 then ⟨tvSec + tvNsec / 1000000000, tvNsec % 1000000000⟩
  else ⟨tvSec, tvNsec⟩

theorem normalized_after {now : Timespec} (h : now.Normalized) (timeOutInMs : UInt32) :
    (now.after timeOutInMs).Normalized := by
  have hmod : (timeOutInMs % 1000).toNat = timeOutInMs.toNat % 1000 := UInt32.toNat_mod ..
  obtain ⟨h0, h1⟩ := h
  rw [Timespec.after, hmod]
  split
  · exact ⟨by dsimp only; omega, by dsimp only; omega⟩
  · exact ⟨by dsimp only; omega, by dsimp only; omega⟩

end Timespec

/-- Conversion to `int`. -/
def toInt (x : ℤ) : ℤ := x.bmod (2 ^ 32)

theorem toInt_of_lt {x : ℤ} (h : -2 ^ 31 ≤ x) (h' : x < 2 ^ 31) : toInt x = x := by
  rw [toInt, Int.bmod_def]
  split <;> omega

/-- `LocTimerDelegate::ranks`, by the times of the delegates. -/
def ranks (self timer : Timespec) : ℤ :=
  let rank := toInt (timer.tvSec - self.tvSec)
  if rank = 0 then toInt (timer.tvNsec - self.tvNsec) else rank

/-! ## The parts of the system -/

structure LocTimerDelegate where
  address : ℕ
  mFutureTime : Timespec
  deriving DecidableEq, Repr

def LocTimerDelegate.outRanks (self timer : LocTimerDelegate) : Bool :=
  0 < ranks self.mFutureTime timer.mFutureTime

/-- The fields of a delegate that change. A `LocTimer` is a number, and there is one container. -/
structure DelegateState where
  mClient : Option ℕ
  mContainer : Bool
  deleted : Bool
  deriving DecidableEq, Repr

inductive LocMsg
  | timerPush (timer : LocTimerDelegate)
  | timerRemove (timer : LocTimerDelegate)
  | timerExpire
  deriving DecidableEq, Repr

inductive KernelCall
  | addPoll
  | removePoll
  /-- `timerfd_settime` with an absolute time, or with `none` for zero, which disarms. -/
  | settime (value : Option Timespec)
  deriving DecidableEq, Repr

/-- What the message task is about to do. -/
inductive MsgTask
  | idle
  /-- call `expire` of the delegate it popped, having read the clock as `now` -/
  | expiring (now : Timespec) (timer : LocTimerDelegate)
  /-- in `expire`, call `stop` of the client it read from the delegate -/
  | stopping (now : Timespec) (timer : LocTimerDelegate) (client : ℕ)
  /-- call `popIfOutRanks` -/
  | popping (now : Timespec)
  /-- make the kernel calls of `updateSoonestTime` that are left -/
  | updating (calls : List KernelCall)
  deriving DecidableEq, Repr

/-- How far the poll thread is in `LocTimerContainer::expire`. -/
inductive PollTask
  | waiting
  | woken
  | disarmed
  | unpolled
  deriving DecidableEq, Repr

structure TimerSystem where
  /-- `CLOCK_BOOTTIME` -/
  clock : Timespec
  /-- `LocTimer::mTimer` -/
  mTimer : ℕ → Option LocTimerDelegate
  delegates : ℕ → DelegateState
  nextAddress : ℕ
  mTree : LocHeapNode LocTimerDelegate
  queue : List LocMsg
  /-- The time that the timer of the kernel is armed for. -/
  armed : Option Timespec
  /-- Whether the timer is in the epoll set. -/
  polled : Bool
  poll : PollTask
  task : MsgTask

inductive Event
  | tick (time : Timespec)
  | start (timer : ℕ) (timeOutInMs : UInt32)
  | stop (timer : ℕ)
  /-- `epoll_wait` returns to the poll thread. -/
  | epollWait
  /-- The poll thread goes on. -/
  | poll
  /-- The message task goes on. -/
  | task
  deriving DecidableEq, Repr

inductive Out
  /-- What `start` made; it returns whether it made a delegate. -/
  | started (timer : ℕ) (delegate : Option LocTimerDelegate)
  /-- What `stop` of a client stopped; it returns whether it stopped a delegate. -/
  | stopped (timer : ℕ) (delegate : Option LocTimerDelegate)
  /-- A client is called back in the `expire` of a delegate, by a message that has read the clock as
  `now`. -/
  | timeOutCallback (timer : ℕ) (delegate : LocTimerDelegate) (now : Timespec)
  deriving DecidableEq, Repr

/-- `LocTimerContainer::updateSoonestTime`, as the kernel calls it makes. -/
def updateSoonestTime (mTree : LocHeapNode LocTimerDelegate) (priorTop : Option LocTimerDelegate) :
    List KernelCall :=
  let curTop := mTree.peek
  if curTop ≠ priorTop then
    match curTop with
    | none => [.removePoll, .settime none]
    | some timer =>
      if priorTop.all timer.outRanks then [.addPoll, .settime (some timer.mFutureTime)] else []
  else []

namespace TimerSystem

variable (s : TimerSystem)

/-! ## Clients -/

/-- `LocTimer::start`. -/
def start (timer : ℕ) (timeOutInMs : UInt32) : TimerSystem × Option LocTimerDelegate :=
  match s.mTimer timer with
  | some _ => (s, none)
  | none =>
    let delegate : LocTimerDelegate := ⟨s.nextAddress, s.clock.after timeOutInMs⟩
    ({ s with
      mTimer := Function.update s.mTimer timer (some delegate)
      delegates := Function.update s.delegates delegate.address ⟨some timer, true, false⟩
      nextAddress := s.nextAddress + 1
      queue := s.queue ++ [.timerPush delegate] }, some delegate)

def destroyLocked (delegate : LocTimerDelegate) : TimerSystem :=
  let state := s.delegates delegate.address
  { s with
    delegates := Function.update s.delegates delegate.address
      { state with mClient := none, mContainer := false }
    queue := s.queue ++ if state.mContainer then [.timerRemove delegate] else [] }

/-- `LocTimer::stop`. -/
def stop (timer : ℕ) : TimerSystem × Option LocTimerDelegate :=
  match s.mTimer timer with
  | none => (s, none)
  | some delegate =>
    ({ s with mTimer := Function.update s.mTimer timer none }.destroyLocked delegate, some delegate)

/-! ## The poll thread -/

/-- The timer of the kernel has expired. -/
def readable : Bool := s.armed.any fun time ↦ time ≤ s.clock

def pollStep : Option TimerSystem :=
  match s.poll with
  | .waiting => none
  | .woken => some { s with armed := none, poll := .disarmed }
  | .disarmed => some { s with polled := false, poll := .unpolled }
  | .unpolled => some { s with queue := s.queue ++ [.timerExpire], poll := .waiting }

/-! ## The message task -/

def kernelCall : KernelCall → TimerSystem
  | .addPoll => { s with polled := true }
  | .removePoll => { s with polled := false }
  | .settime value => { s with armed := value.filter (· ≠ ⟨0, 0⟩) }

/-- `delete`. -/
def delete (timer : LocTimerDelegate) : TimerSystem :=
  { s with
    delegates := Function.update s.delegates timer.address
      { s.delegates timer.address with deleted := true } }

/-- `MsgTimerPush::proc`, `MsgTimerRemove::proc` and the beginning of `MsgTimerExpire::proc`. -/
def procMsg : LocMsg → TimerSystem
  | .timerPush timer =>
    let mTree := s.mTree.push LocTimerDelegate.outRanks timer
    { s with mTree := mTree, task := .updating (updateSoonestTime mTree s.mTree.peek) }
  | .timerRemove timer =>
    let removed := s.mTree.remove LocTimerDelegate.outRanks timer
    let mTree := removed.getD s.mTree
    { s.delete timer with
      mTree := mTree
      task := .updating <|
        -- `remove` returns the delegate it removed, or null
        if s.mTree.peek = removed.map fun _ ↦ timer then updateSoonestTime mTree none else [] }
  | .timerExpire =>
    match s.mTree.peek with
    | none => { s with task := .updating (updateSoonestTime s.mTree none) }
    | some timer =>
      { s with
        mTree := s.mTree.popped LocTimerDelegate.outRanks
        task := .expiring s.clock timer }

/-- `popIfOutRanks` and what follows it. -/
def popNext (now : Timespec) : TimerSystem :=
  match s.mTree.peek with
  | none => { s with task := .updating (updateSoonestTime s.mTree none) }
  | some timer =>
    if !(0 < ranks now timer.mFutureTime : Bool) then
      { s with
        mTree := s.mTree.popped LocTimerDelegate.outRanks
        task := .expiring now timer }
    else { s with task := .updating (updateSoonestTime s.mTree none) }

def taskStep : Option (TimerSystem × List Out) :=
  match s.task with
  | .idle =>
    match s.queue with
    | [] => none
    | msg :: queue => some ({ s with queue := queue }.procMsg msg, [])
  | .expiring now timer =>
    match (s.delegates timer.address).mClient with
    | none => some ({ s with task := .popping now }, [])
    | some client => some ({ s with task := .stopping now timer client }, [])
  | .stopping now timer client =>
    let (s', stopped) := s.stop client
    some ({ s' with task := .popping now },
      if stopped.isSome then [.timeOutCallback client timer now] else [])
  | .popping now => some (s.popNext now, [])
  | .updating [] => some ({ s with task := .idle }, [])
  | .updating (call :: calls) => some ({ s.kernelCall call with task := .updating calls }, [])

/-! ## The system -/

def step : Event → Option (TimerSystem × List Out)
  | .tick time =>
    if s.clock ≤ time ∧ time.Normalized then some ({ s with clock := time }, []) else none
  | .start timer timeOutInMs =>
    let (s', delegate) := s.start timer timeOutInMs
    some (s', [.started timer delegate])
  | .stop timer =>
    let (s', delegate) := s.stop timer
    some (s', [.stopped timer delegate])
  | .epollWait =>
    if s.poll = .waiting ∧ s.polled ∧ s.readable then some ({ s with poll := .woken }, []) else none
  | .poll => s.pollStep.map (·, [])
  | .task => s.taskStep

/-- Before the first timer is started. -/
def initial (clock : Timespec) : TimerSystem where
  clock := clock
  mTimer := fun _ ↦ none
  delegates := fun _ ↦ ⟨none, false, false⟩
  nextAddress := 0
  mTree := .null
  queue := []
  armed := none
  polled := false
  poll := .waiting
  task := .idle

end TimerSystem

end MataDevice.Timer
