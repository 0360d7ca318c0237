import MataDevice.Timer.Steps

/-!
# No timer is lost

Two threads work on the timer of the kernel: the message task arms it for the top of the heap, and
the poll thread disarms it and takes it out of the epoll set whenever it has woken up. Neither waits
for the other, so that the poll thread may undo what the message task has just set up. But then it
is about to send a message, which makes the message task set up the timer once more.

The invariant `Watched` says this of the states between two messages and of those in which kernel
calls are left: either the calls that are left make the kernel wait for the top of the heap, or a
message that makes timers expire is on its way. It does not depend on how delegates rank. That no
delegate in the heap outranks the top does, and this is where `InRange` is needed.
-/

namespace MataDevice.Timer

/-! ## Times after the boot -/

/-- A time that `CLOCK_BOOTTIME` can have. -/
def Timespec.Positive (t : Timespec) : Prop :=
  t.Normalized ∧ (0 < t.tvSec ∨ t.tvSec = 0 ∧ 0 < t.tvNsec)

instance (t : Timespec) : Decidable t.Positive := inferInstanceAs (Decidable (_ ∧ _))

theorem Timespec.Positive.mono {t u : Timespec} (h : t.Positive) (hle : t ≤ u)
    (hu : u.Normalized) : u.Positive := by
  refine ⟨hu, ?_⟩
  have hpos := h.2
  rw [Timespec.le_def] at hle
  omega

theorem Timespec.le_after (now : Timespec) (timeOutInMs : UInt32) : now ≤ now.after timeOutInMs := by
  rw [Timespec.after, Timespec.le_def]
  split
  · dsimp only
    omega
  · dsimp only
    omega

theorem Timespec.Positive.after {now : Timespec} (h : now.Positive) (timeOutInMs : UInt32) :
    (now.after timeOutInMs).Positive :=
  h.mono (now.le_after timeOutInMs) (Timespec.normalized_after h.1 timeOutInMs)

/-! ## Tops -/

namespace LocHeapNode

variable {α : Type} {rel : α → α → Bool} {data top : α} {t t' : LocHeapNode α}

theorem peek_eq_some_of_ne_null (h : t ≠ .null) : ∃ top, t.peek = some top := by
  cases t with
  | null => exact absurd rfl h
  | node mSize mData mLeft mRight => exact ⟨mData, rfl⟩

/-- A push that changes the top puts an object there that outranks the old one. -/
theorem outRanks_of_peek_push (h : (t.push rel data).peek = some top) (hne : t.peek ≠ some top) :
    t.peek.all (rel top) = true := by
  cases t with
  | null => rfl
  | node mSize mData mLeft mRight =>
    rw [peek_push_node] at h
    split at h
    · next hup =>
      obtain rfl := Option.some_inj.mp h
      exact hup
    · exact absurd h hne

/-- Removing an object that is not at the top leaves the top alone. -/
theorem peek_remove [DecidableEq α] (h : t.remove rel data = some t') (hne : t.peek ≠ some data) :
    t'.peek = t.peek := by
  cases t with
  | null => cases h
  | node mSize mData mLeft mRight =>
    have hdata : data ≠ mData := fun heq ↦ hne (by rw [heq]; rfl)
    rw [remove, if_neg hdata] at h
    split at h
    · split at h
      · obtain rfl := Option.some_inj.mp h
        rfl
      · split at h
        · obtain rfl := Option.some_inj.mp h
          rfl
        · cases h
    · cases h

end LocHeapNode

/-! ## The kernel waits for the top -/

/-- A message that makes timers expire is queued, or the poll thread is going to send one. -/
def TimerSystem.ExpirePending (s : TimerSystem) : Prop :=
  .timerExpire ∈ s.queue ∨ s.poll ≠ .waiting

/-- The kernel calls that are left make the poll thread wait for `time`. -/
def TimerSystem.WillWait (s : TimerSystem) (time : Timespec) : List KernelCall → Prop
  | [] => s.armed = some time ∧ s.polled = true
  | .settime value :: calls => value = some time ∧ s.polled = true ∧ calls = []
  | .addPoll :: calls => calls = [.settime (some time)]
  | .removePoll :: _ => False

/-- The kernel calls that are left, once the message in hand does nothing else any more. -/
def MsgTask.callsLeft : MsgTask → Option (List KernelCall)
  | .idle => some []
  | .updating calls => some calls
  | .expiring .. | .stopping .. | .popping _ => none

def Watched (s : TimerSystem) : Prop :=
  ∀ calls ∈ s.task.callsLeft, ∀ top ∈ s.mTree.peek,
    s.WillWait top.mFutureTime calls ∨ s.ExpirePending

/-- Told of no prior top, `updateSoonestTime` sets up the timer for the top there is. -/
theorem willWait_updateSoonestTime {s : TimerSystem} {mTree : LocHeapNode LocTimerDelegate}
    {top : LocTimerDelegate} (h : mTree.peek = some top) :
    s.WillWait top.mFutureTime (updateSoonestTime mTree none) := by
  rw [updateSoonestTime, h]
  rfl

namespace Watched

variable {s s' : TimerSystem} {e : Event} {outs : List Out}

theorem initial {clock : Timespec} : Watched (.initial clock) := by
  intro calls _ top htop
  cases htop

/-- What leaves the message task, the heap and the timer of the kernel alone. -/
theorem frame (h : Watched s) (htask : s'.task = s.task) (htree : s'.mTree = s.mTree)
    (harmed : s'.armed = s.armed) (hpolled : s'.polled = s.polled)
    (hpending : s.ExpirePending → s'.ExpirePending) : Watched s' := by
  intro calls hcalls top htop
  rw [htask] at hcalls
  rw [htree] at htop
  refine (h calls hcalls top htop).imp (fun hwait ↦ ?_) hpending
  cases calls with
  | nil => exact ⟨harmed ▸ hwait.1, hpolled ▸ hwait.2⟩
  | cons call calls =>
    cases call with
    | addPoll => exact hwait
    | removePoll => exact hwait
    | settime value => exact ⟨hwait.1, hpolled ▸ hwait.2.1, hwait.2.2⟩

theorem of_pending (h : s.ExpirePending) : Watched s := fun _ _ _ _ ↦ .inr h

/-- A message task that has more to do than kernel calls will see to the timer later. -/
theorem of_callsLeft (h : s.task.callsLeft = none) : Watched s := by
  intro calls hcalls
  rw [h] at hcalls
  cases hcalls

variable {queue : List LocMsg} {timer : LocTimerDelegate}

/-- The message task takes a message other than one that makes timers expire. -/
theorem of_cons (h : Watched s) (hidle : s.task = .idle) {msg : LocMsg}
    (hqueue : s.queue = msg :: queue) (hmsg : msg ≠ .timerExpire) {top : LocTimerDelegate}
    (htop : s.mTree.peek = some top) :
    (s.armed = some top.mFutureTime ∧ s.polled = true) ∨
      (.timerExpire ∈ queue ∨ s.poll ≠ .waiting) := by
  refine (h [] (by rw [hidle]; rfl) top htop).imp_right fun hp ↦ hp.imp_left fun hm ↦ ?_
  rw [hqueue] at hm
  exact (List.mem_cons.mp hm).resolve_left fun heq ↦ hmsg heq.symm

theorem push (h : Watched s) (hidle : s.task = .idle) (hqueue : s.queue = .timerPush timer :: queue) :
    Watched { s with
      queue := queue
      mTree := s.mTree.push LocTimerDelegate.outRanks timer
      task := .updating
        (updateSoonestTime (s.mTree.push LocTimerDelegate.outRanks timer) s.mTree.peek) } := by
  rintro calls ⟨⟩ top htop
  have hpeek : (s.mTree.push LocTimerDelegate.outRanks timer).peek = some top := htop
  rw [updateSoonestTime, hpeek]
  by_cases hsame : s.mTree.peek = some top
  · -- the top stays, and what the kernel waited for still holds
    rw [if_neg (by simp [hsame])]
    exact h.of_cons hidle hqueue (by simp) hsame
  · rw [if_pos (Ne.symm hsame)]
    dsimp only
    rw [if_pos (LocHeapNode.outRanks_of_peek_push hpeek hsame)]
    exact .inl rfl

theorem remove (h : Watched s) (hidle : s.task = .idle) (hqueue : s.queue = .timerRemove timer :: queue) :
    Watched ({ s with queue := queue }.procMsg (.timerRemove timer)) := by
  rintro calls ⟨⟩ top htop
  dsimp only [TimerSystem.procMsg, TimerSystem.delete] at htop ⊢
  split
  · exact .inl (willWait_updateSoonestTime htop)
  · next hpeek =>
    refine h.of_cons hidle hqueue (by simp) ?_
    -- the top was not the one to be removed
    cases hrem : s.mTree.remove LocTimerDelegate.outRanks timer with
    | none =>
      rw [hrem] at htop
      exact htop
    | some left =>
      rw [hrem] at htop hpeek
      exact (LocHeapNode.peek_remove hrem hpeek).symm.trans htop

/-- One more kernel call is made. -/
theorem update (h : Watched s) (hpos : ∀ x ∈ s.mTree.toList, x.mFutureTime.Positive)
    {call : KernelCall} {calls : List KernelCall} (htask : s.task = .updating (call :: calls)) :
    Watched { s.kernelCall call with task := .updating calls } := by
  rintro _ ⟨⟩ top htop
  have htop' : s.mTree.peek = some top := by
    cases call <;> exact htop
  rcases h (call :: calls) (by rw [htask]; rfl) top htop' with hwait | hpending
  · refine .inl ?_
    cases call with
    | addPoll =>
      obtain rfl := hwait
      exact ⟨rfl, rfl, rfl⟩
    | removePoll => exact hwait.elim
    | settime value =>
      obtain ⟨rfl, hpolled, rfl⟩ := hwait
      -- a time that is zero would disarm the timer
      have hne : top.mFutureTime ≠ ⟨0, 0⟩ := by
        intro heq
        have hp := hpos top (LocHeapNode.mem_of_peek htop')
        rw [heq] at hp
        exact absurd hp (by decide)
      refine ⟨?_, hpolled⟩
      simp [TimerSystem.kernelCall, hne]
  · refine .inr ?_
    cases call <;> exact hpending

theorem step (h : Watched s) (hpos : ∀ x ∈ s.mTree.toList, x.mFutureTime.Positive)
    (hs : TimerStep s e s' outs) : Watched s' := by
  cases hs with
  | tick | startRunning | stopStopped => exact h.frame rfl rfl rfl rfl id
  | start | stop => exact h.frame rfl rfl rfl rfl (.imp_left (List.mem_append_left _))
  | wake => exact of_pending (.inr (by simp))
  | disarm => exact of_pending (.inr (by simp))
  | unpoll => exact of_pending (.inr (by simp))
  | sendExpire => exact of_pending (.inl (by simp))
  | push hidle hqueue => exact h.push hidle hqueue
  | remove hidle hqueue => exact h.remove hidle hqueue
  | expireNone _ _ hpeek =>
    rintro calls _ top htop
    rw [hpeek] at htop
    cases htop
  | expire | expireStopped | readClient | callStopped | call | popNext => exact of_callsLeft rfl
  | popNone =>
    rintro calls ⟨⟩ top htop
    exact .inl (willWait_updateSoonestTime htop)
  | updated htask =>
    rintro calls ⟨⟩ top htop
    exact h [] (by rw [htask]; rfl) top htop
  | update htask => exact h.update hpos htask

end Watched

/-- **No timer is lost.** In every run in which the delegates that meet in the heap are less than
2³¹ seconds apart, whenever the message task is between two messages and the heap is not empty, the
timer of the kernel is polled and armed for a delegate in the heap that no other one outranks, or a
message that makes timers expire is queued, or the poll thread is going to send one. -/
theorem watched_of_run {clock : Timespec} (hc : clock.Positive) {hist : List (Item Event Out)}
    {s : TimerSystem} (h : Run TimerSystem.step InRange (.initial clock) hist s)
    (hidle : s.task = .idle) (hne : s.mTree ≠ .null) :
    (∃ top ∈ s.mTree.toList, s.armed = some top.mFutureTime ∧ s.polled = true ∧
      ∀ x ∈ s.mTree.toList, x.outRanks top = false) ∨
    .timerExpire ∈ s.queue ∨ s.poll ≠ .waiting := by
  obtain ⟨horder, -, hwatched⟩ := h.invariant
    (I := fun _ s ↦ HeapInOrder s ∧ TimesIn Timespec.Positive s ∧ Watched s)
    ⟨.initial hc.1, .initial hc, .initial⟩ (by
      rintro - s e s' outs ⟨horder, htimes, hwatched⟩ hg hs
      have hstep := timerStep_of_step hs
      exact ⟨horder.step hg hstep,
        htimes.step (fun _ _ ht hle hu ↦ ht.mono hle hu) (fun _ ms ht ↦ ht.after ms) hstep,
        hwatched.step htimes.heap hstep⟩)
  obtain ⟨top, htop⟩ := LocHeapNode.peek_eq_some_of_ne_null hne
  rcases hwatched [] (by rw [hidle]; rfl) top htop with hwait | hpending
  · refine .inl ⟨top, LocHeapNode.mem_of_peek htop, hwait.1, hwait.2, fun x hx ↦ ?_⟩
    exact horder.ordered.not_outRanks_top horder.totally htop hx
  · exact .inr hpending

/-- The kernel waits for the earlier one of two timers. -/
theorem watched_of_run_two :
    ∃ hist s, Run TimerSystem.step InRange (.initial ⟨10, 0⟩) hist s ∧
      (s.task = .idle ∧ s.mTree ≠ .null ∧ s.armed = some ⟨11, 0⟩) ∧
      ((∃ top ∈ s.mTree.toList, s.armed = some top.mFutureTime ∧ s.polled = true ∧
        ∀ x ∈ s.mTree.toList, x.outRanks top = false) ∨
      .timerExpire ∈ s.queue ∨ s.poll ≠ .waiting) := by
  obtain ⟨hist, s, hrun, hs⟩ := Run.exists_of_runEvents TimerSystem.step InRange
    (.initial ⟨10, 0⟩)
    [.start 0 100000, .start 1 1000, .task, .task, .task, .task, .task, .task, .task, .task]
    (fun _ s ↦ s.task = .idle ∧ s.mTree ≠ .null ∧ s.armed = some ⟨11, 0⟩)
    (by decide +kernel)
  exact ⟨hist, s, hrun, hs, watched_of_run (by decide) hrun hs.1 hs.2.1⟩

/-- Three timers whose times are more than 2³¹ seconds apart. The last one seems to outrank the
first one, takes its place at the top and in the kernel, and is outranked by the second one. -/
theorem not_watched_of_overflow :
    ∃ hist s, Run TimerSystem.step (fun _ _ ↦ True) (.initial ⟨10, 0⟩) hist s ∧
      s.task = .idle ∧ s.mTree ≠ .null ∧
      ¬((∃ top ∈ s.mTree.toList, s.armed = some top.mFutureTime ∧ s.polled = true ∧
        ∀ x ∈ s.mTree.toList, x.outRanks top = false) ∨
      .timerExpire ∈ s.queue ∨ s.poll ≠ .waiting) := by
  exact Run.exists_of_decide
    [.start 0 1000, .task, .task, .task, .task, .tick ⟨1073741834, 0⟩, .start 1 1000, .task, .task,
      .tick ⟨2147483659, 0⟩, .start 2 1000, .task, .task, .task, .task] (by decide +kernel)

end MataDevice.Timer
