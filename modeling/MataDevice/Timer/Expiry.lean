import MataDevice.Timer.Steps

/-!
# Timers that expire in time

A message that makes timers expire reads the clock and pops one delegate after the other from the
heap as long as they are due. But the first one it pops without a look at the time: it takes it for
the one that the kernel has woken the poll thread for. By the time the message is processed that
delegate may be gone, because its client has stopped it or because an earlier message has seen to
it, and then another timer expires early.

`TopDue` says that this does not happen: when the message is processed the top of the heap is due,
or its client has stopped it. All other pops are right, although ranks are differences cut down to
an `int`, because no delegate in the heap is further in the future than a time-out can be long.
-/

namespace MataDevice.Timer

open List

/-! ## Times that a delegate can have -/

/-- The most seconds that a time-out lasts, with a carry. -/
def maxTimeOut : ℤ := 4294968

/-- A time that a delegate started at `now` or before can have. -/
def Timespec.Within (now t : Timespec) : Prop := t.Normalized ∧ t.tvSec ≤ now.tvSec + maxTimeOut

theorem Timespec.Within.mono {now now' t : Timespec} (h : now.Within t) (hle : now ≤ now') :
    now'.Within t := by
  have hsec := Timespec.tvSec_le hle
  exact ⟨h.1, h.2.trans (by omega)⟩

theorem Timespec.within_after {now : Timespec} (h : now.Normalized) (timeOutInMs : UInt32) :
    now.Within (now.after timeOutInMs) := by
  refine ⟨Timespec.normalized_after h timeOutInMs, ?_⟩
  have hlt := timeOutInMs.toNat_lt
  have hdiv : (timeOutInMs / 1000).toNat = timeOutInMs.toNat / 1000 := UInt32.toNat_div ..
  have hmod : (timeOutInMs % 1000).toNat = timeOutInMs.toNat % 1000 := UInt32.toNat_mod ..
  obtain ⟨h0, h1⟩ := h
  rw [Timespec.after, hdiv, hmod, maxTimeOut]
  split
  · dsimp only
    omega
  · dsimp only
    omega

/-- A delegate that `now` does not outrank is due. -/
theorem le_of_ranks_le {now t : Timespec} (hnow : now.Normalized) (ht : now.Within t)
    (h : ranks now t ≤ 0) : t ≤ now := by
  obtain ⟨⟨h0, h1⟩, hmax⟩ := ht
  obtain ⟨h0', h1'⟩ := hnow
  rw [Timespec.le_def]
  rcases lt_trichotomy t.tvSec now.tvSec with hlt | heq | hgt
  · exact Or.inl hlt
  · refine Or.inr ⟨heq, ?_⟩
    have hsec : toInt (t.tvSec - now.tvSec) = 0 := by rw [heq, sub_self]; rfl
    rw [ranks, if_pos hsec, toInt_of_lt (by omega) (by omega)] at h
    omega
  · -- the difference of the seconds is positive and fits into an `int`
    have hsec : toInt (t.tvSec - now.tvSec) = t.tvSec - now.tvSec :=
      toInt_of_lt (by omega) (by rw [maxTimeOut] at hmax; omega)
    rw [ranks, hsec, if_neg (by omega)] at h
    omega

/-! ## The invariant -/

/-- A message that makes timers expire finds a top that is due or has been stopped. -/
def TopDue (s : TimerSystem) : Event → Prop
  | .task => s.task = .idle → s.queue.head? = some .timerExpire → ∀ timer ∈ s.mTree.peek,
      timer.mFutureTime ≤ s.clock ∨ (s.delegates timer.address).mClient = none
  | _ => True

instance (s : TimerSystem) : DecidablePred (TopDue s)
  | .task => inferInstanceAs (Decidable (_ → _))
  | .tick _ | .start .. | .stop _ | .epollWait | .poll => .isTrue trivial

/-- The time that the message in hand has read, or else the time. -/
def TimerSystem.now (s : TimerSystem) : Timespec :=
  match s.task with
  | .expiring now _ | .stopping now _ _ | .popping now => now
  | .idle | .updating _ => s.clock

/-- A delegate that has been started by the time `now`. -/
def TimerSystem.Started (s : TimerSystem) (now : Timespec) (timer : LocTimerDelegate) : Prop :=
  now.Within timer.mFutureTime ∧ timer.address < s.nextAddress

/-- Whether the delegate in hand may be called back. -/
def TimerSystem.InTime (s : TimerSystem) : Prop :=
  match s.task with
  | .expiring now timer => timer.address < s.nextAddress ∧
      (timer.mFutureTime ≤ now ∨ (s.delegates timer.address).mClient = none)
  | .stopping now timer _ => timer.mFutureTime ≤ now
  | .idle | .popping _ | .updating _ => True

structure Punctual (s : TimerSystem) : Prop where
  clock : s.clock.Normalized
  now : s.now.Normalized ∧ s.now ≤ s.clock
  heap : ∀ timer ∈ s.mTree.toList, s.Started s.now timer
  queue : ∀ timer, .timerPush timer ∈ s.queue → s.Started s.clock timer
  inTime : s.InTime

namespace Punctual

variable {s s' : TimerSystem} {e : Event} {outs : List Out}

theorem initial {clock : Timespec} (h : clock.Normalized) : Punctual (.initial clock) where
  clock := h
  now := ⟨h, Timespec.le_refl clock⟩
  heap := by simp [TimerSystem.initial, LocHeapNode.toList]
  queue := by simp [TimerSystem.initial]
  inTime := trivial

variable (h : Punctual s)
include h

/-- What other threads do leaves the message in hand alone. -/
theorem frame (hclock : s'.clock = s.clock) (htask : s'.task = s.task)
    (htree : s'.mTree = s.mTree) (hnext : s.nextAddress ≤ s'.nextAddress)
    (hclient : ∀ a < s.nextAddress, (s.delegates a).mClient = none →
      (s'.delegates a).mClient = none)
    (hqueue : ∀ timer, .timerPush timer ∈ s'.queue →
      .timerPush timer ∈ s.queue ∨ s'.Started s.clock timer) : Punctual s' := by
  have hnow : s'.now = s.now := by rw [TimerSystem.now, TimerSystem.now, htask, hclock]
  refine ⟨hclock ▸ h.clock, by rw [hnow, hclock]; exact h.now, fun timer ht ↦ ?_,
    fun timer ht ↦ ?_, ?_⟩
  · rw [htree] at ht
    obtain ⟨hw, ha⟩ := h.heap timer ht
    exact ⟨hnow ▸ hw, ha.trans_le hnext⟩
  · rw [hclock]
    rcases hqueue timer ht with ht | ht
    · obtain ⟨hw, ha⟩ := h.queue timer ht
      exact ⟨hw, ha.trans_le hnext⟩
    · exact ht
  · have hin := h.inTime
    rw [TimerSystem.InTime] at hin ⊢
    rw [htask]
    split
    · next heq =>
      rw [heq] at hin
      exact ⟨hin.1.trans_le hnext, hin.2.imp_right (hclient _ hin.1)⟩
    · next heq =>
      rw [heq] at hin
      exact hin
    all_goals trivial

/-- The message task goes on with what is left of the heap. -/
theorem goOn {mTree : LocHeapNode LocTimerDelegate} {task : MsgTask}
    (hsub : ∀ timer ∈ mTree.toList, timer ∈ s.mTree.toList)
    (hnow : { s with mTree := mTree, task := task }.now = s.now ∨
      { s with mTree := mTree, task := task }.now = s.clock)
    (hin : { s with mTree := mTree, task := task }.InTime) :
    Punctual { s with mTree := mTree, task := task } where
  clock := h.clock
  now := by
    rcases hnow with hnow | hnow
    · rw [hnow]
      exact h.now
    · rw [hnow]
      exact ⟨h.clock, Timespec.le_refl _⟩
  heap := by
    intro timer ht
    obtain ⟨hw, ha⟩ := h.heap timer (hsub timer ht)
    rcases hnow with hnow | hnow
    · rw [hnow]
      exact ⟨hw, ha⟩
    · rw [hnow]
      exact ⟨hw.mono h.now.2, ha⟩
  queue := h.queue
  inTime := hin

theorem tick {time : Timespec} (hle : s.clock ≤ time) (ht : time.Normalized) :
    Punctual { s with clock := time } := by
  have hnow : { s with clock := time }.now = s.now ∨ { s with clock := time }.now = time := by
    simp only [TimerSystem.now]
    split <;> simp
  refine ⟨ht, ?_, fun timer hm ↦ ?_, fun timer hm ↦ ?_, h.inTime⟩
  · rcases hnow with hnow | hnow
    · rw [hnow]
      exact ⟨h.now.1, Timespec.le_trans h.now.2 hle⟩
    · rw [hnow]
      exact ⟨ht, Timespec.le_refl time⟩
  · obtain ⟨hw, ha⟩ := h.heap timer hm
    rcases hnow with hnow | hnow
    · rw [hnow]
      exact ⟨hw, ha⟩
    · rw [hnow]
      exact ⟨hw.mono (Timespec.le_trans h.now.2 hle), ha⟩
  · obtain ⟨hw, ha⟩ := h.queue timer hm
    exact ⟨hw.mono hle, ha⟩

/-- A client that lets go of its delegate sends at most a message that removes it. -/
theorem destroyLocked (mTimer : ℕ → Option LocTimerDelegate) (delegate : LocTimerDelegate) :
    Punctual ({ s with mTimer := mTimer }.destroyLocked delegate) := by
  refine h.frame rfl rfl rfl le_rfl (fun a _ hnone ↦ ?_) fun t ht ↦ Or.inl ?_
  · simp only [TimerSystem.destroyLocked, Function.update_apply]
    split
    · rfl
    · exact hnone
  · rcases mem_append.mp ht with ht | ht
    · exact ht
    · split at ht <;> simp at ht

/-- The message task takes the next message. -/
theorem dequeue {msg : LocMsg} {queue : List LocMsg}
    (hqueue : s.queue = msg :: queue) : Punctual { s with queue := queue } := by
  refine h.frame rfl rfl rfl le_rfl (fun _ _ hn ↦ hn) fun _ ht ↦ Or.inl ?_
  rw [hqueue]
  exact mem_cons_of_mem _ ht

/-- A step of the poll thread or of the kernel. -/
theorem unseen {armed : Option Timespec} {polled : Bool} {poll : PollTask} :
    Punctual { s with armed := armed, polled := polled, poll := poll } :=
  h.frame rfl rfl rfl le_rfl (fun _ _ hn ↦ hn) fun _ ht ↦ Or.inl ht

theorem start (timer : ℕ) (timeOutInMs : UInt32) :
    Punctual { s with
      mTimer := Function.update s.mTimer timer (some (s.newDelegate timeOutInMs))
      delegates := Function.update s.delegates s.nextAddress ⟨some timer, true, false⟩
      nextAddress := s.nextAddress + 1
      queue := s.queue ++ [.timerPush (s.newDelegate timeOutInMs)] } := by
  refine h.frame rfl rfl rfl (Nat.le_succ _) (fun a ha hnone ↦ ?_) fun t ht ↦ ?_
  · dsimp only
    rw [Function.update_of_ne ha.ne]
    exact hnone
  · rcases mem_append.mp ht with ht | ht
    · exact Or.inl ht
    · obtain rfl := LocMsg.timerPush.inj (mem_singleton.mp ht)
      exact Or.inr ⟨Timespec.within_after h.clock timeOutInMs, Nat.lt_succ_self _⟩

theorem push {timer : LocTimerDelegate} {queue : List LocMsg}
    (hidle : s.task = .idle) (hqueue : s.queue = .timerPush timer :: queue)
    (calls : List KernelCall) :
    Punctual { s with
      queue := queue
      mTree := s.mTree.push LocTimerDelegate.outRanks timer
      task := .updating calls } := by
  refine ⟨h.clock, ⟨h.clock, Timespec.le_refl _⟩, fun t ht ↦ ?_, (h.dequeue hqueue).queue, trivial⟩
  -- the clock may have gone on since `start`, which only brings the delegate nearer
  rcases mem_cons.mp ((LocHeapNode.toList_push timer s.mTree).subset ht) with rfl | ht
  · exact h.queue t (hqueue ▸ mem_cons_self)
  · have hstarted := h.heap t ht
    rw [TimerSystem.now, hidle] at hstarted
    exact hstarted

theorem remove (timer : LocTimerDelegate) :
    Punctual (s.procMsg (.timerRemove timer)) := by
  have hdelete : Punctual (s.delete timer) := by
    refine h.frame rfl rfl rfl le_rfl (fun a _ hnone ↦ ?_) fun _ ht ↦ Or.inl ht
    simp only [TimerSystem.delete, Function.update_apply]
    split
    · next heq => exact heq ▸ hnone
    · exact hnone
  exact hdelete.goOn (fun t ht ↦ LocHeapNode.mem_of_mem_remove ht) (Or.inr rfl) trivial

theorem step (hg : TopDue s e) (hs : TimerStep s e s' outs) : Punctual s' := by
  have hin := h.inTime
  rw [TimerSystem.InTime] at hin
  cases hs with
  | tick hle ht => exact h.tick hle ht
  | startRunning | stopStopped => exact h
  | start timer timeOutInMs => exact h.start timer timeOutInMs
  | @stop timer delegate => exact h.destroyLocked _ delegate
  | wake | disarm | unpoll => exact h.unseen
  | sendExpire =>
    refine h.frame rfl rfl rfl le_rfl (fun _ _ hn ↦ hn) fun timer ht ↦ Or.inl ?_
    simpa using ht
  | push hidle hqueue => exact h.push hidle hqueue _
  | remove hidle hqueue => exact (h.dequeue hqueue).remove _
  | expireNone hidle hqueue => exact (h.dequeue hqueue).goOn (fun _ ht ↦ ht) (Or.inr rfl) trivial
  | @expire timer queue hidle hqueue hpeek =>
    -- the first pop does not look at the time: only the hypothesis says that it is due
    have hdue := hg hidle (by rw [hqueue]; rfl) timer hpeek
    exact (h.dequeue hqueue).goOn (fun t ht ↦ LocHeapNode.mem_of_mem_popped ht) (Or.inr rfl)
      ⟨(h.heap timer (LocHeapNode.mem_of_peek hpeek)).2, hdue⟩
  | @expireStopped now timer htask =>
    have hnow : s.now = now := by rw [TimerSystem.now, htask]
    exact h.goOn (fun _ ht ↦ ht) (Or.inl hnow.symm) trivial
  | @readClient now timer client htask hclient =>
    have hnow : s.now = now := by rw [TimerSystem.now, htask]
    rw [htask] at hin
    refine h.goOn (fun _ ht ↦ ht) (Or.inl hnow.symm) ?_
    exact hin.2.resolve_right (by simp [hclient])
  | @callStopped now timer client htask =>
    have hnow : s.now = now := by rw [TimerSystem.now, htask]
    exact h.goOn (fun _ ht ↦ ht) (Or.inl hnow.symm) trivial
  | @call now timer delegate client htask =>
    have hnow : s.now = now := by rw [TimerSystem.now, htask]
    have hstop := h.destroyLocked (Function.update s.mTimer client none) delegate
    exact hstop.goOn (fun _ ht ↦ ht) (Or.inl hnow.symm) trivial
  | @popNext now timer htask hdue =>
    have hnow : s.now = now := by rw [TimerSystem.now, htask]
    have hstarted := h.heap timer (LocHeapNode.mem_of_peek hdue.1)
    -- any later pop compares the top with the time that the message has read
    refine h.goOn (fun t ht ↦ LocHeapNode.mem_of_mem_popped ht) (Or.inl hnow.symm)
      ⟨hstarted.2, Or.inl ?_⟩
    rw [hnow] at hstarted
    exact le_of_ranks_le (hnow ▸ h.now.1) hstarted.1 (not_lt.mp hdue.2)
  | popNone | updated => exact h.goOn (fun _ ht ↦ ht) (Or.inr rfl) trivial
  | @update call calls =>
    have hcall : Punctual (s.kernelCall call) := by cases call <;> exact h.unseen
    exact hcall.goOn (fun _ ht ↦ ht) (Or.inr rfl) trivial

/-- A step calls back only delegates that are due. -/
theorem le_of_timeOutCallback (hs : TimerStep s e s' outs) {timer : ℕ}
    {delegate : LocTimerDelegate} {now : Timespec}
    (hm : .timeOutCallback timer delegate now ∈ outs) : delegate.mFutureTime ≤ now := by
  cases hs with
  | call htask =>
    -- the client may have been started anew since, but it is the delegate in hand that expires
    obtain ⟨-, rfl, rfl⟩ := Out.timeOutCallback.inj (mem_singleton.mp hm)
    have hin := h.inTime
    rw [TimerSystem.InTime, htask] at hin
    exact hin
  | _ => simp at hm

end Punctual

/-- In every run in which a message that makes timers expire finds a top of the heap that is due or
stopped, no client is called back before the time of its delegate. -/
theorem not_early_of_run {clock : Timespec} (hc : clock.Normalized)
    {hist : List (Item Event Out)} {s : TimerSystem}
    (h : Run TimerSystem.step TopDue (TimerSystem.initial clock) hist s) :
    ∀ timer delegate now, .out (.timeOutCallback timer delegate now) ∈ hist →
      delegate.mFutureTime ≤ now := by
  refine (h.invariant (I := fun hist s ↦ Punctual s ∧ ∀ timer delegate now,
    .out (.timeOutCallback timer delegate now) ∈ hist → delegate.mFutureTime ≤ now)
    ⟨Punctual.initial hc, by simp⟩ ?_).2
  rintro hist s e s' outs ⟨hp, hall⟩ hg hs
  have hstep := timerStep_of_step hs
  refine ⟨hp.step hg hstep, fun timer delegate now hm ↦ ?_⟩
  rcases mem_append.mp hm with hm | hm
  · exact hall timer delegate now hm
  · simp only [entry, mem_cons, mem_map, reduceCtorEq, false_or] at hm
    obtain ⟨o, ho, heq⟩ := hm
    obtain rfl := Item.out.inj heq
    exact hp.le_of_timeOutCallback hstep ho

/-- Two timers; the first one expires in time while the other one goes on. -/
theorem not_early_of_run_first :
    ∃ hist s, Run TimerSystem.step TopDue (TimerSystem.initial ⟨10, 0⟩) hist s ∧
      .out (.timeOutCallback 0 ⟨0, ⟨11, 0⟩⟩ ⟨11, 5⟩) ∈ hist ∧
      ∀ timer delegate now, .out (.timeOutCallback timer delegate now) ∈ hist →
        delegate.mFutureTime ≤ now := by
  obtain ⟨hist, s, hrun, hs⟩ := Run.exists_of_runEvents TimerSystem.step TopDue
    (TimerSystem.initial ⟨10, 0⟩)
    [.start 0 1000, .start 1 100000, .task, .task, .task, .task, .task, .task, .tick ⟨11, 5⟩,
      .epollWait, .poll, .poll, .poll, .task, .task, .task, .task]
    (fun hist _ ↦ .out (.timeOutCallback 0 ⟨0, ⟨11, 0⟩⟩ ⟨11, 5⟩) ∈ hist)
    (by decide +kernel)
  exact ⟨hist, s, hrun, hs, not_early_of_run (by decide) hrun⟩

/-- The first of two timers is stopped after the kernel has woken the poll thread for it, and the
other one expires in its place, more than a minute early. -/
theorem early_of_stop :
    ∃ hist s, Run TimerSystem.step (fun _ _ ↦ True) (TimerSystem.initial ⟨10, 0⟩) hist s ∧
      .out (.timeOutCallback 1 ⟨1, ⟨110, 0⟩⟩ ⟨11, 5⟩) ∈ hist ∧
      ¬(⟨110, 0⟩ : Timespec) ≤ ⟨11, 5⟩ := by
  obtain ⟨hist, s, hrun, hs⟩ := Run.exists_of_runEvents TimerSystem.step (fun _ _ ↦ True)
    (TimerSystem.initial ⟨10, 0⟩)
    [.start 0 1000, .start 1 100000, .task, .task, .task, .task, .task, .task, .tick ⟨11, 5⟩,
      .epollWait, .stop 0, .poll, .poll, .poll, .task, .task, .task, .task, .task, .task, .task]
    (fun hist _ ↦ .out (.timeOutCallback 1 ⟨1, ⟨110, 0⟩⟩ ⟨11, 5⟩) ∈ hist)
    (by decide +kernel)
  exact ⟨hist, s, hrun, hs, by decide⟩

end MataDevice.Timer
