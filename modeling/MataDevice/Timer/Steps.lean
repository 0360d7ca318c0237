import MataDevice.Timer.Container
import MataDevice.Timer.Priority

/-!
# What a step of the timer service can do

`TimerStep` lists what a step can do, with the state it starts from and the one it ends in. The
results about runs are read off this list, so that the step function is taken apart once, here.

The heap of the container ranks its delegates by differences of times that are cut down to an `int`.
As long as the times that meet in the heap are less than 2³¹ seconds apart, which `InRange` says of
every push, this is the order of the times, and the heap is one.
-/

namespace MataDevice.Timer

open List

/-- The delegate that a start makes. -/
def TimerSystem.newDelegate (s : TimerSystem) (timeOutInMs : UInt32) : LocTimerDelegate :=
  ⟨s.nextAddress, s.clock.after timeOutInMs⟩

/-- Whether the message task goes on with another delegate. -/
def TimerSystem.Due (s : TimerSystem) (now : Timespec) (timer : LocTimerDelegate) : Prop :=
  s.mTree.peek = some timer ∧ ¬0 < ranks now timer.mFutureTime

inductive TimerStep (s : TimerSystem) : Event → TimerSystem → List Out → Prop
  | tick {time : Timespec} : s.clock ≤ time → time.Normalized →
      TimerStep s (.tick time) { s with clock := time } []
  | startRunning (timer : ℕ) (timeOutInMs : UInt32) {delegate : LocTimerDelegate} :
      s.mTimer timer = some delegate →
      TimerStep s (.start timer timeOutInMs) s [.started timer none]
  | start (timer : ℕ) (timeOutInMs : UInt32) : s.mTimer timer = none →
      TimerStep s (.start timer timeOutInMs)
        { s with
          mTimer := Function.update s.mTimer timer (some (s.newDelegate timeOutInMs))
          delegates := Function.update s.delegates s.nextAddress ⟨some timer, true, false⟩
          nextAddress := s.nextAddress + 1
          queue := s.queue ++ [.timerPush (s.newDelegate timeOutInMs)] }
        [.started timer (some (s.newDelegate timeOutInMs))]
  | stopStopped (timer : ℕ) : s.mTimer timer = none →
      TimerStep s (.stop timer) s [.stopped timer none]
  | stop (timer : ℕ) {delegate : LocTimerDelegate} : s.mTimer timer = some delegate →
      TimerStep s (.stop timer)
        ({ s with mTimer := Function.update s.mTimer timer none }.destroyLocked delegate)
        [.stopped timer (some delegate)]
  | wake : s.poll = .waiting → s.polled = true → s.readable = true →
      TimerStep s .epollWait { s with poll := .woken } []
  | disarm : s.poll = .woken → TimerStep s .poll { s with armed := none, poll := .disarmed } []
  | unpoll : s.poll = .disarmed →
      TimerStep s .poll { s with polled := false, poll := .unpolled } []
  | sendExpire : s.poll = .unpolled →
      TimerStep s .poll { s with queue := s.queue ++ [.timerExpire], poll := .waiting } []
  | push {timer : LocTimerDelegate} {queue : List LocMsg} : s.task = .idle →
      s.queue = .timerPush timer :: queue →
      TimerStep s .task
        { s with
          queue := queue
          mTree := s.mTree.push LocTimerDelegate.outRanks timer
          task := .updating
            (updateSoonestTime (s.mTree.push LocTimerDelegate.outRanks timer) s.mTree.peek) } []
  | remove {timer : LocTimerDelegate} {queue : List LocMsg} : s.task = .idle →
      s.queue = .timerRemove timer :: queue →
      TimerStep s .task ({ s with queue := queue }.procMsg (.timerRemove timer)) []
  | expireNone {queue : List LocMsg} : s.task = .idle → s.queue = .timerExpire :: queue →
      s.mTree.peek = none →
      TimerStep s .task
        { s with queue := queue, task := .updating (updateSoonestTime s.mTree none) } []
  | expire {timer : LocTimerDelegate} {queue : List LocMsg} : s.task = .idle →
      s.queue = .timerExpire :: queue → s.mTree.peek = some timer →
      TimerStep s .task
        { s with
          queue := queue
          mTree := s.mTree.popped LocTimerDelegate.outRanks
          task := .expiring s.clock timer } []
  | expireStopped {now : Timespec} {timer : LocTimerDelegate} : s.task = .expiring now timer →
      (s.delegates timer.address).mClient = none →
      TimerStep s .task { s with task := .popping now } []
  | readClient {now : Timespec} {timer : LocTimerDelegate} {client : ℕ} :
      s.task = .expiring now timer → (s.delegates timer.address).mClient = some client →
      TimerStep s .task { s with task := .stopping now timer client } []
  | callStopped {now : Timespec} {timer : LocTimerDelegate} {client : ℕ} :
      s.task = .stopping now timer client → s.mTimer client = none →
      TimerStep s .task { s with task := .popping now } []
  | call {now : Timespec} {timer delegate : LocTimerDelegate} {client : ℕ} :
      s.task = .stopping now timer client → s.mTimer client = some delegate →
      TimerStep s .task
        { { s with mTimer := Function.update s.mTimer client none }.destroyLocked delegate with
          task := .popping now } [.timeOutCallback client timer now]
  | popNext {now : Timespec} {timer : LocTimerDelegate} : s.task = .popping now →
      s.Due now timer →
      TimerStep s .task
        { s with
          mTree := s.mTree.popped LocTimerDelegate.outRanks
          task := .expiring now timer } []
  | popNone {now : Timespec} : s.task = .popping now → (∀ timer, ¬s.Due now timer) →
      TimerStep s .task { s with task := .updating (updateSoonestTime s.mTree none) } []
  | updated : s.task = .updating [] → TimerStep s .task { s with task := .idle } []
  | update {call : KernelCall} {calls : List KernelCall} : s.task = .updating (call :: calls) →
      TimerStep s .task { s.kernelCall call with task := .updating calls } []

variable {s s' : TimerSystem} {e : Event} {outs : List Out}

@[simp] theorem TimerSystem.kernelCall_mTree (s : TimerSystem) (call : KernelCall) :
    (s.kernelCall call).mTree = s.mTree := by
  cases call <;> rfl

@[simp] theorem TimerSystem.kernelCall_queue (s : TimerSystem) (call : KernelCall) :
    (s.kernelCall call).queue = s.queue := by
  cases call <;> rfl

@[simp] theorem TimerSystem.kernelCall_clock (s : TimerSystem) (call : KernelCall) :
    (s.kernelCall call).clock = s.clock := by
  cases call <;> rfl

private theorem timerStep_of_taskStep (h : s.taskStep = some (s', outs)) :
    TimerStep s .task s' outs := by
  rw [TimerSystem.taskStep] at h
  split at h
  · next hidle =>
    split at h
    · cases h
    · next msg queue hqueue =>
      obtain ⟨rfl, rfl⟩ := some_pair_inj h
      cases msg with
      | timerPush timer => exact .push hidle hqueue
      | timerRemove timer => exact .remove hidle hqueue
      | timerExpire =>
        rw [TimerSystem.procMsg]
        split
        · next hpeek => exact .expireNone hidle hqueue hpeek
        · next timer hpeek => exact .expire hidle hqueue hpeek
  · next now timer htask =>
    split at h
    · next hclient =>
      obtain ⟨rfl, rfl⟩ := some_pair_inj h
      exact .expireStopped htask hclient
    · next client hclient =>
      obtain ⟨rfl, rfl⟩ := some_pair_inj h
      exact .readClient htask hclient
  · next now timer client htask =>
    rw [TimerSystem.stop] at h
    cases hstop : s.mTimer client with
    | none =>
      rw [hstop] at h
      obtain ⟨rfl, rfl⟩ := some_pair_inj h
      exact .callStopped htask hstop
    | some delegate =>
      rw [hstop] at h
      obtain ⟨rfl, rfl⟩ := some_pair_inj h
      exact .call htask hstop
  · next now htask =>
    obtain ⟨rfl, rfl⟩ := some_pair_inj h
    rw [TimerSystem.popNext]
    cases hpeek : s.mTree.peek with
    | none => exact .popNone htask (by simp [TimerSystem.Due, hpeek])
    | some timer =>
      by_cases hdue : 0 < ranks now timer.mFutureTime
      · simp only [hdue, decide_true, Bool.not_true, Bool.false_eq_true, if_false]
        refine .popNone htask ?_
        rintro t ⟨ht, hnot⟩
        obtain rfl := Option.some_inj.mp (hpeek.symm.trans ht)
        exact hnot hdue
      · simp only [hdue, decide_false, Bool.not_false, if_true]
        exact .popNext htask ⟨hpeek, hdue⟩
  · next htask =>
    obtain ⟨rfl, rfl⟩ := some_pair_inj h
    exact .updated htask
  · next call calls htask =>
    obtain ⟨rfl, rfl⟩ := some_pair_inj h
    exact .update htask

/-- Every step is one of the list. -/
theorem timerStep_of_step (h : s.step e = some (s', outs)) : TimerStep s e s' outs := by
  cases e with
  | tick time =>
    rw [TimerSystem.step] at h
    split at h
    · next htime =>
      obtain ⟨rfl, rfl⟩ := some_pair_inj h
      exact .tick htime.1 htime.2
    · cases h
  | start timer timeOutInMs =>
    rw [TimerSystem.step, TimerSystem.start] at h
    cases htimer : s.mTimer timer with
    | none =>
      rw [htimer] at h
      obtain ⟨rfl, rfl⟩ := some_pair_inj h
      exact .start timer timeOutInMs htimer
    | some delegate =>
      rw [htimer] at h
      obtain ⟨rfl, rfl⟩ := some_pair_inj h
      exact .startRunning timer timeOutInMs htimer
  | stop timer =>
    rw [TimerSystem.step, TimerSystem.stop] at h
    cases htimer : s.mTimer timer with
    | none =>
      rw [htimer] at h
      obtain ⟨rfl, rfl⟩ := some_pair_inj h
      exact .stopStopped timer htimer
    | some delegate =>
      rw [htimer] at h
      obtain ⟨rfl, rfl⟩ := some_pair_inj h
      exact .stop timer htimer
  | epollWait =>
    rw [TimerSystem.step] at h
    split at h
    · next hwake =>
      obtain ⟨rfl, rfl⟩ := some_pair_inj h
      exact .wake hwake.1 hwake.2.1 hwake.2.2
    · cases h
  | poll =>
    obtain ⟨s₁, hpoll, heq⟩ := Option.map_eq_some_iff.mp h
    obtain ⟨rfl, rfl⟩ := Prod.mk.inj heq
    rw [TimerSystem.pollStep] at hpoll
    split at hpoll
    · cases hpoll
    · next hp =>
      obtain rfl := Option.some_inj.mp hpoll
      exact .disarm hp
    · next hp =>
      obtain rfl := Option.some_inj.mp hpoll
      exact .unpoll hp
    · next hp =>
      obtain rfl := Option.some_inj.mp hpoll
      exact .sendExpire hp
  | task => exact timerStep_of_taskStep h

/-! ## The heap along a run -/

/-- What a step can do to the heap. -/
theorem TimerStep.mTree_cases (h : TimerStep s e s' outs) :
    s'.mTree = s.mTree ∨
      (∃ timer queue, e = .task ∧ s.task = .idle ∧ s.queue = .timerPush timer :: queue ∧
        s'.mTree = s.mTree.push LocTimerDelegate.outRanks timer) ∨
      (∃ timer, s'.mTree = (s.mTree.remove LocTimerDelegate.outRanks timer).getD s.mTree) ∨
      s'.mTree = s.mTree.popped LocTimerDelegate.outRanks := by
  cases h with
  | push hidle hqueue => exact .inr (.inl ⟨_, _, rfl, hidle, hqueue, rfl⟩)
  | @remove timer => exact .inr (.inr (.inl ⟨timer, rfl⟩))
  | expire | popNext => exact .inr (.inr (.inr rfl))
  | update => exact .inl (TimerSystem.kernelCall_mTree ..)
  | _ => exact .inl rfl

/-- What comes into the heap was the delegate of the message in hand. -/
theorem TimerStep.mem_mTree (h : TimerStep s e s' outs) {x : LocTimerDelegate}
    (hx : x ∈ s'.mTree.toList) : x ∈ s.mTree.toList ∨ .timerPush x ∈ s.queue := by
  obtain heq | ⟨timer, queue, -, -, hqueue, heq⟩ | ⟨timer, heq⟩ | heq := h.mTree_cases
  · exact .inl (heq ▸ hx)
  · rw [heq] at hx
    rcases mem_cons.mp ((LocHeapNode.toList_push timer s.mTree).subset hx) with rfl | hx
    · exact .inr (hqueue ▸ mem_cons_self)
    · exact .inl hx
  · exact .inl (LocHeapNode.mem_of_mem_remove (heq ▸ hx))
  · exact .inl (LocHeapNode.mem_of_mem_popped (heq ▸ hx))

/-- A push that is sent has the time of a delegate that was started just now. -/
theorem TimerStep.mem_queue (h : TimerStep s e s' outs) {x : LocTimerDelegate}
    (hx : .timerPush x ∈ s'.queue) :
    .timerPush x ∈ s.queue ∨ ∃ timeOutInMs, x.mFutureTime = s.clock.after timeOutInMs := by
  cases h with
  | start timer timeOutInMs =>
    rcases mem_append.mp hx with hx | hx
    · exact .inl hx
    · obtain rfl := LocMsg.timerPush.inj (mem_singleton.mp hx)
      exact .inr ⟨timeOutInMs, rfl⟩
  | stop | call =>
    rcases mem_append.mp hx with hx | hx
    · exact .inl hx
    · split at hx <;> simp at hx
  | sendExpire => exact .inl (by simpa using hx)
  | push _ hqueue | remove _ hqueue | expireNone _ hqueue | expire _ hqueue =>
    exact .inl (hqueue ▸ mem_cons_of_mem _ hx)
  | update => exact .inl (TimerSystem.kernelCall_queue .. ▸ hx)
  | _ => exact .inl hx

/-- The times of the system are all in `P`: the clock, and those of the delegates in the heap and on
their way to it. -/
structure TimesIn (P : Timespec → Prop) (s : TimerSystem) : Prop where
  clock : P s.clock
  queue : ∀ timer, .timerPush timer ∈ s.queue → P timer.mFutureTime
  heap : ∀ timer ∈ s.mTree.toList, P timer.mFutureTime

theorem TimesIn.initial {P : Timespec → Prop} {clock : Timespec} (h : P clock) :
    TimesIn P (.initial clock) where
  clock := h
  queue := by simp [TimerSystem.initial]
  heap := by simp [TimerSystem.initial, LocHeapNode.toList]

theorem TimesIn.step {P : Timespec → Prop} (h : TimesIn P s)
    (htick : ∀ t u : Timespec, P t → t ≤ u → u.Normalized → P u)
    (hafter : ∀ t timeOutInMs, P t → P (t.after timeOutInMs)) (hs : TimerStep s e s' outs) :
    TimesIn P s' where
  clock := by
    cases hs with
    | tick hle hn => exact htick _ _ h.clock hle hn
    | update => exact (TimerSystem.kernelCall_clock s _).symm ▸ h.clock
    | _ => exact h.clock
  queue := by
    intro timer ht
    obtain ht | ⟨timeOutInMs, heq⟩ := hs.mem_queue ht
    · exact h.queue timer ht
    · exact heq ▸ hafter _ _ h.clock
  heap := by
    intro timer ht
    rcases hs.mem_mTree ht with ht | ht
    · exact h.heap timer ht
    · exact h.queue timer ht

theorem TimesIn.step_normalized (h : TimesIn Timespec.Normalized s)
    (hs : TimerStep s e s' outs) : TimesIn Timespec.Normalized s' :=
  h.step (fun _ _ _ _ hu ↦ hu) (fun _ timeOutInMs ht ↦ Timespec.normalized_after ht timeOutInMs) hs

/-! ## Ranks in range -/

/-- Less than 2³¹ seconds apart. -/
def Timespec.Near (t u : Timespec) : Prop := (t.tvSec - u.tvSec).natAbs < 2 ^ 31

instance (t u : Timespec) : Decidable (t.Near u) := inferInstanceAs (Decidable (_ < _))

/-- A delegate that is pushed has a time near those in the heap. -/
def LocMsg.InRange (mTree : LocHeapNode LocTimerDelegate) : LocMsg → Prop
  | .timerPush timer => ∀ x ∈ mTree.toList, x.mFutureTime.Near timer.mFutureTime
  | .timerRemove _ | .timerExpire => True

/-- The message that is processed is in range. -/
def InRange (s : TimerSystem) : Event → Prop
  | .task => s.task = .idle → ∀ msg ∈ s.queue.head?, msg.InRange s.mTree
  | _ => True

instance (mTree : LocHeapNode LocTimerDelegate) : DecidablePred (LocMsg.InRange mTree)
  | .timerPush _ => inferInstanceAs (Decidable (∀ x ∈ mTree.toList, _))
  | .timerRemove _ | .timerExpire => .isTrue trivial

instance (s : TimerSystem) : DecidablePred (InRange s)
  | .task => inferInstanceAs (Decidable (_ → _))
  | .tick _ | .start .. | .stop _ | .epollWait | .poll => .isTrue trivial

/-- How delegates rank. -/
def delegateRanks (x y : LocTimerDelegate) : ℤ := ranks x.mFutureTime y.mFutureTime

/-- Times that are near rank by which one is earlier. -/
theorem ranks_pos_iff {t u : Timespec} (ht : t.Normalized) (hu : u.Normalized) (h : t.Near u) :
    (0 < ranks t u ↔ t.tvSec < u.tvSec ∨ t.tvSec = u.tvSec ∧ t.tvNsec < u.tvNsec) ∧
      (ranks t u < 0 ↔ u.tvSec < t.tvSec ∨ u.tvSec = t.tvSec ∧ u.tvNsec < t.tvNsec) := by
  obtain ⟨ht0, ht1⟩ := ht
  obtain ⟨hu0, hu1⟩ := hu
  rw [Timespec.Near] at h
  have hsec : toInt (u.tvSec - t.tvSec) = u.tvSec - t.tvSec := toInt_of_lt (by omega) (by omega)
  have hnsec : toInt (u.tvNsec - t.tvNsec) = u.tvNsec - t.tvNsec :=
    toInt_of_lt (by omega) (by omega)
  rw [ranks, hsec, hnsec]
  split
  · omega
  · omega

/-- Delegates that are near each other rank in a total preorder. -/
theorem rankTotally_of_near {l : List LocTimerDelegate}
    (hn : ∀ x ∈ l, x.mFutureTime.Normalized)
    (h : ∀ x ∈ l, ∀ y ∈ l, x.mFutureTime.Near y.mFutureTime) : RankTotally delegateRanks l where
  flip := by
    intro x hx y hy
    have hxy := ranks_pos_iff (hn x hx) (hn y hy) (h x hx y hy)
    have hyx := ranks_pos_iff (hn y hy) (hn x hx) (h y hy x hx)
    rw [delegateRanks, delegateRanks, hxy.1, hyx.2]
  trans := by
    intro x hx y hy z hz hxy hyz
    have hxy' := ranks_pos_iff (hn x hx) (hn y hy) (h x hx y hy)
    have hyz' := ranks_pos_iff (hn y hy) (hn z hz) (h y hy z hz)
    have hxz' := ranks_pos_iff (hn x hx) (hn z hz) (h x hx z hz)
    rw [delegateRanks] at *
    omega

/-- The delegates in the heap are near each other, and it is ordered. -/
structure HeapInOrder (s : TimerSystem) : Prop where
  times : TimesIn Timespec.Normalized s
  near : ∀ x ∈ s.mTree.toList, ∀ y ∈ s.mTree.toList, x.mFutureTime.Near y.mFutureTime
  ordered : s.mTree.Ordered LocTimerDelegate.outRanks

namespace HeapInOrder

theorem initial {clock : Timespec} (h : clock.Normalized) : HeapInOrder (.initial clock) where
  times := .initial h
  near := by simp [TimerSystem.initial, LocHeapNode.toList]
  ordered := trivial

theorem totally (h : HeapInOrder s) : RankTotally delegateRanks s.mTree.toList :=
  rankTotally_of_near h.times.heap h.near

/-- A push that is in range adds a delegate that ranks with those in the heap. -/
theorem totally_push (h : HeapInOrder s) (hg : InRange s .task) (hidle : s.task = .idle)
    {timer : LocTimerDelegate} {queue : List LocMsg} (hqueue : s.queue = .timerPush timer :: queue) :
    (∀ x ∈ timer :: s.mTree.toList, ∀ y ∈ timer :: s.mTree.toList,
      x.mFutureTime.Near y.mFutureTime) ∧
    RankTotally delegateRanks (timer :: s.mTree.toList) := by
  have hnew : ∀ x ∈ s.mTree.toList, x.mFutureTime.Near timer.mFutureTime :=
    hg hidle (.timerPush timer) (by rw [hqueue]; rfl)
  have hnear : ∀ x ∈ timer :: s.mTree.toList, ∀ y ∈ timer :: s.mTree.toList,
      x.mFutureTime.Near y.mFutureTime := by
    intro x hx y hy
    rcases mem_cons.mp hx with rfl | hx
    · rcases mem_cons.mp hy with rfl | hy
      · simp [Timespec.Near]
      · have hyx := hnew y hy
        rw [Timespec.Near] at hyx ⊢
        omega
    · rcases mem_cons.mp hy with heq | hy
      · exact heq ▸ hnew x hx
      · exact h.near x hx y hy
  refine ⟨hnear, rankTotally_of_near (fun x hx ↦ ?_) hnear⟩
  rcases mem_cons.mp hx with rfl | hx
  · exact h.times.queue x (hqueue ▸ mem_cons_self)
  · exact h.times.heap x hx

/-- A step in range keeps the heap in order. -/
theorem step (h : HeapInOrder s) (hg : InRange s e) (hs : TimerStep s e s' outs) :
    HeapInOrder s' := by
  have htimes := h.times.step_normalized hs
  have hsub : ∀ {mTree : LocHeapNode LocTimerDelegate}, mTree.toList ⊆ s.mTree.toList →
      ∀ x ∈ mTree.toList, ∀ y ∈ mTree.toList, x.mFutureTime.Near y.mFutureTime :=
    fun hl x hx y hy ↦ h.near x (hl hx) y (hl hy)
  obtain heq | ⟨timer, queue, rfl, hidle, hqueue, heq⟩ | ⟨timer, heq⟩ | heq := hs.mTree_cases
  · exact ⟨htimes, heq ▸ h.near, heq ▸ h.ordered⟩
  · obtain ⟨hnear, htotal⟩ := h.totally_push hg hidle hqueue
    have hl : (s.mTree.push LocTimerDelegate.outRanks timer).toList ⊆ timer :: s.mTree.toList :=
      (LocHeapNode.toList_push timer s.mTree).subset
    refine ⟨htimes, ?_, ?_⟩
    · rw [heq]
      exact fun x hx y hy ↦ hnear x (hl hx) y (hl hy)
    · rw [heq]
      exact LocHeapNode.ordered_push h.ordered htotal
  · refine ⟨htimes, heq ▸ hsub fun x hx ↦ LocHeapNode.mem_of_mem_remove hx, ?_⟩
    rw [heq]
    cases hrem : s.mTree.remove LocTimerDelegate.outRanks timer with
    | none => exact h.ordered
    | some left => exact LocHeapNode.ordered_remove h.ordered h.totally hrem
  · refine ⟨htimes, heq ▸ hsub fun x hx ↦ LocHeapNode.mem_of_mem_popped hx, ?_⟩
    rw [heq]
    exact LocHeapNode.ordered_popped h.ordered h.totally

end HeapInOrder

end MataDevice.Timer
