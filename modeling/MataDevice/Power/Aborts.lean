import MataDevice.Power.InteractionHandler

/-!
# Aborted waits

An `Acquire` that asks for more than the one before, and that finds the worker waiting, cuts the
wait short: it writes the event descriptor, which the worker polls. The token must not outlive the
wait it is meant for, or it would cut short the next one, and it must not be taken back before that
wait has seen it.

The worker sets `WAITING` under the lock and only then calls `WaitForIdle`, so that an `Acquire` may
come in between. The wait then begins with its abort already there. Counter, state and the place of
the worker agree at every moment (`Synced`): the counter is 1 exactly while the state is
`INTERACTION` and the worker has a wait to finish.
-/

namespace MataDevice.Power

open List

/-- The worker has a wait to finish: it has set `WAITING` and has not called `Release`. -/
def Worker.Busy (w : Worker) : Prop := w = .unlocked ∨ w.InWait

/-- The steps of the worker. -/
def Event.IsWorker : Event → Bool
  | .wake | .waitForIdle | .poll _ | .pread _ | .idlePoll _ | .release => true
  | _ => false

namespace InteractionHandler

/-- The handler is not shut down. -/
def NoExit (_ : InteractionHandler) (e : Event) : Prop := e ≠ .exit

instance (s : InteractionHandler) (e : Event) : Decidable (s.NoExit e) :=
  inferInstanceAs (Decidable (_ ≠ _))

/-- Counter, state and worker agree. -/
def Synced (s : InteractionHandler) : Prop :=
  s.terminated = false ∧ s.closing = 0 ∧
    match s.mState with
    | .uninitialized => s.worker = .none
    | .idle => s.worker = .top ∧ s.mEventFd = some 0
    | .interaction =>
      (s.worker = .top ∧ s.mEventFd = some 0) ∨ (s.worker.Busy ∧ s.mEventFd = some 1)
    | .waiting => s.worker.Busy ∧ s.mEventFd = some 0

variable {s s' : InteractionHandler} {e : Event} {outs : List Output}

section

variable (h : s.Synced)
include h

theorem Synced.worker_ne_done : s.worker ≠ .done := by
  intro hw
  obtain ⟨-, -, h⟩ := h
  cases hstate : s.mState with
  | uninitialized | idle | interaction | waiting =>
    simp [hstate, hw, Worker.Busy, Worker.inWait_iff] at h

theorem Synced.init (opened : Bool) : (s.init opened).1.Synced := by
  rw [InteractionHandler.init]
  split
  · exact h
  · next hu =>
    rw [not_not] at hu
    obtain ⟨ht, hc, hw⟩ := h
    simp only [hu] at hw
    split
    · exact ⟨ht, hc, rfl, rfl⟩
    · exact ⟨ht, hc, by simp only [hu, hw]⟩

theorem Synced.acquire (duration : Int32) (curTimespec : Timespec) :
    (s.acquire duration curTimespec).1.Synced := by
  by_cases heffect : s.mState = .uninitialized ∨ s.Covered duration curTimespec
  · rw [acquire_of_covered heffect]
    exact h
  · obtain ⟨hu, hcov⟩ := not_or.mp heffect
    rw [acquire_of_not_covered hu hcov]
    obtain ⟨ht, hc, h⟩ := h
    refine ⟨ht, hc, ?_⟩
    cases hstate : s.mState with
    | uninitialized => exact absurd hstate hu
    | idle =>
      simp only [hstate] at h
      exact Or.inl h
    | interaction =>
      simp only [hstate] at h
      exact h
    | waiting =>
      simp only [hstate] at h
      refine Or.inr ⟨h.1, ?_⟩
      simp [h.2, EventFd.write]

theorem Synced.wake (htop : s.worker = .top) (hidle : s.mState ≠ .idle) :
    s.mState = .interaction ∧ s.wake = { s with mState := .waiting, worker := .unlocked } ∧
      s.mEventFd = some 0 := by
  obtain ⟨-, -, h⟩ := h
  cases hstate : s.mState with
  | uninitialized => simp [hstate, htop] at h
  | idle => exact absurd hstate hidle
  | interaction =>
    have hfd : s.mEventFd = some 0 := by simpa [hstate, htop, Worker.Busy, Worker.inWait_iff] using h
    exact ⟨rfl, by rw [InteractionHandler.wake, hstate, if_neg (by decide)], hfd⟩
  | waiting => simp [hstate, htop, Worker.Busy, Worker.inWait_iff] at h

/-- `Release` ends the wait, or clears the token that has cut it short. -/
theorem Synced.release (hw : s.worker = .returned) :
    (s.mState = .waiting ∧ s.release = ({ s with mState := .idle, worker := .top }, [.perfRel])) ∨
      (s.mState = .interaction ∧
        s.release = ({ s with mEventFd := some 0, worker := .top }, [])) := by
  obtain ⟨-, -, h⟩ := h
  cases hstate : s.mState with
  | uninitialized => simp [hstate, hw] at h
  | idle => simp [hstate, hw] at h
  | interaction =>
    have hfd : s.mEventFd = some 1 := by
      simpa [hstate, hw, Worker.Busy, Worker.inWait_iff] using h
    exact Or.inr ⟨rfl, by simp [InteractionHandler.release, hstate, hfd, EventFd.clear]⟩
  | waiting => exact Or.inl ⟨rfl, by simp [InteractionHandler.release, hstate]⟩

/-- A worker with a wait to finish moves on inside it. -/
theorem Synced.move {w : Worker} (hs : s.worker.Busy) (hw : w.Busy) :
    Synced { s with worker := w } := by
  obtain ⟨ht, hc, h⟩ := h
  refine ⟨ht, hc, ?_⟩
  cases hstate : s.mState with
  | uninitialized | idle =>
    simp only [hstate] at h
    simp [h, Worker.Busy, Worker.inWait_iff] at hs
  | interaction =>
    simp only [hstate] at h
    rcases h with ⟨htop, -⟩ | ⟨-, hfd⟩
    · simp [htop, Worker.Busy, Worker.inWait_iff] at hs
    · exact Or.inr ⟨hw, hfd⟩
  | waiting =>
    simp only [hstate] at h
    exact ⟨hw, h.2⟩

theorem Synced.wait (he : e.IsWait) (hs : s.step e = some (s', outs)) :
    s'.Synced := by
  obtain ⟨-, hw, -, w, hw', rfl⟩ := wait_of_step he hs
  exact h.move (Or.inr hw) (Or.inr hw')

end

theorem synced_initial : initial.Synced := ⟨rfl, rfl, rfl⟩

/-- One step keeps counter, state and worker together. -/
theorem Synced.step (h : s.Synced) (hg : s.NoExit e) (hs : s.step e = some (s', outs)) :
    s'.Synced := by
  cases e with
  | init opened =>
    have hnext := h.init opened
    rwa [(init_of_step hs).2] at hnext
  | acquire duration curTimespec =>
    have hnext := h.acquire duration curTimespec
    rwa [(acquire_of_step hs).2] at hnext
  | exit => exact absurd rfl hg
  | join => exact absurd (join_of_step hs).2.1 h.worker_ne_done
  | close =>
    have hc := (close_of_step hs).2.1
    rw [h.2.1] at hc
    exact absurd hc (lt_irrefl 0)
  | wake =>
    obtain ⟨ht, htop, hidle, rfl, rfl⟩ := wake_of_step hs
    obtain ⟨-, heq, hfd⟩ := h.wake htop hidle
    rw [heq]
    exact ⟨ht, h.2.1, Or.inl rfl, hfd⟩
  | waitForIdle =>
    obtain ⟨-, hw, rfl, -⟩ := waitForIdle_of_step hs
    exact h.move (Or.inl hw) (Or.inr trivial)
  | poll ret => exact h.wait (e := .poll ret) trivial hs
  | pread data => exact h.wait (e := .pread data) trivial hs
  | idlePoll ret => exact h.wait (e := .idlePoll ret) trivial hs
  | release =>
    obtain ⟨ht, hw, heq⟩ := release_of_step hs
    rcases h.release hw with ⟨hstate, hrel⟩ | ⟨hstate, hrel⟩
    · obtain ⟨rfl, -⟩ := Prod.mk.inj (hrel.symm.trans heq)
      have hfd : s.mEventFd = some 0 := by
        have hs := h.2.2
        simp only [hstate] at hs
        exact hs.2
      exact ⟨ht, h.2.1, rfl, hfd⟩
    · obtain ⟨rfl, -⟩ := Prod.mk.inj (hrel.symm.trans heq)
      refine ⟨ht, h.2.1, ?_⟩
      simp [hstate]

/-! ## What the history says about counter and duration -/

/-- Whether there was an abort since the worker last set `WAITING`. -/
def abortSinceWake : Item Event Output → Option Bool
  | .event .wake => some false
  | .out .abortWait => some true
  | _ => none

/-- The duration of an `Acquire` that is not covered by the one before. -/
def extension : Item Event Output → Option Int32
  | .out (.extended d) => some d
  | _ => none

/-- The counter belongs to the wait that is going on, and every wait is started with the duration of
the newest `Acquire` that was not covered. -/
structure Recorded (s : InteractionHandler) (hist : List (Item Event Output)) : Prop where
  synced : s.Synced
  aborted : s.mEventFd = some 1 → latest abortSinceWake hist = some true
  duration : s.Interacting → latest extension hist = some s.mDurationMs
  waits : Always (fun pre x ↦ ∀ d, x = .out (.waits d) → latest extension pre = some d) hist

variable {hist : List (Item Event Output)}

section

variable (h : s.Recorded hist)
include h

/-- A step that neither aborts, nor extends, nor starts a wait. -/
theorem Recorded.quiet (hsynced : s'.Synced) (hfd : s'.mEventFd = some 1 → s.mEventFd = some 1)
    (hduration : s'.mDurationMs = s.mDurationMs) (hinter : s'.Interacting → s.Interacting)
    (habort : s'.mEventFd = some 1 → ∀ x ∈ entry e outs, abortSinceWake x = none)
    (hquiet : ∀ x ∈ entry e outs, extension x = none ∧ ∀ d, x ≠ .out (.waits d)) :
    s'.Recorded (hist ++ entry e outs) where
  synced := hsynced
  aborted := fun h1 ↦ by rw [latest_append_of_none (habort h1), h.aborted (hfd h1)]
  duration := fun hi ↦ by
    rw [latest_append_of_none (fun x hx ↦ (hquiet x hx).1), h.duration (hinter hi), hduration]
  waits := by
    rw [always_append]
    exact ⟨h.waits, Always.of_forall fun x hx _ d hd ↦ absurd hd ((hquiet x hx).2 d)⟩

/-- A step without calls, and without effect on counter and duration. -/
theorem Recorded.silent (hsynced : s'.Synced)
    (hfd : s'.mEventFd = some 1 → s.mEventFd = some 1 ∧ e ≠ .wake)
    (hduration : s'.mDurationMs = s.mDurationMs) (hinter : s'.Interacting → s.Interacting) :
    s'.Recorded (hist ++ entry e []) := by
  refine h.quiet hsynced (fun h1 ↦ (hfd h1).1) hduration hinter (fun h1 ↦ ?_) ?_
  · simp only [entry, map_nil, mem_singleton, forall_eq]
    cases e with
    | wake => exact absurd rfl (hfd h1).2
    | _ => rfl
  · simp [entry, extension]

theorem Recorded.same (he : e ≠ .wake) : s.Recorded (hist ++ entry e []) :=
  h.silent h.synced (fun h1 ↦ ⟨h1, he⟩) rfl id

/-- An `Acquire` that is not covered records its duration, and with it the abort it causes. -/
theorem Recorded.extend {d : Int32} {calls : List Output}
    (hsynced : s'.Synced) (hduration : s'.mDurationMs = d)
    (hfd : s'.mEventFd = some 1 →
      (calls = [] ∧ s.mEventFd = some 1 ∧ e ≠ .wake) ∨ calls = [.abortWait])
    (hcalls : ∀ call ∈ calls, (∀ d, call ≠ .extended d) ∧ ∀ d, call ≠ .waits d) :
    s'.Recorded (hist ++ entry e (.extended d :: calls)) where
  synced := hsynced
  aborted := fun h1 ↦ by
    rcases hfd h1 with ⟨rfl, h0, he⟩ | rfl
    · rw [latest_append_of_none, h.aborted h0]
      simp only [entry, map_cons, map_nil, mem_cons, not_mem_nil, or_false,
        forall_eq_or_imp, forall_eq]
      refine ⟨?_, rfl⟩
      cases e with
      | wake => exact absurd rfl he
      | _ => rfl
    · rw [latest_append]
      rfl
  duration := fun _ ↦ by
    have hlast : ∀ x ∈ calls.map (Item.out (ε := Event)), extension x = none := by
      intro x hx
      obtain ⟨call, hcall, rfl⟩ := mem_map.mp hx
      cases call with
      | extended d' => exact absurd rfl ((hcalls _ hcall).1 d')
      | _ => rfl
    rw [entry, map_cons, ← singleton_append, ← singleton_append (l := calls.map _),
      ← append_assoc, ← append_assoc, latest_append_of_none hlast, latest_concat,
      hduration]
    rfl
  waits := by
    rw [always_append]
    refine ⟨h.waits, Always.of_forall fun x hx _ d' hd' ↦ ?_⟩
    subst hd'
    simp only [entry, mem_cons, mem_map, reduceCtorEq, Item.out.injEq, false_or] at hx
    obtain ⟨call, hcall | hcall, rfl⟩ := hx
    · cases hcall
    · exact absurd rfl ((hcalls _ hcall).2 d')

theorem Recorded.wait (he : e.IsWait) (hs : s.step e = some (s', outs)) :
    s'.Recorded (hist ++ entry e outs) := by
  have hsynced := h.synced.wait he hs
  obtain ⟨-, -, rfl, w, -, rfl⟩ := wait_of_step he hs
  refine h.silent hsynced (fun h1 ↦ ⟨h1, ?_⟩) rfl id
  rintro rfl
  exact he.elim

theorem Recorded.waitForIdle (hinter : s.Interacting)
    (hsynced : Synced { s with worker := .polling s.mDurationMs }) :
    Recorded { s with worker := .polling s.mDurationMs }
      (hist ++ entry .waitForIdle [.waits s.mDurationMs]) := by
  have hquiet : ∀ x ∈ entry .waitForIdle [Output.waits s.mDurationMs],
      abortSinceWake x = none ∧ extension x = none := by
    simp [entry, abortSinceWake, extension]
  exact {
    synced := hsynced
    aborted := fun h1 ↦ by
      rw [latest_append_of_none (fun x hx ↦ (hquiet x hx).1), h.aborted h1]
    duration := fun _ ↦ by
      rw [latest_append_of_none (fun x hx ↦ (hquiet x hx).2), h.duration hinter]
    waits := by
      rw [append_entry, map_singleton, always_concat, always_concat]
      refine ⟨⟨h.waits, by simp⟩, fun d hd ↦ ?_⟩
      obtain rfl := Output.waits.inj (Item.out.inj hd)
      rw [latest_concat, h.duration hinter]
      rfl }

theorem Recorded.acquire (duration : Int32) (curTimespec : Timespec) :
    (s.acquire duration curTimespec).1.Recorded
      (hist ++ entry (.acquire duration curTimespec) (s.acquire duration curTimespec).2) := by
  have hsynced := h.synced.acquire duration curTimespec
  by_cases heffect : s.mState = .uninitialized ∨ s.Covered duration curTimespec
  · rw [acquire_of_covered heffect]
    exact h.same (by simp)
  · obtain ⟨hu, hcov⟩ := not_or.mp heffect
    rw [acquire_of_not_covered hu hcov] at hsynced ⊢
    refine h.extend hsynced (by simp only) ?_ ?_
    · cases hstate : s.mState with
      | uninitialized => exact absurd hstate hu
      | idle =>
        have hfd : s.mEventFd = some 0 := by
          have hidle := h.synced.2.2
          simp only [hstate] at hidle
          exact hidle.2
        simp [hfd]
      | interaction | waiting => simp
    · split
      · simp
      · split
        · simp
        · simp

end

theorem recorded_initial : initial.Recorded [] where
  synced := synced_initial
  aborted := by decide
  duration := by decide
  waits := always_nil _

theorem Recorded.step (h : s.Recorded hist) (hg : s.NoExit e) (hs : s.step e = some (s', outs)) :
    s'.Recorded (hist ++ entry e outs) := by
  have hsynced := h.synced.step hg hs
  cases e with
  | init opened =>
    obtain ⟨-, heq⟩ := init_of_step hs
    rw [InteractionHandler.init] at heq
    split at heq
    · obtain ⟨rfl, rfl⟩ := Prod.mk.inj heq
      exact h.same (by simp)
    · split at heq
      · split at heq
        · obtain ⟨rfl, rfl⟩ := Prod.mk.inj heq
          exact h.silent hsynced (by simp) rfl (by simp [Interacting])
        · obtain ⟨rfl, rfl⟩ := Prod.mk.inj heq
          exact h.silent hsynced (by simp) rfl (by simp [Interacting])
      · obtain ⟨rfl, rfl⟩ := Prod.mk.inj heq
        exact h.same (by simp)
  | acquire duration curTimespec =>
    have hnext := h.acquire duration curTimespec
    rwa [(acquire_of_step hs).2] at hnext
  | exit => exact absurd rfl hg
  | join => exact absurd (join_of_step hs).2.1 h.synced.worker_ne_done
  | close =>
    have hc := (close_of_step hs).2.1
    rw [h.synced.2.1] at hc
    exact absurd hc (lt_irrefl 0)
  | wake =>
    obtain ⟨ht, htop, hidle, rfl, rfl⟩ := wake_of_step hs
    obtain ⟨hstate, heq, hfd⟩ := h.synced.wake htop hidle
    refine h.silent hsynced ?_ ?_ (fun _ ↦ Or.inl hstate)
    · simp [heq, hfd]
    · rw [heq]
  | waitForIdle =>
    obtain ⟨-, hw, rfl, rfl⟩ := waitForIdle_of_step hs
    -- the worker only waits in the states that have a duration
    have hinter : s.Interacting := by
      have hstate := h.synced.2.2
      cases heq : s.mState with
      | uninitialized => simp [heq, hw] at hstate
      | idle => simp [heq, hw] at hstate
      | interaction => exact Or.inl heq
      | waiting => exact Or.inr heq
    exact h.waitForIdle hinter hsynced
  | poll ret => exact h.wait (e := .poll ret) trivial hs
  | pread data => exact h.wait (e := .pread data) trivial hs
  | idlePoll ret => exact h.wait (e := .idlePoll ret) trivial hs
  | release =>
    obtain ⟨ht, hw, heq⟩ := release_of_step hs
    rcases h.synced.release hw with ⟨hstate, hrel⟩ | ⟨hstate, hrel⟩
    · obtain ⟨rfl, rfl⟩ := Prod.mk.inj (hrel.symm.trans heq)
      refine h.quiet hsynced id rfl (by simp [Interacting]) ?_ (by simp [entry, extension])
      simp [entry, abortSinceWake]
    · obtain ⟨rfl, rfl⟩ := Prod.mk.inj (hrel.symm.trans heq)
      exact h.silent hsynced (by simp) rfl (fun _ ↦ Or.inl hstate)

theorem recorded_of_run (h : Run step NoExit initial hist s) : s.Recorded hist := by
  refine h.invariant (I := fun hist s ↦ s.Recorded hist) recorded_initial ?_
  intro hist s e s' outs hI hg hs
  exact hI.step hg hs

/-! ## From an abort to the next wait -/

/-- What the worker has done since an `Acquire` has superseded its wait. -/
inductive Stage
  | aborted
  | released
  | woken
  | waits (timeoutMs : Int32)
  deriving DecidableEq

def Stage.next : Stage → Item Event Output → Stage
  | .aborted, .event .release => .released
  | .released, .event .wake => .woken
  | .woken, .out (.waits d) => .waits d
  | st, _ => st

def stage (hist : List (Item Event Output)) : Stage := hist.foldl Stage.next .aborted

theorem stage_append (hist l : List (Item Event Output)) :
    stage (hist ++ l) = l.foldl Stage.next (stage hist) := foldl_append ..

/-- The steps the worker has taken. -/
def workerSteps (hist : List (Item Event Output)) : ℕ := (eventsOf hist).countP Event.IsWorker

theorem workerSteps_append_entry (hist : List (Item Event Output)) (e : Event)
    (outs : List Output) :
    workerSteps (hist ++ entry e outs) = workerSteps hist + if e.IsWorker then 1 else 0 := by
  rw [workerSteps, eventsOf_append_entry, countP_append, countP_singleton, workerSteps]

/-- Since the superseding `Acquire`: its token stays until the wait it is meant for has returned and
`Release` has cleared it; then the worker starts a new wait with the duration of that moment. It is
never blocked until then, and has started the new wait after five steps. -/
structure Superseded (s : InteractionHandler) (hist : List (Item Event Output)) : Prop where
  readable : stage hist = .aborted → s.worker.Busy ∧ s.mEventFd.readable = true
  cleared : stage hist = .released → s.mEventFd = some 0
  waits : stage hist = .woken →
    s.step .waitForIdle =
      some ({ s with worker := .polling s.mDurationMs }, [.waits s.mDurationMs])
  notBlocked : (∀ d, stage hist ≠ .waits d) →
    ∃ e, e.IsWorker = true ∧ (s.step e).isSome = true
  starts : 5 ≤ workerSteps hist → ∃ d, stage hist = .waits d

/-- The steps of the worker up to the new wait, while the token is there. -/
def stepsLeft : Worker → ℕ
  | .unlocked | .reading _ => 5
  | .polling _ | .idlePolling _ => 4
  | .returned => 3
  | _ => 0

@[simp] theorem stepsLeft_unlocked : stepsLeft .unlocked = 5 := rfl

@[simp] theorem stepsLeft_polling (d : Int32) : stepsLeft (.polling d) = 4 := rfl

@[simp] theorem stepsLeft_reading (d : Int32) : stepsLeft (.reading d) = 5 := rfl

@[simp] theorem stepsLeft_idlePolling (d : Int32) : stepsLeft (.idlePolling d) = 4 := rfl

@[simp] theorem stepsLeft_returned : stepsLeft .returned = 3 := rfl

theorem stepsLeft_le (w : Worker) : stepsLeft w ≤ 5 := by
  cases w with
  | unlocked => exact le_refl 5
  | polling d => exact Nat.le_succ 4
  | reading d => exact le_refl 5
  | idlePolling d => exact Nat.le_succ 4
  | returned => exact Nat.le_add_right 3 2
  | none | top | done => exact Nat.zero_le 5

/-- Where worker and state are at each stage. -/
def AtStage (s : InteractionHandler) (hist : List (Item Event Output)) : Prop :=
  match stage hist with
  | .aborted =>
    s.mState = .interaction ∧ s.worker.Busy ∧ workerSteps hist + stepsLeft s.worker ≤ 5
  | .released => s.mState = .interaction ∧ s.worker = .top ∧ workerSteps hist ≤ 3
  | .woken => s.worker = .unlocked ∧ workerSteps hist ≤ 4
  | .waits _ => True

theorem Synced.eventFd_of_busy (h : s.Synced) (hstate : s.mState = .interaction)
    (hbusy : s.worker.Busy) : s.mEventFd = some 1 := by
  obtain ⟨-, -, h⟩ := h
  simp only [hstate] at h
  rcases h with ⟨htop, -⟩ | ⟨-, hfd⟩
  · simp [htop, Worker.Busy, Worker.inWait_iff] at hbusy
  · exact hfd

/-- A wait with its token ends. -/
theorem stepsLeft_lt (he : e.IsWait) (hfd : s.mEventFd.readable = true)
    (hs : s.step e = some (s', outs)) : stepsLeft s'.worker < stepsLeft s.worker := by
  cases e with
  | poll ret =>
    rw [InteractionHandler.step] at hs
    split at hs
    · next hw =>
      simp only [hfd, if_true, Option.ite_none_left_eq_some] at hs
      obtain ⟨-, hs⟩ := hs
      cases ret with
      | eventFd | error =>
        obtain ⟨rfl, -⟩ := some_pair_inj hs
        simp [hw]
      | idleFd | timedOut => cases hs
    · cases hs
  | pread data =>
    rw [InteractionHandler.step] at hs
    split at hs
    · next hw =>
      obtain ⟨-, hs⟩ := Option.ite_none_left_eq_some.mp hs
      split at hs
      all_goals
        obtain ⟨rfl, -⟩ := some_pair_inj hs
        simp [hw]
    · cases hs
  | idlePoll ret =>
    rw [InteractionHandler.step] at hs
    split at hs
    · next hw =>
      simp only [Option.ite_none_left_eq_some] at hs
      obtain ⟨-, -, -, hs⟩ := hs
      obtain ⟨rfl, -⟩ := some_pair_inj hs
      simp [hw]
    · cases hs
  | _ => exact he.elim

/-- A caller neither moves the worker nor takes an interaction back. -/
theorem caller_step (h : s.Synced) (hg : s.NoExit e) (he : e.IsWorker = false)
    (hu : s.mState ≠ .uninitialized) (hs : s.step e = some (s', outs)) :
    s'.worker = s.worker ∧ (s.mState = .interaction → s'.mState = .interaction) ∧
      ∀ st, (entry e outs).foldl Stage.next st = st := by
  cases e with
  | init opened =>
    have heq := (init_of_step hs).2
    rw [InteractionHandler.init, if_pos hu] at heq
    obtain ⟨rfl, rfl⟩ := Prod.mk.inj heq
    exact ⟨rfl, id, fun st ↦ by cases st <;> rfl⟩
  | acquire duration curTimespec =>
    have heq := (acquire_of_step hs).2
    by_cases hcov : s.Covered duration curTimespec
    · rw [acquire_of_covered (Or.inr hcov)] at heq
      obtain ⟨rfl, rfl⟩ := Prod.mk.inj heq
      exact ⟨rfl, id, fun st ↦ by cases st <;> rfl⟩
    · rw [acquire_of_not_covered hu hcov] at heq
      obtain ⟨rfl, rfl⟩ := Prod.mk.inj heq
      refine ⟨rfl, fun _ ↦ rfl, fun st ↦ ?_⟩
      cases s.mState with
      | uninitialized | idle | interaction | waiting => cases st <;> rfl
  | exit => exact absurd rfl hg
  | join => exact absurd (join_of_step hs).2.1 h.worker_ne_done
  | close =>
    have hc := (close_of_step hs).2.1
    rw [h.2.1] at hc
    exact absurd hc (lt_irrefl 0)
  | wake | waitForIdle | poll _ | pread _ | idlePoll _ | release => cases he

theorem Synced.state_of_busy (h : s.Synced) (hbusy : s.worker.Busy) : s.Interacting := by
  obtain ⟨-, -, h⟩ := h
  cases hstate : s.mState with
  | uninitialized | idle =>
    simp only [hstate] at h
    simp [h, Worker.Busy, Worker.inWait_iff] at hbusy
  | interaction => exact Or.inl hstate
  | waiting => exact Or.inr hstate

theorem Interacting.ne_uninitialized (h : s.Interacting) : s.mState ≠ .uninitialized := by
  rcases h with h | h
  all_goals simp [h]

theorem foldl_next_waits (l : List (Item Event Output)) (d : Int32) :
    l.foldl Stage.next (.waits d) = .waits d := by
  induction l with
  | nil => rfl
  | cons x l ih => exact ih

/-- Each place of the worker has its step. -/
theorem worker_step (he : e.IsWorker = true) (hs : s.step e = some (s', outs)) :
    (e = .wake ∧ s.worker = .top) ∨ (e = .waitForIdle ∧ s.worker = .unlocked) ∨
      (e.IsWait ∧ s.worker.InWait) ∨ (e = .release ∧ s.worker = .returned) := by
  cases e with
  | wake => exact Or.inl ⟨rfl, (wake_of_step hs).2.1⟩
  | waitForIdle => exact Or.inr (Or.inl ⟨rfl, (waitForIdle_of_step hs).2.1⟩)
  | poll ret =>
    have hw := (wait_of_step (e := .poll ret) trivial hs).2.1
    exact Or.inr (Or.inr (Or.inl ⟨trivial, hw⟩))
  | pread data =>
    have hw := (wait_of_step (e := .pread data) trivial hs).2.1
    exact Or.inr (Or.inr (Or.inl ⟨trivial, hw⟩))
  | idlePoll ret =>
    have hw := (wait_of_step (e := .idlePoll ret) trivial hs).2.1
    exact Or.inr (Or.inr (Or.inl ⟨trivial, hw⟩))
  | release => exact Or.inr (Or.inr (Or.inr ⟨rfl, (release_of_step hs).2.1⟩))
  | _ => cases he

/-- Events of the wait do not end a stage. -/
theorem foldl_next_wait (he : e.IsWait) (st : Stage) :
    (entry e ([] : List Output)).foldl Stage.next st = st := by
  cases e with
  | poll _ | pread _ | idlePoll _ => cases st <;> rfl
  | _ => exact he.elim

/-- The worker finishes the wait that was superseded. -/
theorem AtStage.aborted_step (hsynced : s.Synced) (he : e.IsWorker = true)
    (hs : s.step e = some (s', outs)) (hstage : stage hist = .aborted)
    (hstate : s.mState = .interaction) (hbusy : s.worker.Busy)
    (hleft : workerSteps hist + stepsLeft s.worker ≤ 5) : s'.AtStage (hist ++ entry e outs) := by
  rw [AtStage, stage_append, workerSteps_append_entry, hstage, he, if_pos rfl]
  rcases worker_step he hs with ⟨-, htop⟩ | ⟨rfl, hw⟩ | ⟨hwait, -⟩ | ⟨rfl, hw⟩
  · simp [htop, Worker.Busy, Worker.inWait_iff] at hbusy
  · obtain ⟨-, -, rfl, rfl⟩ := waitForIdle_of_step hs
    have hnext : (entry .waitForIdle [Output.waits s.mDurationMs]).foldl Stage.next .aborted =
      .aborted := rfl
    rw [hw] at hleft
    rw [hnext]
    exact ⟨hstate, Or.inr trivial, by simpa [add_assoc] using hleft⟩
  · have hfd : s.mEventFd.readable = true := by
      rw [hsynced.eventFd_of_busy hstate hbusy]
      rfl
    have hlt := stepsLeft_lt hwait hfd hs
    obtain ⟨-, -, rfl, w, hw, rfl⟩ := wait_of_step hwait hs
    rw [foldl_next_wait hwait]
    exact ⟨hstate, Or.inr hw, by simp only at hlt ⊢; omega⟩
  · obtain ⟨-, -, heq⟩ := release_of_step hs
    rcases hsynced.release hw with ⟨hstate', -⟩ | ⟨-, hrel⟩
    · rw [hstate] at hstate'
      cases hstate'
    · obtain ⟨rfl, rfl⟩ := Prod.mk.inj (hrel.symm.trans heq)
      have hnext : (entry .release ([] : List Output)).foldl Stage.next .aborted = .released := rfl
      rw [hw, stepsLeft_returned] at hleft
      rw [hnext]
      exact ⟨hstate, rfl, by omega⟩

/-- The worker sets `WAITING` again. -/
theorem AtStage.released_step (hsynced : s.Synced) (he : e.IsWorker = true)
    (hs : s.step e = some (s', outs)) (hstage : stage hist = .released)
    (htop : s.worker = .top) (hleft : workerSteps hist ≤ 3) :
    s'.AtStage (hist ++ entry e outs) := by
  rw [AtStage, stage_append, workerSteps_append_entry, hstage, he, if_pos rfl]
  rcases worker_step he hs with ⟨rfl, -⟩ | ⟨-, hw⟩ | ⟨-, hw⟩ | ⟨-, hw⟩
  · obtain ⟨-, -, hidle, rfl, rfl⟩ := wake_of_step hs
    have hnext : (entry .wake ([] : List Output)).foldl Stage.next .released = .woken := rfl
    rw [(hsynced.wake htop hidle).2.1, hnext]
    exact ⟨rfl, Nat.succ_le_succ hleft⟩
  · simp [htop] at hw
  · simp [htop, Worker.inWait_iff] at hw
  · simp [htop] at hw

/-- The worker starts the new wait. -/
theorem AtStage.woken_step (he : e.IsWorker = true) (hs : s.step e = some (s', outs))
    (hstage : stage hist = .woken) (hwoken : s.worker = .unlocked) :
    s'.AtStage (hist ++ entry e outs) := by
  rw [AtStage, stage_append, hstage]
  rcases worker_step he hs with ⟨-, hw⟩ | ⟨rfl, -⟩ | ⟨-, hw⟩ | ⟨-, hw⟩
  · simp [hwoken] at hw
  · obtain ⟨-, -, rfl, rfl⟩ := waitForIdle_of_step hs
    trivial
  · simp [hwoken, Worker.inWait_iff] at hw
  · simp [hwoken] at hw

/-- One step keeps worker and state where the stage says. -/
theorem AtStage.step (h : s.AtStage hist) (hsynced : s.Synced) (hg : s.NoExit e)
    (hs : s.step e = some (s', outs)) : s'.AtStage (hist ++ entry e outs) := by
  rw [AtStage] at h
  cases he : e.IsWorker with
  | true =>
    cases hstage : stage hist with
    | aborted =>
      simp only [hstage] at h
      exact AtStage.aborted_step hsynced he hs hstage h.1 h.2.1 h.2.2
    | released =>
      simp only [hstage] at h
      exact AtStage.released_step hsynced he hs hstage h.2.1 h.2.2
    | woken =>
      simp only [hstage] at h
      exact AtStage.woken_step he hs hstage h.1
    | waits d =>
      rw [AtStage, stage_append, hstage, foldl_next_waits]
      trivial
  | false =>
    -- a caller leaves worker and stage alone
    rw [AtStage, stage_append, workerSteps_append_entry, he]
    cases hstage : stage hist with
    | aborted =>
      simp only [hstage] at h
      obtain ⟨hw, hi, hnext⟩ := caller_step hsynced hg he (by simp [h.1]) hs
      rw [hnext]
      simp only [hw]
      exact ⟨hi h.1, h.2⟩
    | released =>
      simp only [hstage] at h
      obtain ⟨hw, hi, hnext⟩ := caller_step hsynced hg he (by simp [h.1]) hs
      rw [hnext]
      exact ⟨hi h.1, hw.trans h.2.1, h.2.2⟩
    | woken =>
      simp only [hstage] at h
      have hu := (hsynced.state_of_busy (Or.inl h.1)).ne_uninitialized
      obtain ⟨hw, -, hnext⟩ := caller_step hsynced hg he hu hs
      rw [hnext]
      exact ⟨hw.trans h.1, h.2⟩
    | waits d =>
      rw [foldl_next_waits]
      trivial

/-- With its token there, or with `WAITING` to set, the worker is not blocked. -/
theorem exists_step_of_busy (h : s.Synced) (hbusy : s.worker.Busy)
    (hfd : s.mEventFd.readable = true) : ∃ e, e.IsWorker = true ∧ (s.step e).isSome = true := by
  have ht := h.1
  rcases hbusy with hw | hw
  · exact ⟨.waitForIdle, rfl, by simp [InteractionHandler.step, ht, hw]⟩
  · cases hworker : s.worker with
    | polling d => exact ⟨.poll .eventFd, rfl, by simp [InteractionHandler.step, ht, hworker, hfd]⟩
    | reading d => exact ⟨.pread .idle, rfl, by simp [InteractionHandler.step, ht, hworker]⟩
    | idlePolling d =>
      exact ⟨.idlePoll .eventFd, rfl, by simp [InteractionHandler.step, ht, hworker, hfd]⟩
    | returned => exact ⟨.release, rfl, by simp [InteractionHandler.step, ht, hworker]⟩
    | none | top | unlocked | done =>
      rw [hworker] at hw
      exact hw.elim

theorem AtStage.superseded (h : s.AtStage hist) (hsynced : s.Synced) : s.Superseded hist := by
  have ht := hsynced.1
  rw [AtStage] at h
  cases hstage : stage hist with
  | aborted =>
    simp only [hstage] at h
    have hfd := hsynced.eventFd_of_busy h.1 h.2.1
    have hreadable : s.mEventFd.readable = true := by rw [hfd]; rfl
    refine ⟨fun _ ↦ ⟨h.2.1, hreadable⟩, by simp [hstage], by simp [hstage],
      fun _ ↦ exists_step_of_busy hsynced h.2.1 hreadable, fun h5 ↦ ?_⟩
    have hpos : 0 < stepsLeft s.worker := by
      rcases h.2.1 with hw | hw
      · rw [hw]
        decide
      · cases hworker : s.worker with
        | polling d | reading d | idlePolling d | returned => simp
        | none | top | unlocked | done =>
          rw [hworker] at hw
          exact hw.elim
    omega
  | released =>
    simp only [hstage] at h
    obtain ⟨hstate, htop, hleft⟩ := h
    refine ⟨by simp [hstage], fun _ ↦ (hsynced.wake htop (by simp [hstate])).2.2, by simp [hstage],
      fun _ ↦ ⟨.wake, rfl, by simp [InteractionHandler.step, ht, htop, hstate]⟩, fun h5 ↦ ?_⟩
    omega
  | woken =>
    simp only [hstage] at h
    obtain ⟨hw, hleft⟩ := h
    have hwaits : s.step .waitForIdle =
        some ({ s with worker := .polling s.mDurationMs }, [.waits s.mDurationMs]) := by
      simp [InteractionHandler.step, ht, hw]
    refine ⟨by simp [hstage], by simp [hstage], fun _ ↦ hwaits,
      fun _ ↦ ⟨.waitForIdle, rfl, by simp [hwaits]⟩, fun h5 ↦ ?_⟩
    omega
  | waits d =>
    exact ⟨by simp [hstage], by simp [hstage], by simp [hstage], fun hne ↦ absurd hstage (hne d),
      fun _ ↦ ⟨d, hstage⟩⟩

/-- What follows an `Acquire` that supersedes a wait. -/
theorem superseded_of_run {s₁ : InteractionHandler} {duration : Int32} {curTimespec : Timespec}
    (h : s.Synced) (hwaiting : s.mState = .waiting) (hcov : ¬s.Covered duration curTimespec)
    (hs : s.step (.acquire duration curTimespec) = some (s₁, outs))
    (hrun : Run step NoExit s₁ hist s') : s'.Superseded hist := by
  have hsynced : s₁.Synced := h.step (by simp [NoExit]) hs
  have hbusy : s.worker.Busy := by
    have hstate := h.2.2
    simp only [hwaiting] at hstate
    exact hstate.1
  have heq := (acquire_of_step hs).2
  rw [acquire_of_not_covered (by simp [hwaiting]) hcov] at heq
  obtain ⟨rfl, -⟩ := Prod.mk.inj heq
  have hleft := stepsLeft_le s.worker
  have hstart : AtStage { s with
      mState := .interaction
      mEventFd := if s.mState = .waiting then s.mEventFd.write else s.mEventFd
      mDurationMs := finalDuration duration
      mLastTimespec := curTimespec } [] :=
    ⟨rfl, hbusy, by simpa [workerSteps] using hleft⟩
  have hinv := hrun.invariant (I := fun hist s ↦ s.Synced ∧ s.AtStage hist) ⟨hsynced, hstart⟩ ?_
  · exact hinv.2.superseded hinv.1
  · rintro hist s e s' outs ⟨hsynced, hstage⟩ hg hs
    exact ⟨hsynced.step hg hs, hstage.step hsynced hg hs⟩

/-- Aborts are neither stale nor lost, in every run without `Exit`. When the worker sets `WAITING`
the counter is 0, and if it is not 0 when the worker calls `WaitForIdle`, an `Acquire` has written
it in between, to abort this wait. -/
theorem aborts_of_run (h : Run step NoExit initial hist s) :
    (∀ s' outs, s.step .wake = some (s', outs) → s'.mState = .waiting ∧ s'.mEventFd = some 0) ∧
      (s.worker = .unlocked → s.mEventFd = some 0 ∨ latest abortSinceWake hist = some true) ∧
      (∀ duration curTimespec s₁ outs, s.mState = .waiting → ¬s.Covered duration curTimespec →
        s.step (.acquire duration curTimespec) = some (s₁, outs) →
        ∀ hist' s', Run step NoExit s₁ hist' s' → s'.Superseded hist') ∧
      Always (fun pre x ↦ ∀ d, x = .out (.waits d) → latest extension pre = some d) hist := by
  have hrec := recorded_of_run h
  refine ⟨?_, ?_, ?_, hrec.waits⟩
  · intro s' outs hs
    obtain ⟨-, htop, hidle, rfl, -⟩ := wake_of_step hs
    obtain ⟨-, heq, hfd⟩ := hrec.synced.wake htop hidle
    rw [heq]
    exact ⟨rfl, hfd⟩
  · intro hw
    rcases hrec.synced.state_of_busy (Or.inl hw) with hstate | hstate
    · exact Or.inr (hrec.aborted (hrec.synced.eventFd_of_busy hstate (Or.inl hw)))
    · have hwaiting := hrec.synced.2.2
      simp only [hstate] at hwaiting
      exact Or.inl hwaiting.2
  · intro duration curTimespec s₁ outs hwaiting hcov hs hist' s' hrun
    exact superseded_of_run hrec.synced hwaiting hcov hs hrun

/-- An interaction is superseded between the two `poll`s of its wait, and a new one while the worker
is on its way into the next wait. -/
theorem aborts_of_run_superseded :
    ∃ hist s, Run step NoExit initial hist s ∧
      (s.worker = .unlocked ∧ outsOf hist = [.extended 1650, .perfLock, .waits 1650,
        .extended 4650, .abortWait, .extended 5650, .abortWait]) ∧
      (s.mEventFd = some 0 ∨ latest abortSinceWake hist = some true) := by
  obtain ⟨hist, s, hrun, hend⟩ := Run.exists_of_runEvents step NoExit initial
    [.init true, .acquire 1000 ⟨5, 0⟩, .wake, .waitForIdle, .poll .timedOut, .acquire 4000 ⟨5, 0⟩,
      .pread .other, .idlePoll .eventFd, .release, .wake, .acquire 9000 ⟨6, 0⟩]
    (fun hist s ↦ s.worker = .unlocked ∧ outsOf hist = [.extended 1650, .perfLock,
      .waits 1650, .extended 4650, .abortWait, .extended 5650, .abortWait])
    (by decide +kernel)
  exact ⟨hist, s, hrun, hend, (aborts_of_run hrun).2.1 hend.1⟩

/-- The counter need not be 0 when the worker calls `WaitForIdle`. -/
theorem not_counter_zero_of_waitForIdle :
    ¬∀ hist s, Run step NoExit initial hist s →
      ∀ s' outs, s.step .waitForIdle = some (s', outs) → s.mEventFd = some 0 := by
  intro hzero
  obtain ⟨hist, s, hrun, hsome, hfd⟩ := Run.exists_of_runEvents step NoExit initial
    [.init true, .acquire 1000 ⟨5, 0⟩, .wake, .acquire 9000 ⟨5, 0⟩]
    (fun _ s ↦ (s.step .waitForIdle).isSome ∧ s.mEventFd = some 1) (by decide +kernel)
  obtain ⟨⟨s', outs⟩, hs⟩ := Option.isSome_iff_exists.mp hsome
  have h0 := hzero hist s hrun s' outs hs
  rw [hfd] at h0
  cases h0

end InteractionHandler

end MataDevice.Power
