import MataDevice.Power.InteractionHandler

/-!
# The boost is given back

`PerfLock` and `PerfRel` switch the boost on and off. The two calls alternate, and the boost is held
exactly in the states `INTERACTION` and `WAITING`, as long as `Exit` is not called in one of these
two: it leaves the state and never calls `PerfRel`. What makes the rest work is that the boost and
the state only change together, under the lock.
-/

namespace MataDevice.Power

/-- What a call does to the boost. -/
def Output.boost : Output → Option Bool
  | .perfLock => some true
  | .perfRel => some false
  | _ => none

/-- The boost is held after these calls. -/
def Held (calls : List Output) : Prop := latest Output.boost calls = some true

instance (calls : List Output) : Decidable (Held calls) := inferInstanceAs (Decidable (_ = _))

/-- `PerfLock` is only called while the boost is not held and `PerfRel` while it is: the two
alternate, and the first one is `PerfLock`. -/
def Alternates (calls : List Output) : Prop :=
  Always (fun pre call ↦ (call = .perfLock → ¬Held pre) ∧ (call = .perfRel → Held pre)) calls

/-- A call without effect on the boost. -/
theorem held_append {calls calls' : List Output} (h : ∀ call ∈ calls', call.boost = none) :
    Held (calls ++ calls') ↔ Held calls := by
  rw [Held, latest_append_of_none h, Held]

theorem Alternates.append {calls calls' : List Output} (h : Alternates calls)
    (h' : ∀ call ∈ calls', call.boost = none) : Alternates (calls ++ calls') := by
  rw [Alternates, always_append]
  refine ⟨h, Always.of_forall fun call hcall pre ↦ ⟨?_, ?_⟩⟩
  · rintro rfl
    exact absurd (h' _ hcall) (by decide)
  · rintro rfl
    exact absurd (h' _ hcall) (by decide)

theorem held_concat {calls : List Output} {call : Output} {on : Bool} (h : call.boost = some on) :
    Held (calls ++ [call]) ↔ on = true := by
  rw [Held, latest_concat, h, Option.some_or, Option.some_inj]

namespace InteractionHandler

/-- The boost is balanced. -/
structure Balanced (s : InteractionHandler) (hist : List (Item Event Output)) : Prop where
  alternates : Alternates (outsOf hist)
  /-- While the handler is initialised, the boost is held in the two states. -/
  held_iff : s.mState ≠ .uninitialized → (Held (outsOf hist) ↔ s.Interacting)
  /-- The boost is not held when `Exit` returns. -/
  exitReturned : Always (fun pre call ↦ call = .exitReturned → ¬Held pre) (outsOf hist)
  /-- The boost is not held until the handler is initialised again. -/
  not_held : s.mState = .uninitialized → ¬Held (outsOf hist)

/-- `Exit` is called while no interaction is going on, and `Init` does not come between the `join`
of an `Exit` and its return. -/
def ExitsIdle (s : InteractionHandler) : Event → Prop
  | .exit => ¬s.Interacting
  | .init opened => opened = true → s.mState = .uninitialized → s.closing = 0
  | _ => True

instance (s : InteractionHandler) : ∀ e, Decidable (s.ExitsIdle e)
  | .exit => inferInstanceAs (Decidable (¬_))
  | .init _ => inferInstanceAs (Decidable (_ → _ → _))
  | .acquire .. | .join | .close | .wake | .waitForIdle | .poll _ | .pread _ | .idlePoll _
  | .release => inferInstanceAs (Decidable True)

/-- What a run keeps: boost and state agree, and the handler stays uninitialised from the moment the
worker has ended until `Exit` returns. -/
structure Agrees (s : InteractionHandler) (hist : List (Item Event Output)) : Prop where
  alternates : Alternates (outsOf hist)
  held_iff : Held (outsOf hist) ↔ s.Interacting
  exitReturned : Always (fun pre call ↦ call = .exitReturned → ¬Held pre) (outsOf hist)
  ended : s.terminated = false → s.worker = .done ∨ 0 < s.closing → s.mState = .uninitialized

variable {hist : List (Item Event Output)} {s s' : InteractionHandler} {e : Event}
  {outs : List Output}

theorem Agrees.balanced (h : s.Agrees hist) : s.Balanced hist where
  alternates := h.alternates
  held_iff := fun _ ↦ h.held_iff
  exitReturned := h.exitReturned
  not_held := by
    intro hu hheld
    rcases h.held_iff.mp hheld with hi | hw
    · rw [hu] at hi
      cases hi
    · rw [hu] at hw
      cases hw

/-- A step without effect on the boost. It may end an `Exit` while no interaction is going on. -/
theorem Agrees.quiet (h : s.Agrees hist) (hquiet : ∀ call ∈ outs, call.boost = none)
    (hexit : .exitReturned ∈ outs → ¬s.Interacting) (hiff : s'.Interacting ↔ s.Interacting)
    (hended : s'.terminated = false → s'.worker = .done ∨ 0 < s'.closing →
      s'.mState = .uninitialized) : s'.Agrees (hist ++ entry e outs) where
  alternates := by
    rw [outsOf_append_entry]
    exact h.alternates.append hquiet
  held_iff := by rw [outsOf_append_entry, held_append hquiet, hiff, h.held_iff]
  exitReturned := by
    rw [outsOf_append_entry, always_append]
    refine ⟨h.exitReturned, ?_⟩
    rintro pre call post rfl rfl
    have hpre : ∀ call ∈ pre, call.boost = none := fun call hcall ↦
      hquiet call (List.mem_append_left _ hcall)
    rw [held_append hpre, h.held_iff]
    exact hexit (by simp)
  ended := hended

/-- A step whose last call switches the boost over. -/
theorem Agrees.switch (outs : List Output) (call : Output) {on : Bool} (h : s.Agrees hist)
    (hquiet : ∀ call ∈ outs, call.boost = none) (hexit : .exitReturned ∉ outs)
    (hcall : call.boost = some on) (hold : s.Interacting ↔ on = false)
    (hnew : s'.Interacting ↔ on = true)
    (hended : s'.terminated = false → ¬(s'.worker = .done ∨ 0 < s'.closing)) :
    s'.Agrees (hist ++ entry e (outs ++ [call])) where
  alternates := by
    rw [outsOf_append_entry, ← List.append_assoc, Alternates, always_concat]
    refine ⟨h.alternates.append hquiet, ?_⟩
    rw [held_append hquiet, h.held_iff, hold]
    constructor
    · rintro rfl
      cases hcall
      simp
    · rintro rfl
      cases hcall
      rfl
  held_iff := by rw [outsOf_append_entry, ← List.append_assoc, held_concat hcall, hnew]
  exitReturned := by
    rw [outsOf_append_entry, ← List.append_assoc, always_concat]
    constructor
    · rw [always_append]
      refine ⟨h.exitReturned, Always.of_forall ?_⟩
      rintro _ hmem - rfl
      exact absurd hmem hexit
    · rintro rfl
      cases hcall
  ended := fun ht hd ↦ absurd hd (hended ht)

/-- A step that leaves the state alone, and with it the boost. -/
theorem Agrees.idleStep (h : s.Agrees hist) (hstate : s'.mState = s.mState)
    (hterm : s'.terminated = s.terminated) (hclosing : s'.closing = s.closing)
    (hworker : s'.worker = .done → s.worker = .done ∨ s.mState = .uninitialized)
    (houts : ∀ call ∈ outs, call.boost = none ∧ call ≠ .exitReturned) :
    s'.Agrees (hist ++ entry e outs) := by
  refine h.quiet (fun call hcall ↦ (houts call hcall).1)
    (fun hmem ↦ absurd rfl (houts _ hmem).2) ?_ ?_
  · rw [Interacting, Interacting, hstate]
  · rw [hstate, hterm, hclosing]
    rintro ht (hd | hc)
    · rcases hworker hd with hd | hu
      · exact h.ended ht (Or.inl hd)
      · exact hu
    · exact h.ended ht (Or.inr hc)

/-- While the handler is initialised, its worker runs and no `Exit` is about to return. -/
theorem Agrees.running (h : s.Agrees hist) (ht : s.terminated = false)
    (hu : s.mState ≠ .uninitialized) : ¬(s.worker = .done ∨ 0 < s.closing) :=
  fun hd ↦ hu (h.ended ht hd)

theorem Agrees.init (h : s.Agrees hist) (opened : Bool) (hg : s.ExitsIdle (.init opened)) :
    (s.init opened).1.Agrees (hist ++ entry e (s.init opened).2) := by
  have hsame : s.Agrees (hist ++ entry e []) :=
    h.idleStep rfl rfl rfl Or.inl (by simp)
  rw [InteractionHandler.init]
  split
  · exact hsame
  · next hu =>
    rw [not_not] at hu
    have hidle : ¬s.Interacting := by simp [Interacting, hu]
    split
    · next hopened =>
      -- the boost is not held before, nor in the new state `IDLE`
      split
      · refine h.quiet (by simp) (by simp) (by simp [Interacting, hu]) ?_
        simp [hg hopened hu]
      · exact h.quiet (by simp) (by simp) (by simp [Interacting, hu]) (by simp)
    · exact hsame

theorem Agrees.acquire (h : s.Agrees hist) (ht : s.terminated = false) (duration : Int32)
    (curTimespec : Timespec) :
    (s.acquire duration curTimespec).1.Agrees
      (hist ++ entry e (s.acquire duration curTimespec).2) := by
  by_cases heffect : s.mState = .uninitialized ∨ s.Covered duration curTimespec
  · rw [acquire_of_covered heffect]
    exact h.idleStep rfl rfl rfl Or.inl (by simp)
  · obtain ⟨hu, hcov⟩ := not_or.mp heffect
    have hrun := h.running ht hu
    rw [acquire_of_not_covered hu hcov]
    cases hstate : s.mState with
    | uninitialized => exact absurd hstate hu
    | idle =>
      exact h.switch [.extended (finalDuration duration)] .perfLock (by simp [Output.boost])
        (by simp) rfl (by simp [Interacting, hstate])
        (by simp [Interacting]) (fun _ ↦ hrun)
    | interaction | waiting =>
      exact h.quiet (by simp [Output.boost]) (by simp) (by simp [Interacting, hstate])
        (fun _ hd ↦ absurd hd hrun)

theorem Agrees.exit (h : s.Agrees hist) (hg : s.ExitsIdle .exit) :
    s.exit.1.Agrees (hist ++ entry e s.exit.2) := by
  rw [InteractionHandler.exit]
  split
  · exact h.quiet (by simp [Output.boost]) (fun _ ↦ hg) Iff.rfl h.ended
  · refine h.quiet (by simp [Output.boost]) (by simp) ?_ (fun _ _ ↦ rfl)
    exact iff_of_false (by simp [Interacting]) hg

theorem Agrees.release (h : s.Agrees hist) (ht : s.terminated = false) :
    s.release.1.Agrees (hist ++ entry e s.release.2) := by
  rw [InteractionHandler.release]
  split
  · next hw =>
    have hrun := h.running ht (by simp [hw])
    refine h.switch [] .perfRel (by simp) (by simp) rfl
      (by simp [Interacting, hw]) (by simp [Interacting]) (fun _ hd ↦ ?_)
    rcases hd with hd | hc
    · cases hd
    · exact hrun (Or.inr hc)
  · exact h.idleStep rfl rfl rfl (by simp) (by simp)

theorem Agrees.wake (h : s.Agrees hist) (ht : s.terminated = false) (hidle : s.mState ≠ .idle) :
    s.wake.Agrees (hist ++ entry e []) := by
  rw [InteractionHandler.wake]
  split
  · next hu => exact h.idleStep rfl rfl rfl (fun _ ↦ Or.inr hu) (by simp)
  · next hu =>
    have hinter : s.Interacting := by
      cases hstate : s.mState with
      | uninitialized => exact absurd hstate hu
      | idle => exact absurd hstate hidle
      | interaction => exact Or.inl hstate
      | waiting => exact Or.inr hstate
    refine h.quiet (by simp) (by simp) (iff_of_true (Or.inr rfl) hinter) (fun _ hd ↦ ?_)
    rcases hd with hd | hc
    · cases hd
    · exact absurd (Or.inr hc) (h.running ht hu)

theorem Agrees.wait (h : s.Agrees hist) (he : e.IsWait) (hs : s.step e = some (s', outs)) :
    s'.Agrees (hist ++ entry e outs) := by
  obtain ⟨-, -, rfl, w, hw, rfl⟩ := wait_of_step he hs
  refine h.idleStep rfl rfl rfl ?_ (by simp)
  rintro rfl
  exact hw.elim

theorem agrees_initial : initial.Agrees [] where
  alternates := always_nil _
  held_iff := by decide
  exitReturned := always_nil _
  ended := by decide

/-- One step keeps boost and state together. -/
theorem Agrees.step (h : s.Agrees hist) (hg : s.ExitsIdle e) (hs : s.step e = some (s', outs)) :
    s'.Agrees (hist ++ entry e outs) := by
  cases e with
  | init opened =>
    obtain ⟨-, heq⟩ := init_of_step hs
    have hnext := h.init (e := .init opened) opened hg
    rwa [heq] at hnext
  | acquire duration curTimespec =>
    obtain ⟨ht, heq⟩ := acquire_of_step hs
    have hnext := h.acquire (e := .acquire duration curTimespec) ht duration curTimespec
    rwa [heq] at hnext
  | exit =>
    obtain ⟨-, heq⟩ := exit_of_step hs
    have hnext := h.exit (e := .exit) hg
    rwa [heq] at hnext
  | join =>
    obtain ⟨ht, hd, rfl, rfl⟩ := join_of_step hs
    have hu := h.ended ht (Or.inl hd)
    exact h.quiet (by simp) (by simp) Iff.rfl (fun _ _ ↦ hu)
  | close =>
    obtain ⟨ht, hc, rfl, rfl⟩ := close_of_step hs
    have hu := h.ended ht (Or.inr hc)
    exact h.quiet (by simp [Output.boost]) (fun _ ↦ by simp [Interacting, hu]) Iff.rfl
      (fun _ _ ↦ hu)
  | wake =>
    obtain ⟨ht, -, hidle, rfl, rfl⟩ := wake_of_step hs
    exact h.wake ht hidle
  | waitForIdle =>
    obtain ⟨-, -, rfl, rfl⟩ := waitForIdle_of_step hs
    exact h.idleStep rfl rfl rfl (by simp) (by simp [Output.boost])
  | poll ret => exact h.wait trivial hs
  | pread data => exact h.wait trivial hs
  | idlePoll ret => exact h.wait trivial hs
  | release =>
    obtain ⟨ht, -, heq⟩ := release_of_step hs
    have hnext := h.release (e := .release) ht
    rwa [heq] at hnext

/-- In every run that calls `Exit` only while no interaction is going on, the boost is balanced. -/
theorem balanced_of_run (h : Run step ExitsIdle initial hist s) : s.Balanced hist := by
  refine Agrees.balanced (h.invariant (I := fun hist s ↦ s.Agrees hist) agrees_initial ?_)
  intro hist s e s' outs hI hg hs
  exact hI.step hg hs

/-- An interaction that is superseded, runs out and is followed by an `Exit` and a new `Init`. -/
theorem balanced_of_run_exit :
    ∃ hist s, Run step ExitsIdle initial hist s ∧
      (outsOf hist = [.extended 1650, .perfLock, .extended 5650, .abortWait, .waits 5650,
        .waits 5650, .perfRel, .abortWait, .exitReturned] ∧ s.mState = .idle) ∧
      s.Balanced hist := by
  obtain ⟨hist, s, hrun, hend⟩ := Run.exists_of_runEvents step ExitsIdle initial
    [.init true, .acquire 1000 ⟨5, 0⟩, .wake, .acquire 9000 ⟨5, 0⟩, .waitForIdle, .poll .eventFd,
      .release, .wake, .waitForIdle, .poll .timedOut, .pread .idle, .release, .exit, .wake, .join,
      .close, .init true]
    (fun hist s ↦ outsOf hist = [.extended 1650, .perfLock, .extended 5650, .abortWait,
      .waits 5650, .waits 5650, .perfRel, .abortWait, .exitReturned] ∧ s.mState = .idle)
    (by decide +kernel)
  exact ⟨hist, s, hrun, hend, balanced_of_run hrun⟩

/-- `Exit` in the middle of an interaction returns while the boost is held. -/
theorem not_balanced :
    ¬∀ hist s, Run step (fun _ _ ↦ True) initial hist s → s.Balanced hist := by
  intro hbalanced
  obtain ⟨hist, s, hrun, hend⟩ := Run.exists_of_runEvents step (fun _ _ ↦ True) initial
    [.init true, .acquire 1000 ⟨5, 0⟩, .exit, .wake, .join, .close]
    (fun hist _ ↦ outsOf hist = [.extended 1650, .perfLock, .abortWait, .exitReturned])
    (by decide +kernel)
  have hexit := (hbalanced hist s hrun).exitReturned
  rw [hend] at hexit
  exact hexit [.extended 1650, .perfLock, .abortWait] .exitReturned [] rfl rfl (by decide)

end InteractionHandler

end MataDevice.Power
