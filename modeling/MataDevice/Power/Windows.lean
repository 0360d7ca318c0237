import MataDevice.Power.InteractionHandler

/-!
# A skipped interaction is covered

An `Acquire` that is not skipped opens a window, which begins then and is as long as the interaction
and its bounds say. One that finds the window open long enough is skipped: nothing is left to do up to
the millisecond that the two clock readings are rounded by.

The length is computed in 32 bits. For the longest interactions the sum wraps, and what should be the
longest window is the shortest one. The rest of the arithmetic is right: the elapsed time is not
negative although its second part may be, and neither is the difference of the two lengths it is
compared with.
-/

namespace MataDevice.Power

open List

/-! ## Durations and times -/

/-- The length of the window of an interaction, in exact arithmetic -/
def exactDuration (duration : Int32) : ℤ := max 1400 (min 5650 (duration.toInt + 650))

theorem toInt_add_650 {duration : Int32} (h : duration.toInt + 650 < 2 ^ 31) :
    (duration + 650).toInt = duration.toInt + 650 := by
  have hle := duration.le_toInt
  rw [Int32.toInt_add]
  exact Int.bmod_eq_of_le (by change _ ≤ duration.toInt + 650; omega)
    (by change duration.toInt + 650 < _; omega)

/-- The sum of a long interaction is negative. -/
theorem toInt_add_650_neg {duration : Int32} (h : 2 ^ 31 ≤ duration.toInt + 650) :
    (duration + 650).toInt < 0 := by
  have hlt := duration.toInt_lt
  rw [Int32.toInt_add, Int.bmod_def]
  change (if (duration.toInt + 650) % (2 ^ 32 : ℕ) < ((2 ^ 32 : ℕ) + 1) / 2 then _ else _) < (0 : ℤ)
  rw [if_neg (by omega)]
  change (duration.toInt + 650) % (2 ^ 32 : ℕ) - (2 ^ 32 : ℕ) < 0
  omega

theorem toInt_finalDuration (duration : Int32) : (finalDuration duration).toInt =
    max 1400 (min 5650 (duration + 650).toInt) := by
  have hmax : mMaxDurationMs.toInt = 5650 := rfl
  have hmin : mMinDurationMs.toInt = 1400 := rfl
  rw [finalDuration]
  split
  · next hgt =>
    rw [gt_iff_lt, Int32.lt_iff_toInt_lt] at hgt
    omega
  · next hle =>
    rw [gt_iff_lt, Int32.lt_iff_toInt_lt] at hle
    split
    · next hgt =>
      rw [gt_iff_lt, Int32.lt_iff_toInt_lt] at hgt
      omega
    · next hle' =>
      rw [gt_iff_lt, Int32.lt_iff_toInt_lt] at hle'
      omega

/-- The length is the exact one if the sum does not wrap. -/
theorem toInt_finalDuration_eq_iff (duration : Int32) :
    (finalDuration duration).toInt = exactDuration duration ↔ duration.toInt + 650 < 2 ^ 31 := by
  rw [toInt_finalDuration, exactDuration]
  constructor
  · intro heq
    by_contra hge
    have hneg := toInt_add_650_neg (Int.not_lt.mp hge)
    omega
  · intro hlt
    rw [toInt_add_650 hlt]

namespace Timespec

variable {start stop : Timespec}

def toNs (t : Timespec) : ℤ := t.tvSec * 1000000000 + t.tvNsec

/-- What the clock gives: its milliseconds are a `long`, and its nanoseconds are less than a
second. -/
def Valid (t : Timespec) : Prop :=
  0 ≤ t.tvSec ∧ t.tvSec * 1000 < 2 ^ 63 ∧ 0 ≤ t.tvNsec ∧ t.tvNsec < 1000000000

instance (t : Timespec) : Decidable t.Valid := inferInstanceAs (Decidable (_ ∧ _))

/-- The elapsed milliseconds are rounded by less than one. -/
theorem lt_calcTimespecDiffMs (hstart : start.Valid) (hstop : stop.Valid)
    (hle : start.toNs ≤ stop.toNs) :
    stop.toNs - start.toNs < ((calcTimespecDiffMs start stop).toNat + 1) * 1000000 := by
  obtain ⟨hsec, -, hnsec, hnsec'⟩ := hstart
  obtain ⟨-, hsec', hnsec'', hnsec'''⟩ := hstop
  rw [toNs, toNs] at *
  generalize hdiff : stop.tvNsec - start.tvNsec = diff at *
  have hlt := Int.tmod_lt_of_pos diff (by decide : (0 : ℤ) < 1000000)
  have hgt := Int.lt_tmod_of_pos diff (by decide : (0 : ℤ) < 1000000)
  have hdiv := Int.tdiv_mul_add_tmod diff 1000000
  have hms : (calcTimespecDiffMs start stop).toNat =
      ((stop.tvSec - start.tvSec) * 1000 + diff.tdiv 1000000).toNat := by
    rw [calcTimespecDiffMs, hdiff, ← UInt64.ofInt_add, UInt64.ofInt, UInt64.toNat_ofNat']
    omega
  rw [hms, Int.toNat_of_nonneg (by omega)]
  omega

end Timespec

/-! ## Windows -/

/-- The clock reading of an `Acquire` -/
def Event.time : Event → Option Timespec
  | .acquire _ curTimespec => some curTimespec
  | _ => none

/-- The clock readings of the calls of a history -/
def times (hist : List (Item Event Output)) : List Timespec := (eventsOf hist).filterMap Event.time

/-- The clock is valid and does not go back. -/
def Monotonic (times : List Timespec) : Prop :=
  (∀ t ∈ times, t.Valid) ∧ times.Pairwise fun t t' ↦ t.toNs ≤ t'.toNs

instance (times : List Timespec) : Decidable (Monotonic times) :=
  inferInstanceAs (Decidable (_ ∧ _))

/-- What is known of the windows after some items: the last clock reading, and when the last window
began and how long it is -/
structure Windows where
  now : Timespec
  last : Option (Timespec × Int32)

/-- A window is opened by the `Acquire` that logs its length. -/
def Windows.next (w : Windows) : Item Event Output → Windows
  | .event (.acquire _ curTimespec) => { w with now := curTimespec }
  | .out (.extended duration) => { w with last := some (w.now, duration) }
  | _ => w

/-- The last window that was opened -/
def lastWindow (hist : List (Item Event Output)) : Option (Timespec × Int32) :=
  (hist.foldl Windows.next ⟨⟨0, 0⟩, none⟩).last

namespace InteractionHandler

variable {hist : List (Item Event Output)} {s s' : InteractionHandler} {e : Event}
  {outs : List Output} {duration : Int32} {curTimespec : Timespec}

theorem foldl_next_outs (w : Windows) (h : ∀ d, Output.extended d ∉ outs) :
    (outs.map Item.out).foldl Windows.next w = w := by
  induction outs with
  | nil => rfl
  | cons out outs ih =>
    have hnext : w.next (.out out) = w := by
      cases out with
      | extended d => exact absurd mem_cons_self (h d)
      | perfLock | perfRel | abortWait | waits | exitReturned => rfl
    rw [map_cons, foldl_cons, hnext]
    exact ih fun d hmem ↦ h d (mem_cons_of_mem _ hmem)

/-- Only an `Acquire` that logs its length opens a window. -/
theorem lastWindow_append_entry (h : ∀ d, Output.extended d ∉ outs) :
    lastWindow (hist ++ entry e outs) = lastWindow hist := by
  rw [lastWindow, foldl_append, entry, foldl_cons, foldl_next_outs _ h, lastWindow]
  cases e <;> rfl

theorem lastWindow_append_acquire (d : Int32) (h : ∀ d, Output.extended d ∉ outs) :
    lastWindow (hist ++ entry (.acquire duration curTimespec) (.extended d :: outs)) =
      some (curTimespec, d) := by
  rw [lastWindow, foldl_append, entry, map_cons, foldl_cons, foldl_cons,
    foldl_next_outs _ h]
  rfl

/-- What a step can do to the window. -/
inductive WindowStep (s s' : InteractionHandler) : Event → List Output → Prop
  | keep {e : Event} {outs : List Output} (hlast : s'.mLastTimespec = s.mLastTimespec)
    (hduration : s'.mDurationMs = s.mDurationMs) (hinter : s'.Interacting → s.Interacting)
    (houts : ∀ d, Output.extended d ∉ outs) : WindowStep s s' e outs
  | extend {duration : Int32} {curTimespec : Timespec} {outs : List Output}
    (hlast : s'.mLastTimespec = curTimespec) (hduration : s'.mDurationMs = finalDuration duration)
    (houts : ∀ d, Output.extended d ∉ outs) :
    WindowStep s s' (.acquire duration curTimespec) (.extended (finalDuration duration) :: outs)

theorem windowStep_of_step (h : s.step e = some (s', outs)) : WindowStep s s' e outs := by
  cases e with
  | init opened =>
    obtain ⟨-, heq⟩ := init_of_step h
    rw [init] at heq
    split at heq
    · obtain ⟨rfl, rfl⟩ := Prod.mk.inj heq
      exact .keep rfl rfl id (by simp)
    · split at heq
      · -- a handler that is new begins in `IDLE`
        split at heq
        · obtain ⟨rfl, rfl⟩ := Prod.mk.inj heq
          exact .keep rfl rfl (by simp [Interacting]) (by simp)
        · obtain ⟨rfl, rfl⟩ := Prod.mk.inj heq
          exact .keep rfl rfl (by simp [Interacting]) (by simp)
      · obtain ⟨rfl, rfl⟩ := Prod.mk.inj heq
        exact .keep rfl rfl id (by simp)
  | acquire duration curTimespec =>
    obtain ⟨-, heq⟩ := acquire_of_step h
    by_cases heffect : s.mState = .uninitialized ∨ s.Covered duration curTimespec
    · rw [acquire_of_covered heffect] at heq
      obtain ⟨rfl, rfl⟩ := Prod.mk.inj heq
      exact .keep rfl rfl id (by simp)
    · obtain ⟨hu, hcov⟩ := not_or.mp heffect
      rw [acquire_of_not_covered hu hcov] at heq
      obtain ⟨rfl, rfl⟩ := Prod.mk.inj heq
      refine .extend rfl (by dsimp only) fun d hmem ↦ ?_
      split at hmem
      · simp at hmem
      · split at hmem <;> simp at hmem
  | exit =>
    obtain ⟨-, heq⟩ := exit_of_step h
    rw [exit] at heq
    split at heq
    · obtain ⟨rfl, rfl⟩ := Prod.mk.inj heq
      exact .keep rfl rfl id (by simp)
    · obtain ⟨rfl, rfl⟩ := Prod.mk.inj heq
      exact .keep rfl rfl (by simp [Interacting]) (by simp)
  | join =>
    obtain ⟨-, -, rfl, rfl⟩ := join_of_step h
    exact .keep rfl rfl id (by simp)
  | close =>
    obtain ⟨-, -, rfl, rfl⟩ := close_of_step h
    exact .keep rfl rfl id (by simp)
  | wake =>
    obtain ⟨-, -, hidle, rfl, rfl⟩ := wake_of_step h
    have hinter : s.mState ≠ .uninitialized → s.Interacting := by
      intro hu
      cases hstate : s.mState with
      | uninitialized => exact absurd hstate hu
      | idle => exact absurd hstate hidle
      | interaction => exact Or.inl hstate
      | waiting => exact Or.inr hstate
    rw [wake]
    split
    · exact .keep rfl rfl id (by simp)
    · next hu => exact .keep rfl rfl (fun _ ↦ hinter hu) (by simp)
  | waitForIdle =>
    obtain ⟨-, -, rfl, rfl⟩ := waitForIdle_of_step h
    exact .keep rfl rfl id (by simp)
  | poll ret =>
    obtain ⟨-, -, rfl, w, -, rfl⟩ := wait_of_step (e := .poll ret) trivial h
    exact .keep rfl rfl id (by simp)
  | pread data =>
    obtain ⟨-, -, rfl, w, -, rfl⟩ := wait_of_step (e := .pread data) trivial h
    exact .keep rfl rfl id (by simp)
  | idlePoll ret =>
    obtain ⟨-, -, rfl, w, -, rfl⟩ := wait_of_step (e := .idlePoll ret) trivial h
    exact .keep rfl rfl id (by simp)
  | release =>
    obtain ⟨-, -, heq⟩ := release_of_step h
    rw [release] at heq
    split at heq
    · obtain ⟨rfl, rfl⟩ := Prod.mk.inj heq
      exact .keep rfl rfl (by simp [Interacting]) (by simp)
    · obtain ⟨rfl, rfl⟩ := Prod.mk.inj heq
      exact .keep rfl rfl id (by simp)

/-- While the boost is held, the members are those of the last window. -/
def Recent (hist : List (Item Event Output)) (s : InteractionHandler) : Prop :=
  s.Interacting → lastWindow hist = some (s.mLastTimespec, s.mDurationMs) ∧
    s.mLastTimespec ∈ times hist

theorem times_append_entry : times (hist ++ entry e outs) = times hist ++ e.time.toList := by
  rw [times, eventsOf_append_entry, filterMap_append, times]
  cases e <;> rfl

theorem Recent.step (h : Recent hist s) (hs : s.step e = some (s', outs)) :
    Recent (hist ++ entry e outs) s' := by
  intro hinter
  cases windowStep_of_step hs with
  | keep hlast hduration hinter' houts =>
    obtain ⟨hwindow, hmem⟩ := h (hinter' hinter)
    rw [lastWindow_append_entry houts, hlast, hduration, times_append_entry]
    exact ⟨hwindow, mem_append_left _ hmem⟩
  | extend hlast hduration houts =>
    rw [lastWindow_append_acquire _ houts, hlast, hduration, times_append_entry]
    exact ⟨rfl, mem_append_right _ (mem_singleton.mpr rfl)⟩

theorem recent_of_run (h : Run step (fun _ _ ↦ True) initial hist s) : Recent hist s := by
  refine h.invariant (I := Recent) ?_ fun hI _ hs ↦ hI.step hs
  intro hinter
  revert hinter
  decide

/-- What an `Acquire` should do: its length is the exact one, also in the state, and it is skipped only
if the last window is open that long, up to a millisecond. -/
structure Exact (hist : List (Item Event Output)) (s s' : InteractionHandler) (outs : List Output)
    (duration : Int32) (curTimespec : Timespec) : Prop where
  used : (finalDuration duration).toInt = exactDuration duration
  restarted : outs ≠ [] → s'.mDurationMs.toInt = exactDuration duration
  skipped : outs = [] → ∃ start, lastWindow hist = some (start, s.mDurationMs) ∧
    curTimespec.toNs + exactDuration duration * 1000000 - 1000000 ≤
      start.toNs + s.mDurationMs.toInt * 1000000

theorem interacting_of_covered (hu : s.mState ≠ .uninitialized)
    (hcov : s.Covered duration curTimespec) : s.Interacting := by
  cases hstate : s.mState with
  | uninitialized => exact absurd hstate hu
  | idle => exact absurd hstate hcov.1
  | interaction => exact Or.inl hstate
  | waiting => exact Or.inr hstate

/-- The two lengths and their difference are in the range of either type. -/
theorem elapsed_le_of_covered (hcov : s.Covered duration curTimespec) :
    ((calcTimespecDiffMs s.mLastTimespec curTimespec).toNat : ℤ) ≤
      s.mDurationMs.toInt - (finalDuration duration).toInt := by
  obtain ⟨-, hle, helapsed⟩ := hcov
  rw [Int32.le_iff_toInt_le] at hle
  have hlt := s.mDurationMs.toInt_lt
  have hfinal := toInt_finalDuration duration
  have hsub : (s.mDurationMs - finalDuration duration).toInt =
      s.mDurationMs.toInt - (finalDuration duration).toInt := by
    rw [Int32.toInt_sub]
    exact Int.bmod_eq_of_le (by omega) (by omega)
  rw [hsub, UInt64.le_iff_toNat_le, UInt64.ofInt, UInt64.toNat_ofNat'] at helapsed
  omega

/-- The last window is open until the skipped interaction ends, up to a millisecond. -/
theorem window_of_covered (hstart : s.mLastTimespec.Valid) (hnow : curTimespec.Valid)
    (hle : s.mLastTimespec.toNs ≤ curTimespec.toNs) (hcov : s.Covered duration curTimespec) :
    curTimespec.toNs + (finalDuration duration).toInt * 1000000 - 1000000 ≤
      s.mLastTimespec.toNs + s.mDurationMs.toInt * 1000000 := by
  have helapsed := elapsed_le_of_covered hcov
  have hround := Timespec.lt_calcTimespecDiffMs hstart hnow hle
  omega

/-- In every run, an `Acquire` of an initialised handler does what it should if and only if its
duration leaves room for the addition. -/
theorem acquire_exact_iff (hrun : Run step (fun _ _ ↦ True) initial hist s)
    (htimes : Monotonic (times hist ++ [curTimespec])) (hu : s.mState ≠ .uninitialized)
    (hs : s.step (.acquire duration curTimespec) = some (s', outs)) :
    Exact hist s s' outs duration curTimespec ↔ duration.toInt + 650 < 2 ^ 31 := by
  constructor
  · intro hexact
    exact (toInt_finalDuration_eq_iff duration).mp hexact.used
  · intro hlt
    have hused := (toInt_finalDuration_eq_iff duration).mpr hlt
    obtain ⟨-, heq⟩ := acquire_of_step hs
    by_cases hcov : s.Covered duration curTimespec
    · rw [acquire_of_covered (Or.inr hcov)] at heq
      obtain ⟨rfl, rfl⟩ := Prod.mk.inj heq
      obtain ⟨hwindow, hmem⟩ := recent_of_run hrun (interacting_of_covered hu hcov)
      obtain ⟨hvalid, hsorted⟩ := htimes
      have hnow := mem_append_right (times hist) (mem_singleton_self curTimespec)
      have hle := (pairwise_append.mp hsorted).2.2 _ hmem _ (mem_singleton_self _)
      have hopen := window_of_covered (hvalid _ (mem_append_left _ hmem)) (hvalid _ hnow) hle hcov
      rw [hused] at hopen
      exact ⟨hused, fun hne ↦ absurd rfl hne, fun _ ↦ ⟨s.mLastTimespec, hwindow, hopen⟩⟩
    · rw [acquire_of_not_covered hu hcov] at heq
      obtain ⟨rfl, rfl⟩ := Prod.mk.inj heq
      refine ⟨hused, fun _ ↦ ?_, fun hnil ↦ absurd hnil (cons_ne_nil _ _)⟩
      dsimp only
      exact hused

/-- A handler whose longest window has begun -/
def extended : InteractionHandler :=
  ⟨.interaction, some 0, 5650, ⟨5, 300000000⟩, .top, 0, false⟩

theorem run_extended : ∃ hist, Run step (fun _ _ ↦ True) initial hist extended ∧
    times hist = [⟨5, 300000000⟩] ∧ lastWindow hist = some (⟨5, 300000000⟩, 5650) := by
  obtain ⟨hist, s, hrun, rfl, htimes, hlast⟩ :=
    Run.exists_of_runEvents step (fun _ _ ↦ True) initial
    [.init true, .acquire 9000 ⟨5, 300000000⟩]
    (fun hist s ↦ s = extended ∧ times hist = [⟨5, 300000000⟩] ∧
      lastWindow hist = some (⟨5, 300000000⟩, 5650)) (by decide +kernel)
  exact ⟨hist, hrun, htimes, hlast⟩

/-- A second interaction, 3.9 s later, that ends 0.1 s before the window does -/
theorem acquire_exact_iff_skipped : ∃ hist, Run step (fun _ _ ↦ True) initial hist extended ∧
    extended.step (.acquire 1000 ⟨9, 200000000⟩) = some (extended, []) ∧
    Exact hist extended extended [] 1000 ⟨9, 200000000⟩ := by
  obtain ⟨hist, hrun, htimes, -⟩ := run_extended
  have hstep : extended.step (.acquire 1000 ⟨9, 200000000⟩) = some (extended, []) := by
    decide +kernel
  refine ⟨hist, hrun, hstep, (acquire_exact_iff hrun ?_ (by decide) hstep).mpr (by decide)⟩
  rw [htimes]
  decide

/-- The longest interaction is skipped although the window is open for less than 2 s. -/
theorem not_acquire_exact :
    ¬∀ hist s s' outs duration curTimespec, Run step (fun _ _ ↦ True) initial hist s →
      Monotonic (times hist ++ [curTimespec]) → s.mState ≠ .uninitialized →
      s.step (.acquire duration curTimespec) = some (s', outs) →
      Exact hist s s' outs duration curTimespec := by
  intro h
  obtain ⟨hist, hrun, htimes, hlast⟩ := run_extended
  have hexact := h hist extended extended [] 2147483647 ⟨9, 200000000⟩ hrun
    (by rw [htimes]; decide) (by decide) (by decide +kernel)
  obtain ⟨start, hstart, hopen⟩ := hexact.skipped rfl
  rw [hlast] at hstart
  obtain ⟨rfl, -⟩ := some_pair_inj hstart
  revert hopen
  decide

end InteractionHandler

end MataDevice.Power
