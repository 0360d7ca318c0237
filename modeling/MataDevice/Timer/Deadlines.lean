import MataDevice.Timer.Steps

/-!
# The deadlines of the C interface

`loc_timer_start` takes its delay as a `uint64_t` and hands it to `LocTimer::start` as an
`unsigned int`, so that of a delay of 2³² milliseconds or more only the remainder is left.
`LocTimerDelegate::ranks` takes the difference of two times in seconds as an `int`. The clock alone
leaves room for times that are 2³¹ seconds and more apart, and these rank the wrong way round.
-/

namespace MataDevice.Timer

/-- `loc_timer_start` with a callback, for the `LocTimerWrapper` that it makes -/
def locTimerStart (s : TimerSystem) (timer : ℕ) (msec : UInt64) :
    TimerSystem × Option LocTimerDelegate :=
  s.start timer msec.toUInt32

/-- A call of `loc_timer_start`. The wrapper that it makes has not been started. -/
structure TimerStart where
  system : TimerSystem
  timer : ℕ
  new : system.mTimer timer = none
  tvSec_nonneg : 0 ≤ system.clock.tvSec
  tvSec_lt : system.clock.tvSec < 2 ^ 31
  normalized : system.clock.Normalized
  msec : UInt64

/-- A time in nanoseconds -/
def Timespec.toNsec (t : Timespec) : ℤ := t.tvSec * 1000000000 + t.tvNsec

namespace TimerStart

variable (a b : TimerStart)

/-- The delegate that the call makes -/
def delegate : LocTimerDelegate :=
  ⟨a.system.nextAddress, a.system.clock.after a.msec.toUInt32⟩

/-- The whole seconds of the time at which the low 32 bits of the delay are over -/
def seconds : ℤ :=
  (a.system.clock.toNsec + (a.msec.toNat % 2 ^ 32 : ℕ) * 1000000) / 1000000000

theorem locTimerStart_snd : (locTimerStart a.system a.timer a.msec).2 = some a.delegate := by
  rw [locTimerStart, TimerSystem.start, a.new]
  rfl

end TimerStart

/-! ## Times -/

theorem Timespec.toNsec_after (now : Timespec) (timeOutInMs : UInt32) :
    (now.after timeOutInMs).toNsec = now.toNsec + timeOutInMs.toNat * 1000000 := by
  have hdiv : (timeOutInMs / 1000).toNat = timeOutInMs.toNat / 1000 := UInt32.toNat_div ..
  have hmod : (timeOutInMs % 1000).toNat = timeOutInMs.toNat % 1000 := UInt32.toNat_mod ..
  rw [Timespec.after, hdiv, hmod, Timespec.toNsec, Timespec.toNsec]
  split
  · dsimp only
    omega
  · dsimp only
    omega

theorem Timespec.Normalized.tvSec_eq {t : Timespec} (h : t.Normalized) :
    t.tvSec = t.toNsec / 1000000000 := by
  obtain ⟨h0, h1⟩ := h
  rw [Timespec.toNsec]
  omega

/-- The sign of the rank says which of two delegates expires first. -/
structure RanksExact (x y : LocTimerDelegate) : Prop where
  pos_iff : 0 < delegateRanks x y ↔ x.mFutureTime.toNsec < y.mFutureTime.toNsec
  neg_iff : delegateRanks x y < 0 ↔ y.mFutureTime.toNsec < x.mFutureTime.toNsec

/-- A difference that is not an `int` becomes one of the other sign. -/
theorem toInt_of_le {x : ℤ} (h : 2 ^ 31 ≤ x) (h' : x < 2 ^ 32) : toInt x = x - 2 ^ 32 := by
  rw [toInt, Int.bmod_def]
  split <;> omega

theorem toInt_of_lt_neg {x : ℤ} (h : x < -2 ^ 31) (h' : -2 ^ 32 < x) : toInt x = x + 2 ^ 32 := by
  rw [toInt, Int.bmod_def]
  split <;> omega

/-- Among times that are less than 2³² seconds apart, just those rank right whose difference in
seconds is an `int`. -/
theorem ranksExact_iff {x y : LocTimerDelegate} (hx : x.mFutureTime.Normalized)
    (hy : y.mFutureTime.Normalized)
    (hnear : (y.mFutureTime.tvSec - x.mFutureTime.tvSec).natAbs < 2 ^ 32) :
    RanksExact x y ↔ -2 ^ 31 ≤ y.mFutureTime.tvSec - x.mFutureTime.tvSec ∧
      y.mFutureTime.tvSec - x.mFutureTime.tvSec < 2 ^ 31 := by
  obtain ⟨hx0, hx1⟩ := hx
  obtain ⟨hy0, hy1⟩ := hy
  have hnsec : toInt (y.mFutureTime.tvNsec - x.mFutureTime.tvNsec) =
      y.mFutureTime.tvNsec - x.mFutureTime.tvNsec := toInt_of_lt (by omega) (by omega)
  constructor
  · rintro ⟨hpos, hneg⟩
    rw [delegateRanks, ranks, Timespec.toNsec, Timespec.toNsec] at hpos hneg
    refine ⟨?_, ?_⟩
    · by_contra hlt
      rw [toInt_of_lt_neg (by omega) (by omega), if_neg (by omega)] at hpos
      omega
    · by_contra hge
      rw [toInt_of_le (by omega) (by omega), if_neg (by omega)] at hneg
      omega
  · rintro ⟨hge, hlt⟩
    have hsec : toInt (y.mFutureTime.tvSec - x.mFutureTime.tvSec) =
        y.mFutureTime.tvSec - x.mFutureTime.tvSec := toInt_of_lt (by omega) (by omega)
    refine ⟨?_, ?_⟩
    all_goals
      rw [delegateRanks, ranks, hsec, hnsec, Timespec.toNsec, Timespec.toNsec]
      split
      · omega
      · omega

namespace TimerStart

variable (a b : TimerStart)

theorem normalized_delegate : a.delegate.mFutureTime.Normalized :=
  Timespec.normalized_after a.normalized _

/-- The delegate expires when the low 32 bits of the delay are over. -/
theorem toNsec_delegate : a.delegate.mFutureTime.toNsec =
    a.system.clock.toNsec + (a.msec.toNat % 2 ^ 32 : ℕ) * 1000000 := by
  rw [delegate, Timespec.toNsec_after, UInt64.toNat_toUInt32]

theorem tvSec_delegate : a.delegate.mFutureTime.tvSec = a.seconds := by
  rw [a.normalized_delegate.tvSec_eq, toNsec_delegate, seconds]

theorem seconds_bounds : 0 ≤ a.seconds ∧ a.seconds < 2 ^ 32 := by
  have hge := a.tvSec_nonneg
  have hlt := a.tvSec_lt
  obtain ⟨h0, h1⟩ := a.normalized
  rw [seconds, Timespec.toNsec]
  omega

theorem ranksExact_delegate_iff :
    RanksExact a.delegate b.delegate ↔
      -2 ^ 31 ≤ b.seconds - a.seconds ∧ b.seconds - a.seconds < 2 ^ 31 := by
  have ha := a.seconds_bounds
  have hb := b.seconds_bounds
  rw [← tvSec_delegate, ← tvSec_delegate] at *
  exact ranksExact_iff a.normalized_delegate b.normalized_delegate (by omega)

/-- **Deadlines and their order.** The deadline of a delegate is normalised. It is the current time
and the delay exactly when the delay is less than 2³² milliseconds. The ranks of two delegates tell
which of them expires first exactly when the difference of their seconds is an `int`, and any number
of delegates for which this is so in every order rank in a total preorder. -/
theorem timer_deadlines_iff (a b : TimerStart) (starts : List TimerStart) :
    ((locTimerStart a.system a.timer a.msec).2 = some a.delegate ∧
      a.delegate.mFutureTime.Normalized ∧
      (a.delegate.mFutureTime.toNsec = a.system.clock.toNsec + a.msec.toNat * 1000000 ↔
        a.msec.toNat < 2 ^ 32)) ∧
    (RanksExact a.delegate b.delegate ↔
      -2 ^ 31 ≤ b.seconds - a.seconds ∧ b.seconds - a.seconds < 2 ^ 31) ∧
    ((∀ a ∈ starts, ∀ b ∈ starts, RanksExact a.delegate b.delegate) ∧
        RankTotally delegateRanks (starts.map delegate) ↔
      ∀ a ∈ starts, ∀ b ∈ starts, b.seconds - a.seconds < 2 ^ 31) := by
  refine ⟨⟨a.locTimerStart_snd, a.normalized_delegate, ?_⟩, ranksExact_delegate_iff a b,
    fun h a ha b hb ↦ ?_, fun h ↦ ⟨fun a ha b hb ↦ ?_, ?_⟩⟩
  · have hlt := a.msec.toNat_lt
    rw [toNsec_delegate]
    omega
  · exact ((ranksExact_delegate_iff a b).mp (h.1 a ha b hb)).2
  · have hab := h a ha b hb
    have hba := h b hb a ha
    exact (ranksExact_delegate_iff a b).mpr ⟨by omega, hab⟩
  · refine rankTotally_of_near (fun x hx ↦ ?_) fun x hx y hy ↦ ?_
    · obtain ⟨a, -, rfl⟩ := List.mem_map.mp hx
      exact a.normalized_delegate
    · obtain ⟨a, ha, rfl⟩ := List.mem_map.mp hx
      obtain ⟨b, hb, rfl⟩ := List.mem_map.mp hy
      have hab := h a ha b hb
      have hba := h b hb a ha
      rw [Timespec.Near, tvSec_delegate, tvSec_delegate]
      omega

end TimerStart

/-- A delay of 2³² milliseconds is over at once; and of a timer that is started at boot with no
delay, and one that is started in the last second of the clock with a long delay, the ranks say
that the second one expires first. -/
theorem not_timer_deadlines_exact :
    (∃ d, (locTimerStart (.initial ⟨0, 0⟩) 0 4294967296).2 = some d ∧
      d.mFutureTime.toNsec ≠ Timespec.toNsec ⟨0, 0⟩ + 4294967296 * 1000000) ∧
    ∃ d d', (locTimerStart (.initial ⟨0, 0⟩) 0 0).2 = some d ∧
      (locTimerStart (.initial ⟨2147483647, 999999999⟩) 0 4294967295).2 = some d' ∧
      d.mFutureTime.toNsec < d'.mFutureTime.toNsec ∧ delegateRanks d d' < 0 :=
  ⟨⟨_, rfl, by decide⟩, _, _, rfl, rfl, by decide, by decide⟩

end MataDevice.Timer
