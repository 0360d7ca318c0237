import MataDevice.Ntrip.Adapter

/-!
# When the last time based session goes

The last time based session usually goes with a stop of the engine, which stops the NTRIP client
too. There are messages that erase a session and do not stop the engine: the answer to a start that
has failed, the answer to the stop of a distance based session with the same key, and the update of
a session that is in both maps. If such a message erases the last time based session, the NTRIP
client is not told.
-/

namespace MataDevice.Ntrip

open MataDevice.Tracking (LocMsg LocationSessionKey TrackingOptions LocationError)
open MataDevice.Tracking.GnssAdapter (thenReport)

/-- The session that a message erases without a stop of the engine. -/
def erasedKey (a : Tracking.GnssAdapter) : LocMsg → Option LocationSessionKey
  | .locApiResponse (.startedDistance key) err | .locApiResponse (.startedTime key) err =>
    if a.mEngineLockState = .enabled ∧ err ≠ .success then some key else none
  | .locApiResponse (.stoppedDistance key) err =>
    if a.mEngineLockState = .disabled ∨ err = .success then some key else none
  | .updateTracking key options =>
    if a.isDistanceBasedTrackingSession key ∧ options.size ≠ 0 ∧ options.minDistance = 0 then
      some key
    else none
  | _ => none

/-- The session is the only time based one. -/
def IsLast (a : Tracking.GnssAdapter) (key : LocationSessionKey) : Prop :=
  a.isTimeBasedTrackingSession key = true ∧ a.mTimeBasedTrackingSessions.size = 1

instance (a : Tracking.GnssAdapter) (key : LocationSessionKey) : Decidable (IsLast a key) :=
  inferInstanceAs (Decidable (_ ∧ _))

/-- A message erases the last time based session without a stop of the engine. -/
def ErasesLast (a : Tracking.GnssAdapter) (msg : LocMsg) : Prop :=
  ∃ key ∈ erasedKey a msg, IsLast a key

instance (a : Tracking.GnssAdapter) (msg : LocMsg) : Decidable (ErasesLast a msg) :=
  match h : erasedKey a msg with
  | none => isFalse fun ⟨_, hkey, _⟩ ↦ by simp [h] at hkey
  | some key => decidable_of_iff (IsLast a key) (by simp [ErasesLast, h])

/-- There is a time based session. -/
def InSession (a : Tracking.GnssAdapter) : Prop := a.mTimeBasedTrackingSessions.size ≠ 0

section Sessions

variable {a : Tracking.GnssAdapter} {key : LocationSessionKey} {options : TrackingOptions}

theorem inSession_of_eq {a' : Tracking.GnssAdapter}
    (h : a'.mTimeBasedTrackingSessions = a.mTimeBasedTrackingSessions) :
    InSession a' ↔ InSession a := by
  rw [InSession, h, InSession]

theorem InSession.saveTrackingSession (h : InSession a) (key : LocationSessionKey)
    (options : TrackingOptions) : InSession (a.saveTrackingSession key options) := by
  rw [Tracking.GnssAdapter.saveTrackingSession]
  split
  · exact h
  · rw [InSession, OrderedMap.size_insert]
    exact Nat.succ_ne_zero _

/-- An erased session leaves others, unless it was the last one. -/
theorem inSession_eraseTrackingSession (h : InSession a) :
    InSession (a.eraseTrackingSession key) ↔ ¬IsLast a key := by
  rw [Tracking.GnssAdapter.eraseTrackingSession, IsLast]
  split
  · next htime =>
    obtain ⟨options, hfind⟩ := Option.isSome_iff_exists.mp htime
    have hsize := OrderedMap.size_erase_of_find? hfind
    rw [InSession]
    dsimp only
    constructor
    · rintro hne ⟨-, hone⟩
      omega
    · intro hne herase
      exact hne ⟨htime, by omega⟩
  · next htime => exact iff_of_true h fun hlast ↦ htime hlast.1

theorem stopsTracking_reportResponse (err : LocationError) :
    (a.reportResponse key err).any stopsTracking = false := by
  rw [Tracking.GnssAdapter.reportResponse]
  split <;> rfl

theorem sessions_checkAndSetSPEToRunforNHz (a : Tracking.GnssAdapter) (out : TrackingOptions) :
    (a.checkAndSetSPEToRunforNHz out).2.1.mTimeBasedTrackingSessions =
      a.mTimeBasedTrackingSessions := by
  rw [Tracking.GnssAdapter.checkAndSetSPEToRunforNHz]
  repeat' split
  all_goals rfl

theorem sessions_runTimeBasedTracking (callback : Tracking.Callback) :
    (a.runTimeBasedTracking key options callback).1.mTimeBasedTrackingSessions =
        a.mTimeBasedTrackingSessions ∧
      (a.runTimeBasedTracking key options callback).2.any stopsTracking = false := by
  have h := sessions_checkAndSetSPEToRunforNHz a options
  rw [Tracking.GnssAdapter.runTimeBasedTracking]
  split
  next heq =>
    rw [heq] at h
    split
    · exact ⟨h, rfl⟩
    · exact ⟨h, stopsTracking_reportResponse _⟩

variable (a key options)

theorem sessions_startTimeBasedTrackingMultiplex :
    (a.startTimeBasedTrackingMultiplex key options).2.1.mTimeBasedTrackingSessions =
        a.mTimeBasedTrackingSessions ∧
      (a.startTimeBasedTrackingMultiplex key options).2.2.any stopsTracking = false := by
  rw [Tracking.GnssAdapter.startTimeBasedTrackingMultiplex]
  split
  · exact sessions_runTimeBasedTracking _
  · dsimp only
    split
    · exact sessions_runTimeBasedTracking _
    · exact ⟨rfl, rfl⟩

theorem sessions_updateTrackingMultiplex :
    (a.updateTrackingMultiplex key options).2.1.mTimeBasedTrackingSessions =
        a.mTimeBasedTrackingSessions ∧
      (a.updateTrackingMultiplex key options).2.2.any stopsTracking = false := by
  rw [Tracking.GnssAdapter.updateTrackingMultiplex]
  split
  · exact ⟨rfl, rfl⟩
  split
  · dsimp only
    split
    · exact sessions_runTimeBasedTracking _
    split
    · exact sessions_runTimeBasedTracking _
    · exact ⟨rfl, rfl⟩
  · exact ⟨rfl, rfl⟩

/-- A stop of the last session stops the engine, and no other one does. -/
theorem sessions_stopTimeBasedTrackingMultiplex :
    (a.stopTimeBasedTrackingMultiplex key).2.1.mTimeBasedTrackingSessions =
        a.mTimeBasedTrackingSessions ∧
      (a.stopTimeBasedTrackingMultiplex key).2.2.any stopsTracking =
        decide (a.mTimeBasedTrackingSessions.size = 1) := by
  rw [Tracking.GnssAdapter.stopTimeBasedTrackingMultiplex]
  split
  · next hone =>
    rw [decide_eq_true hone]
    exact ⟨rfl, rfl⟩
  · next hone =>
    rw [decide_eq_false hone]
    split
    · exact ⟨rfl, rfl⟩
    dsimp only
    split
    · exact sessions_runTimeBasedTracking _
    · exact ⟨rfl, rfl⟩

variable {a key options}

/-- The calls of what follows a multiplexing stop the engine if those of the multiplexing do. -/
theorem stopsTracking_thenReport
    (multiplexed : Bool × Tracking.GnssAdapter × List Tracking.Call)
    (edit : Tracking.GnssAdapter → Tracking.GnssAdapter) :
    (thenReport key multiplexed edit).2.any stopsTracking =
      multiplexed.2.2.any stopsTracking := by
  obtain ⟨noWait, a', calls⟩ := multiplexed
  rw [thenReport, List.any_append]
  cases noWait with
  | true => simp [stopsTracking_reportResponse]
  | false => simp

/-- What a result does to the sessions: there is one left, or the engine is stopped. -/
def Stays (r : Tracking.GnssAdapter × List Tracking.Call) : Prop :=
  InSession r.1 ∨ r.2.any stopsTracking = true

theorem stays_startTimeBasedSession (h : InSession a) :
    Stays (a.startTimeBasedSession key options) := by
  have hsessions := (sessions_startTimeBasedTrackingMultiplex a key options).1
  exact Or.inl (((inSession_of_eq hsessions).mpr h).saveTrackingSession key options)

theorem stays_stopTimeBasedSession (key : LocationSessionKey) (h : InSession a) :
    Stays (thenReport key (a.stopTimeBasedTrackingMultiplex key)
      (·.eraseTrackingSession key)) := by
  obtain ⟨hsessions, hstops⟩ := sessions_stopTimeBasedTrackingMultiplex a key
  rw [Stays, stopsTracking_thenReport, hstops, decide_eq_true_eq]
  by_cases hone : a.mTimeBasedTrackingSessions.size = 1
  · exact Or.inr hone
  · refine Or.inl ((inSession_eraseTrackingSession ((inSession_of_eq hsessions).mpr h)).mpr ?_)
    rintro ⟨-, hlast⟩
    rw [hsessions] at hlast
    exact hone hlast

theorem stays_switchToDistance (h : InSession a) : Stays (a.switchToDistance key options) := by
  rcases stays_stopTimeBasedSession key h with hsession | hstops
  · exact Or.inl (hsession.saveTrackingSession key options)
  · refine Or.inr ?_
    rw [Tracking.GnssAdapter.switchToDistance]
    simp only [List.any_append, hstops, Bool.true_or]

theorem stays_startTrackingProc (h : InSession a) : Stays (a.startTrackingProc key options) := by
  rw [Tracking.GnssAdapter.startTrackingProc]
  split
  · exact Or.inl h
  split
  · exact Or.inl h
  split
  · exact Or.inl h
  dsimp only
  split
  · exact Or.inl (h.saveTrackingSession key _)
  · exact stays_startTimeBasedSession h

theorem stays_stopTrackingProc (h : InSession a) : Stays (a.stopTrackingProc key) := by
  rw [Tracking.GnssAdapter.stopTrackingProc]
  split
  · exact stays_stopTimeBasedSession key h
  split
  · exact Or.inl h
  · exact Or.inl h

/-- A session that is in both maps is erased from the wrong one. -/
theorem stays_updateTrackingProc_iff (h : InSession a) :
    Stays (a.updateTrackingProc key options) ↔ ¬ErasesLast a (.updateTracking key options) := by
  have hdistance : options.fallBackToM2.raiseInterval.minDistance = options.minDistance := by
    rw [TrackingOptions.raiseInterval, TrackingOptions.fallBackToM2]
    split <;> split <;> rfl
  have herases : ErasesLast a (.updateTracking key options) ↔
      (a.isDistanceBasedTrackingSession key = true ∧ options.size ≠ 0 ∧ options.minDistance = 0) ∧
        IsLast a key := by
    simp only [ErasesLast, erasedKey]
    split
    · next hkey => simp [hkey]
    · next hkey => simp [hkey]
  rw [herases, Tracking.GnssAdapter.updateTrackingProc]
  split
  · next hwait => exact iff_of_true (Or.inl h) fun he ↦ absurd he.1.2.2 (by simp at hwait; omega)
  dsimp only
  split
  · next hnone => exact iff_of_true (Or.inl h) fun he ↦ by simp [he.1.1] at hnone
  split
  · next hsize => exact iff_of_true (Or.inl h) fun he ↦ he.1.2.1 hsize
  next hsize =>
  rw [hdistance]
  split
  · next htime => exact iff_of_true (stays_switchToDistance h) fun he ↦ by omega
  split
  · next hboth =>
    rw [Stays, inSession_eraseTrackingSession h]
    simp [hboth, hsize, stopsTracking]
  next hnot =>
  have hne : ¬((a.isDistanceBasedTrackingSession key = true ∧ options.size ≠ 0 ∧
      options.minDistance = 0) ∧ IsLast a key) := fun he ↦ hnot ⟨he.1.1, he.1.2.2⟩
  split
  · refine iff_of_true (Or.inl ?_) hne
    have hsessions := (sessions_updateTrackingMultiplex a key
      options.fallBackToM2.raiseInterval).1
    exact ((inSession_of_eq hsessions).mpr h).saveTrackingSession key _
  · exact iff_of_true (Or.inl h) hne

/-- What an answer of the engine does to the sessions. -/
theorem stays_locApiResponseProc_iff (h : InSession a) (err : LocationError)
    (callback : Tracking.Callback) :
    Stays (a.locApiResponseProc err callback) ↔
      ¬ErasesLast a (.locApiResponse callback err) := by
  have herase : ∀ (p : Prop) [Decidable p] (key : LocationSessionKey),
      Stays (if p then a.eraseTrackingSession key else a, a.reportResponse key err) ↔
        ¬∃ key' ∈ (if p then some key else none), IsLast a key' := by
    intro p _ key
    rw [Stays, stopsTracking_reportResponse]
    split
    · simp [inSession_eraseTrackingSession h]
    · simp [h]
  have hnone : ∀ msg, erasedKey a msg = none → ¬ErasesLast a msg := by
    rintro msg hnone ⟨key, hkey, -⟩
    simp [hnone] at hkey
  cases callback with
  | startedDistance key => exact herase _ key
  | startedTime key => exact herase _ key
  | stoppedDistance key => exact herase _ key
  | updatedTime key oldOptions =>
    refine iff_of_true (Or.inl ?_) (hnone _ rfl)
    rw [Tracking.GnssAdapter.locApiResponseProc]
    dsimp only
    split
    · exact h.saveTrackingSession key oldOptions
    · exact h
  | stoppedTime key => exact iff_of_true (Or.inl h) (hnone _ rfl)
  | switchToTime key options => exact iff_of_true (stays_startTimeBasedSession h) (hnone _ rfl)
  | restartDistance key options =>
    refine iff_of_true (Or.inl ?_) (hnone _ rfl)
    rw [Tracking.GnssAdapter.locApiResponseProc]
    split
    · exact h
    · exact h
  | restartedDistance key options =>
    refine iff_of_true (Or.inl ?_) (hnone _ rfl)
    rw [Tracking.GnssAdapter.locApiResponseProc]
    dsimp only
    split
    · exact h.saveTrackingSession key options
    · exact h
  | ignore => exact iff_of_true (Or.inl h) (hnone _ rfl)

/-- After a message there is still a time based session, or the engine is stopped, unless the
message erases the last session. -/
theorem stays_proc_iff (h : InSession a) (msg : LocMsg) :
    Stays (a.proc msg) ↔ ¬ErasesLast a msg := by
  cases msg with
  | startTracking key options =>
    exact iff_of_true (stays_startTrackingProc h) fun ⟨_, hkey, _⟩ ↦ by simp [erasedKey] at hkey
  | updateTracking key options => exact stays_updateTrackingProc_iff h
  | stopTracking key =>
    exact iff_of_true (stays_stopTrackingProc h) fun ⟨_, hkey, _⟩ ↦ by simp [erasedKey] at hkey
  | locApiResponse callback err => exact stays_locApiResponseProc_iff h err callback

end Sessions

end MataDevice.Ntrip
