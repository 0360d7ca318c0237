import MataDevice.Lib.Least
import MataDevice.Tracking.System

/-!
# The engine at the tightest request

The engine runs one time based session, and it should run it with the smallest interval and the most
demanding power mode that any of the time based sessions of the adapter asks for. Interval and power
mode may come from different sessions.

Stopping a session and restarting all of them get this right. Starting and updating one do not
always:

* they lower the options of the first session with the smallest interval, and its power mode need
  not be the smallest one;
* an update that loosens a session does not loosen the engine, because the new options are compared
  with those of the other sessions only, and never with the old ones.

`Joins` and `KeepsTightest` say which starts and updates are not affected; the engine is right along
every run of such commands.
-/

namespace MataDevice.Tracking

open List
open TrackingOptions (minInterval powerMode)

/-! ## What the loops compute -/

/-- Options that a session can have. -/
def TrackingOptions.Valid (options : TrackingOptions) : Prop :=
  options.size ≠ 0 ∧ options.powerMode ≠ .invalid

/-- The interval and the power mode are the smallest ones of the sessions. -/
structure Tightest (sessions : List TrackingOptions) (options : TrackingOptions) : Prop where
  minInterval : IsLeastOn minInterval sessions options.minInterval
  powerMode : IsLeastOn powerMode sessions options.powerMode

/-- A session on its own. -/
theorem tightest_singleton {sessions : List TrackingOptions} {o : TrackingOptions}
    (h : ∀ s, s ∈ sessions ↔ s = o) : Tightest sessions o := by
  constructor <;> refine IsLeastOn.of_mem ((h o).mpr rfl) fun s hs ↦ ?_ <;> rw [(h s).mp hs]

section Loops

variable {sessions : List TrackingOptions} (hvalid : ∀ o ∈ sessions, o.Valid) (hne : sessions ≠ [])

theorem multiplex_eq (sessions : List TrackingOptions) :
    multiplex sessions = (sessions.foldl keepShortest .zero,
      (sessions.map powerMode).foldl keepSmallest .invalid) := by
  rw [foldl_map]
  exact foldl_hom₂ _ Prod.mk _ _ _ _ _ fun _ _ _ ↦ rfl

theorem foldl_restartStep (sessions : List TrackingOptions) :
    sessions.foldl restartStep (.zero, .zero) =
      (sessions.foldl keepShortest .zero, sessions.foldl keepHighestPower .zero) :=
  foldl_hom₂ _ Prod.mk _ _ _ _ _ fun _ _ _ ↦ rfl

include hvalid hne

theorem firstLeast_keepShortest :
    firstLeast minInterval sessions = some (sessions.foldl keepShortest .zero) := by
  refine foldl_eq_firstLeast _ TrackingOptions.Valid (fun acc x hacc _ ↦ ?_) (fun x ↦ rfl) hvalid
    hne
  simp [keepShortest, hacc.1]

theorem firstLeast_keepHighestPower :
    firstLeast powerMode sessions =
      some (sessions.foldl keepHighestPower .zero) := by
  refine foldl_eq_firstLeast _ TrackingOptions.Valid (fun acc x hacc hx ↦ ?_) (fun x ↦ rfl) hvalid
    hne
  simp [keepHighestPower, hacc.1, hx.2]

theorem firstLeast_multiplex :
    firstLeast minInterval sessions = some (multiplex sessions).1 := by
  rw [multiplex_eq]
  exact firstLeast_keepShortest hvalid hne

theorem isLeastOn_multiplex :
    IsLeastOn powerMode sessions (multiplex sessions).2 := by
  have hfirst : firstLeast id (sessions.map powerMode) =
      some (multiplex sessions).2 := by
    rw [multiplex_eq]
    refine foldl_eq_firstLeast _ (fun p ↦ p ≠ .invalid) (fun acc x hacc _ ↦ ?_) (fun x ↦ rfl) ?_
      (by simpa using hne)
    · simp [keepSmallest, hacc]
    · simpa using fun o ho ↦ (hvalid o ho).2
  have hleast := IsLeastOn.of_firstLeast hfirst
  simpa [IsLeastOn] using hleast

/-- A restart asks for the smallest interval and the smallest power mode. -/
theorem tightest_restart :
    Tightest sessions ((sessions.foldl restartStep (.zero, .zero)).2.setLocationOptions
      (sessions.foldl restartStep (.zero, .zero)).1) := by
  have hinterval := IsLeastOn.of_firstLeast (firstLeast_keepShortest hvalid hne)
  have hpower := IsLeastOn.of_firstLeast (firstLeast_keepHighestPower hvalid hne)
  rw [foldl_restartStep]
  exact ⟨hinterval, hpower⟩

end Loops

/-! ## Commands that keep the engine right -/

/-- The smallest power mode is asked for by the first session with the smallest interval. -/
def FirstIsTightest (sessions : List TrackingOptions) : Prop :=
  ∀ m ∈ firstLeast minInterval sessions, ∀ s ∈ sessions, m.powerMode ≤ s.powerMode

/-- Options that undercut every session in `f`. -/
def Undercuts {β : Type} [LT β] (f : TrackingOptions → β) (options : TrackingOptions)
    (sessions : List TrackingOptions) : Prop :=
  ∀ s ∈ sessions, f options < f s

/-- Options that can be added to those of other sessions: if they undercut them in the interval but
not in the power mode, the session that lends its power mode is one with the smallest one. -/
def Joins (options : TrackingOptions) (others : List TrackingOptions) : Prop :=
  Undercuts minInterval options others → ¬Undercuts powerMode options others →
    FirstIsTightest others

/-- Options that are not tighter than all others. -/
def Slack (options : TrackingOptions) (others : List TrackingOptions) : Prop :=
  ¬Undercuts minInterval options others ∧ ¬Undercuts powerMode options others

/-- An update that either changes nothing, or can be added to the other sessions and does not loosen
one that was tighter than all others without being so itself. -/
def Replaces (old new : TrackingOptions) (others : List TrackingOptions) : Prop :=
  old.minInterval = new.minInterval ∧ old.powerMode = new.powerMode ∨
    Joins new others ∧ (Slack new others → Slack old others)

section Lower

variable {sessions : List TrackingOptions} {o : TrackingOptions}

variable (hvalid : ∀ o ∈ sessions, o.Valid) (hne : sessions ≠ [])

include hvalid hne

theorem undercuts_minInterval_iff :
    o.minInterval < (multiplex sessions).1.minInterval ↔ Undercuts minInterval o sessions :=
  (IsLeastOn.of_firstLeast (firstLeast_multiplex hvalid hne)).lt_iff

theorem undercuts_powerMode_iff :
    o.powerMode < (multiplex sessions).2 ↔ Undercuts powerMode o sessions :=
  (isLeastOn_multiplex hvalid hne).lt_iff

theorem lower_fst : (lower o (multiplex sessions)).1 = true ↔ ¬Slack o sessions := by
  rw [lower, decide_eq_true_iff, undercuts_minInterval_iff hvalid hne,
    undercuts_powerMode_iff hvalid hne, Slack, not_and_or, not_not, not_not]

variable {sessions' : List TrackingOptions}

/-- What a start or an update asks for is right iff the new options can be added. -/
theorem tightest_lower_iff (hs : ¬Slack o sessions)
    (hmem : ∀ s, s ∈ sessions' ↔ s = o ∨ s ∈ sessions) :
    Tightest sessions' (lower o (multiplex sessions)).2 ↔ Joins o sessions := by
  have hfirst := firstLeast_multiplex hvalid hne
  have hinterval := (IsLeastOn.of_firstLeast hfirst).insert hmem
  have hleast := isLeastOn_multiplex hvalid hne
  have hpower := hleast.insert hmem
  have hi : (lower o (multiplex sessions)).2.minInterval =
      min o.minInterval (multiplex sessions).1.minInterval := by
    rw [min_def_lt]
    by_cases h : o.minInterval < (multiplex sessions).1.minInterval <;>
      by_cases h' : o.powerMode < (multiplex sessions).2 <;> simp [lower, h, h']
  by_cases h' : o.powerMode < (multiplex sessions).2
  · have hp : (lower o (multiplex sessions)).2.powerMode =
        min o.powerMode (multiplex sessions).2 := by
      simp [lower, h', h'.le]
    exact ⟨fun _ _ hnot ↦ absurd ((undercuts_powerMode_iff hvalid hne).mp h') hnot,
      fun _ ↦ ⟨hi ▸ hinterval, hp ▸ hpower⟩⟩
  · -- the power mode is that of the session with the smallest interval
    have hnot : ¬Undercuts powerMode o sessions :=
      fun h ↦ h' ((undercuts_powerMode_iff hvalid hne).mpr h)
    have hunder : Undercuts minInterval o sessions := by
      by_contra h
      exact hs ⟨h, hnot⟩
    have hp : (lower o (multiplex sessions)).2.powerMode = (multiplex sessions).1.powerMode := by
      have h := (undercuts_minInterval_iff hvalid hne).mpr hunder
      simp [lower, h, h']
    rw [min_eq_right (not_lt.mp h')] at hpower
    constructor
    · intro ht _ _ m hm t ht'
      obtain rfl := Option.some_inj.mp (hfirst.symm.trans hm)
      rw [← hp]
      exact ht.powerMode.le ((hmem t).mpr (Or.inr ht'))
    · intro hj
      have hm : (multiplex sessions).1.powerMode = (multiplex sessions).2 :=
        (IsLeastOn.of_mem (firstLeast_mem hfirst) (hj hunder hnot _ hfirst)).eq hleast
      exact ⟨hi ▸ hinterval, (hp.trans hm) ▸ hpower⟩

/-- Options that are not tighter than all others change nothing. -/
theorem tightest_insert_iff {e : TrackingOptions}
    (hs : Slack o sessions) (hmem : ∀ s, s ∈ sessions' ↔ s = o ∨ s ∈ sessions) :
    Tightest sessions' e ↔ Tightest sessions e := by
  have hfirst := IsLeastOn.of_firstLeast (firstLeast_multiplex hvalid hne)
  have hleast := isLeastOn_multiplex hvalid hne
  have hi : min o.minInterval (multiplex sessions).1.minInterval =
      (multiplex sessions).1.minInterval :=
    min_eq_right (not_lt.mp fun h ↦ hs.1 (hfirst.lt_iff.mp h))
  have hp : min o.powerMode (multiplex sessions).2 = (multiplex sessions).2 :=
    min_eq_right (not_lt.mp fun h ↦ hs.2 (hleast.lt_iff.mp h))
  have hfirst' := hi ▸ hfirst.insert hmem
  have hleast' := hp ▸ hleast.insert hmem
  exact ⟨fun h ↦ ⟨hfirst'.eq h.minInterval ▸ hfirst, hleast'.eq h.powerMode ▸ hleast⟩,
    fun h ↦ ⟨hfirst.eq h.minInterval ▸ hfirst', hleast.eq h.powerMode ▸ hleast'⟩⟩

/-- An engine that is not restarted for an update to options that are not tighter than all others
stays right iff the old options were not either. -/
theorem tightest_replace_iff {sessions₁ sessions₂ : List TrackingOptions}
    {e old new : TrackingOptions} (he : Tightest sessions₁ e) (hnew : Slack new sessions)
    (hmem₁ : ∀ s, s ∈ sessions₁ ↔ s = old ∨ s ∈ sessions)
    (hmem₂ : ∀ s, s ∈ sessions₂ ↔ s = new ∨ s ∈ sessions) :
    Tightest sessions₂ e ↔ Slack old sessions := by
  rw [tightest_insert_iff hvalid hne hnew hmem₂]
  constructor
  · intro h
    have hold : old ∈ sessions₁ := (hmem₁ old).mpr (Or.inl rfl)
    exact ⟨fun hu ↦ (h.minInterval.lt_iff.mpr hu).not_ge (he.minInterval.le hold),
      fun hu ↦ (h.powerMode.lt_iff.mpr hu).not_ge (he.powerMode.le hold)⟩
  · intro hslack
    exact (tightest_insert_iff hvalid hne hslack hmem₁).mp he

end Lower

/-! ## The engine -/

/-- What the engine runs its time based session with after a call, if it runs one. -/
def engineStep (engine : Option TrackingOptions) : Call → Option TrackingOptions
  | .startTimeBasedTracking options _ => some options
  | .stopFix _ => none
  | .startDistanceBasedTracking .. | .stopDistanceBasedTracking .. | .responseCb .. => engine

def engineAfter (engine : Option TrackingOptions) (calls : List Call) : Option TrackingOptions :=
  calls.foldl engineStep engine

theorem engineAfter_append (engine : Option TrackingOptions) (calls calls' : List Call) :
    engineAfter engine (calls ++ calls') = engineAfter (engineAfter engine calls) calls' :=
  foldl_append

/-- The engine after a history. -/
def engineOf (hist : List (Item Event (Owned Call))) : Option TrackingOptions :=
  engineAfter none ((callsOf hist).map Prod.snd)

/-- A callback that comes from a time based session. -/
def Callback.TimeBased : Callback → Prop
  | .startedTime _ | .updatedTime _ _ | .stoppedTime _ | .ignore => True
  | .startedDistance _ | .switchToTime _ _ | .restartDistance _ _ | .restartedDistance _ _
  | .stoppedDistance _ => False

namespace GnssAdapter

/-- The options of the time based sessions. -/
def sessions (a : GnssAdapter) : List TrackingOptions := a.mTimeBasedTrackingSessions.values

/-- The engine is stopped if there is no session, and at the tightest request otherwise. -/
def Drives (a : GnssAdapter) : Option TrackingOptions → Prop
  | none => a.sessions = []
  | some options => Tightest a.sessions options

/-- An adapter with time based sessions only. -/
structure TimeBased (a : GnssAdapter) : Prop where
  nHz : a.mNHzNeeded = false
  distance : a.mDistanceBasedTrackingSessions = .empty
  valid : ∀ o ∈ a.sessions, o.Valid

/-- What a message has to do for the engine to stay right. -/
structure Keeps (engine : Option TrackingOptions) (result : GnssAdapter × List Call) : Prop where
  timeBased : result.1.TimeBased
  drives : result.1.Drives (engineAfter engine result.2)
  callbacks : ∀ c ∈ result.2, ∀ callback ∈ c.response, callback.TimeBased

variable {a : GnssAdapter} {engine : Option TrackingOptions} {key : LocationSessionKey}
  {options : TrackingOptions}

theorem Drives.exists_of_ne_nil (h : a.Drives engine) (hne : a.sessions ≠ []) :
    ∃ e, engine = some e ∧ Tightest a.sessions e := by
  cases engine with
  | none => exact absurd h hne
  | some e => exact ⟨e, rfl, h⟩

theorem engineAfter_reportResponse (err : LocationError) :
    engineAfter engine (a.reportResponse key err) = engine := by
  rw [reportResponse]
  split <;> rfl

theorem response_of_mem_reportResponse {err : LocationError} {c : Call}
    (hc : c ∈ a.reportResponse key err) : c.response = none := by
  rw [reportResponse] at hc
  split at hc
  · rw [mem_singleton.mp hc]
    rfl
  · simp at hc

/-- An answer is nothing to the engine. -/
theorem Keeps.append_reportResponse {result : GnssAdapter × List Call} (h : Keeps engine result)
    (a : GnssAdapter) (key : LocationSessionKey) (err : LocationError) :
    Keeps engine (result.1, result.2 ++ a.reportResponse key err) := by
  refine ⟨h.timeBased, ?_, fun c hc callback hcb ↦ ?_⟩
  · rw [engineAfter_append, engineAfter_reportResponse]
    exact h.drives
  · rcases mem_append.mp hc with hc | hc
    · exact h.callbacks c hc callback hcb
    · rw [response_of_mem_reportResponse hc] at hcb
      cases hcb

theorem keeps_reportResponse (h : a.TimeBased) (hd : a.Drives engine) (err : LocationError) :
    Keeps engine (a, a.reportResponse key err) := by
  have hkeeps : Keeps engine (a, []) := ⟨h, hd, by simp⟩
  exact hkeeps.append_reportResponse a key err

theorem keeps_thenReport {multiplexed : Bool × GnssAdapter × List Call}
    {edit : GnssAdapter → GnssAdapter}
    (h : Keeps engine (edit multiplexed.2.1, multiplexed.2.2)) :
    Keeps engine (thenReport key multiplexed edit) := by
  obtain ⟨noWait, a, calls⟩ := multiplexed
  rw [thenReport]
  cases noWait with
  | false => simpa using h
  | true => exact h.append_reportResponse _ key _

theorem runTimeBasedTracking_of_nHz (h : a.mNHzNeeded = false) (callback : Callback) :
    a.runTimeBasedTracking key options callback =
      (a, [.startTimeBasedTracking options (some callback)]) := by
  simp [runTimeBasedTracking, checkAndSetSPEToRunforNHz, h]

theorem saveTrackingSession_of_minDistance (h : options.minDistance = 0) :
    a.saveTrackingSession key options =
      { a with mTimeBasedTrackingSessions := a.mTimeBasedTrackingSessions.insert key options } := by
  simp [saveTrackingSession, h]

theorem mem_sessions_insert {o : TrackingOptions} :
    o ∈ (a.mTimeBasedTrackingSessions.insert key options).values ↔
      o = options ∨ o ∈ a.otherSessions key :=
  OrderedMap.mem_values_insert

/-- Saving valid options of a time based session. -/
theorem TimeBased.saveTrackingSession (h : a.TimeBased) (key : LocationSessionKey)
    (hv : options.Valid) (hd : options.minDistance = 0) :
    (a.saveTrackingSession key options).TimeBased := by
  rw [saveTrackingSession_of_minDistance hd]
  refine ⟨h.nHz, h.distance, fun o ho ↦ ?_⟩
  rcases mem_sessions_insert.mp ho with rfl | ho
  · exact hv
  · exact h.valid o (OrderedMap.mem_values_of_mem_erase ho)

/-- The engine is asked for the options of the sessions there will be. -/
theorem keeps_start {callback : Callback} {o : TrackingOptions} (h : a.TimeBased)
    (ht : Tightest a.sessions o) (hc : callback.TimeBased) :
    Keeps engine (a, [.startTimeBasedTracking o (some callback)]) := by
  refine ⟨h, ht, fun c hc' callback' hcb ↦ ?_⟩
  obtain rfl := mem_singleton.mp hc'
  obtain rfl := Option.some_inj.mp hcb
  exact hc

theorem keeps_startTimeBasedSession (h : a.TimeBased) (hd : a.Drives engine) (hv : options.Valid)
    (hdist : options.minDistance = 0) (hkey : a.mTimeBasedTrackingSessions.find? key = none)
    (hj : Joins options a.sessions) : Keeps engine (a.startTimeBasedSession key options) := by
  have hsave := h.saveTrackingSession key hv hdist
  have hmem : ∀ o, o ∈ (a.saveTrackingSession key options).sessions ↔
      o = options ∨ o ∈ a.sessions := by
    intro o
    rw [saveTrackingSession_of_minDistance hdist, sessions, mem_sessions_insert, otherSessions,
      OrderedMap.erase_of_find?_eq_none hkey]
    rfl
  refine keeps_thenReport ?_
  simp only [startTimeBasedTrackingMultiplex, startTimeBasedTracking,
    runTimeBasedTracking_of_nHz h.nHz]
  split
  · next hempty =>
    have hnil : a.sessions = [] := OrderedMap.isEmpty_iff.mp hempty
    refine keeps_start hsave (tightest_singleton fun o ↦ ?_) trivial
    rw [hmem, hnil]
    simp
  · next hempty =>
    have hne : a.sessions ≠ [] := fun hnil ↦ hempty (OrderedMap.isEmpty_iff.mpr hnil)
    split
    · next hupdate =>
      exact keeps_start hsave
        ((tightest_lower_iff h.valid hne ((lower_fst h.valid hne).mp hupdate) hmem).mpr hj) trivial
    · next hupdate =>
      have hslack : Slack options a.sessions := by
        by_contra hslack
        exact hupdate ((lower_fst h.valid hne).mpr hslack)
      -- the engine is left alone, and it was right for the sessions there were
      obtain ⟨e, rfl, he⟩ := hd.exists_of_ne_nil hne
      exact ⟨hsave, (tightest_insert_iff h.valid hne hslack hmem).mpr he, by simp⟩

section Other

variable {old : TrackingOptions}

/-- With a session the engine runs. -/
theorem Drives.exists_of_find? (hd : a.Drives engine)
    (hold : a.mTimeBasedTrackingSessions.find? key = some old) :
    ∃ e, engine = some e ∧ Tightest a.sessions e :=
  hd.exists_of_ne_nil (ne_nil_of_mem (OrderedMap.mem_values_of_find? hold))

theorem TimeBased.valid_other (h : a.TimeBased) (key : LocationSessionKey) :
    ∀ o ∈ a.otherSessions key, o.Valid :=
  fun o ho ↦ h.valid o (OrderedMap.mem_values_of_mem_erase ho)

theorem keeps_updateTracking (h : a.TimeBased) (hd : a.Drives engine) (hv : options.Valid)
    (hdist : options.minDistance = 0) (hold : a.mTimeBasedTrackingSessions.find? key = some old)
    (hr : Replaces old options (a.otherSessions key)) :
    Keeps engine (thenReport key (a.updateTrackingMultiplex key options)
      (·.saveTrackingSession key options)) := by
  have hsave := h.saveTrackingSession key hv hdist
  have hmem : ∀ o, o ∈ a.sessions ↔ o = old ∨ o ∈ a.otherSessions key :=
    fun o ↦ OrderedMap.mem_values_iff_of_find? hold
  have hmem' : ∀ o, o ∈ (a.saveTrackingSession key options).sessions ↔
      o = options ∨ o ∈ a.otherSessions key := by
    intro o
    rw [saveTrackingSession_of_minDistance hdist, sessions, mem_sessions_insert]
  have hvalid := h.valid_other key
  obtain ⟨e, rfl, he⟩ := hd.exists_of_find? hold
  refine keeps_thenReport ?_
  simp only [updateTrackingMultiplex, hold, updateTracking, runTimeBasedTracking_of_nHz h.nHz]
  split
  · next hchanged =>
    obtain ⟨hj, hslack⟩ := hr.resolve_left (by tauto)
    have hsize : a.otherSessions key = [] ↔ a.mTimeBasedTrackingSessions.size = 1 :=
      OrderedMap.erase_values_eq_nil_iff hold
    split
    · next hone =>
      refine keeps_start hsave (tightest_singleton fun o ↦ ?_) trivial
      rw [hmem', hsize.mpr hone]
      simp
    · next hmore =>
      have hne : a.otherSessions key ≠ [] := fun hnil ↦ hmore (hsize.mp hnil)
      split
      · next hupdate =>
        exact keeps_start hsave
          ((tightest_lower_iff hvalid hne ((lower_fst hvalid hne).mp hupdate) hmem').mpr hj) trivial
      · next hupdate =>
        -- neither the old nor the new options are tighter than all others
        have hnew : Slack options (a.otherSessions key) := by
          by_contra hnew
          exact hupdate ((lower_fst hvalid hne).mpr hnew)
        exact ⟨hsave, (tightest_replace_iff hvalid hne he hnew hmem hmem').mpr (hslack hnew),
          by simp⟩
  · next hsame =>
    push Not at hsame
    -- neither of the fields that the engine runs with changes
    have hinterval := he.minInterval.replace hsame.1 hmem hmem'
    have hpower := he.powerMode.replace hsame.2 hmem hmem'
    exact ⟨hsave, ⟨hinterval, hpower⟩, by simp⟩

theorem keeps_stopTracking (h : a.TimeBased) (hd : a.Drives engine)
    (hold : a.mTimeBasedTrackingSessions.find? key = some old) :
    Keeps engine (thenReport key (a.stopTimeBasedTrackingMultiplex key)
      (·.eraseTrackingSession key)) := by
  have herase : a.eraseTrackingSession key =
      { a with mTimeBasedTrackingSessions := a.mTimeBasedTrackingSessions.erase key } := by
    simp [eraseTrackingSession, isTimeBasedTrackingSession, hold]
  have hmem : ∀ o, o ∈ a.sessions ↔ o = old ∨ o ∈ a.otherSessions key :=
    fun o ↦ OrderedMap.mem_values_iff_of_find? hold
  have hvalid := h.valid_other key
  have htime : (a.eraseTrackingSession key).TimeBased := by
    rw [herase]
    exact ⟨h.nHz, h.distance, hvalid⟩
  have hsessions : (a.eraseTrackingSession key).sessions = a.otherSessions key := by
    rw [herase]
    rfl
  have hsize : a.otherSessions key = [] ↔ a.mTimeBasedTrackingSessions.size = 1 :=
    OrderedMap.erase_values_eq_nil_iff hold
  obtain ⟨e, rfl, he⟩ := hd.exists_of_find? hold
  refine keeps_thenReport ?_
  simp only [stopTimeBasedTrackingMultiplex, hold, startTimeBasedTracking,
    runTimeBasedTracking_of_nHz h.nHz]
  split
  · next hone =>
    have hstop : (a.stopTracking key).1.eraseTrackingSession key =
        { a with
          mSPEAlreadyRunningAtHighestInterval := false
          mTimeBasedTrackingSessions := a.mTimeBasedTrackingSessions.erase key } := by
      simp [stopTracking, eraseTrackingSession, isTimeBasedTrackingSession, hold]
    rw [hstop]
    refine ⟨⟨h.nHz, h.distance, hvalid⟩, hsize.mpr hone, fun c hc callback hcb ↦ ?_⟩
    obtain rfl := mem_singleton.mp hc
    obtain rfl := Option.some_inj.mp hcb
    trivial
  · next hmore =>
    have hne : a.otherSessions key ≠ [] := fun hnil ↦ hmore (hsize.mp hnil)
    split
    · have hinterval := IsLeastOn.of_firstLeast (firstLeast_multiplex hvalid hne)
      refine keeps_start htime ?_ trivial
      rw [hsessions]
      exact ⟨hinterval, isLeastOn_multiplex hvalid hne⟩
    · next hslack =>
      rw [undercuts_minInterval_iff hvalid hne, undercuts_powerMode_iff hvalid hne, not_or]
        at hslack
      refine ⟨htime, ?_, by simp⟩
      -- the session that stops was not the tightest in either field
      have hothers := (tightest_insert_iff hvalid hne hslack hmem).mp he
      rw [← hsessions] at hothers
      exact hothers

end Other

theorem keeps_nothing (h : a.TimeBased) (hd : a.Drives engine) : Keeps engine (a, []) :=
  ⟨h, hd, by simp⟩

theorem keeps_restartSessions (h : a.TimeBased) (hd : a.Drives engine) :
    Keeps engine a.restartSessions := by
  have hdistance : a.mDistanceBasedTrackingSessions.entries = [] := by
    rw [h.distance]
    rfl
  have htime : { a with mSPEAlreadyRunningAtHighestInterval := false }.TimeBased :=
    ⟨h.nHz, h.distance, h.valid⟩
  by_cases hempty : a.mTimeBasedTrackingSessions.isEmpty = true
  · have hrestart : a.restartSessions =
        ({ a with mSPEAlreadyRunningAtHighestInterval := false }, []) := by
      simp [restartSessions, checkAndRestartTimeBasedSession, hempty, hdistance]
    rw [hrestart]
    exact keeps_nothing htime hd
  · have hne : a.sessions ≠ [] := fun hnil ↦ hempty (OrderedMap.isEmpty_iff.mpr hnil)
    have hrestart : a.restartSessions =
        ({ a with mSPEAlreadyRunningAtHighestInterval := false }, [.startTimeBasedTracking
          ((a.sessions.foldl restartStep (.zero, .zero)).2.setLocationOptions
            (a.sessions.foldl restartStep (.zero, .zero)).1) none]) := by
      simp [restartSessions, checkAndRestartTimeBasedSession, checkAndSetSPEToRunforNHz, hempty,
        hdistance, h.nHz, sessions]
    rw [hrestart]
    refine ⟨htime, tightest_restart h.valid hne, fun c hc callback hcb ↦ ?_⟩
    obtain rfl := mem_singleton.mp hc
    cases hcb

end GnssAdapter

/-! ## The messages -/

/-- Options of a command for a time based session. -/
def TrackingOptions.InDomain (options : TrackingOptions) : Prop :=
  options.minDistance = 0 ∧ options.powerMode ≠ .invalid

/-- A message of a run with time based sessions only and an engine that refuses nothing. -/
def LocMsg.InDomain : LocMsg → Prop
  | .startTracking _ options | .updateTracking _ options => options.InDomain
  | .stopTracking _ => True
  | .locApiResponse callback err => callback.TimeBased ∧ err = .success

/-- The start or the update of a session that is not affected by what the module text says, or that
is refused. The session id of a start is not in use, which it could only be after all ids have been
given out once. -/
def LocMsg.KeepsTightest (a : GnssAdapter) : LocMsg → Prop
  | .startTracking key options =>
    a.hasCallbacksToStartTracking key = true → options.size ≠ 0 →
      a.mTimeBasedTrackingSessions.find? key = none ∧
        Joins options.raiseInterval.fallBackToM2 a.sessions
  | .updateTracking key options =>
    options.size ≠ 0 → ∀ old ∈ a.mTimeBasedTrackingSessions.find? key,
      Replaces old options.fallBackToM2.raiseInterval (a.otherSessions key)
  | _ => True

@[simp] theorem raiseInterval_minDistance (o : TrackingOptions) :
    o.raiseInterval.minDistance = o.minDistance := by
  rw [TrackingOptions.raiseInterval]
  split <;> rfl

@[simp] theorem fallBackToM2_minDistance (o : TrackingOptions) :
    o.fallBackToM2.minDistance = o.minDistance := by
  rw [TrackingOptions.fallBackToM2]
  split <;> rfl

theorem TrackingOptions.Valid.raiseInterval {o : TrackingOptions} (h : o.Valid) :
    o.raiseInterval.Valid := by
  rw [TrackingOptions.raiseInterval]
  split <;> exact h

theorem TrackingOptions.Valid.fallBackToM2 {o : TrackingOptions} (h : o.Valid) :
    o.fallBackToM2.Valid := by
  rw [TrackingOptions.fallBackToM2]
  split
  · exact ⟨h.1, by simp⟩
  · exact h

theorem GnssAdapter.keeps_proc {a : GnssAdapter} {engine : Option TrackingOptions} {msg : LocMsg}
    (h : a.TimeBased) (hd : a.Drives engine) (hm : msg.InDomain) (hk : msg.KeepsTightest a) :
    Keeps engine (a.proc msg) := by
  cases msg with
  | startTracking key options =>
    obtain ⟨hdist, hpower⟩ := hm
    rw [proc, startTrackingProc, if_neg (by simp [hdist])]
    split
    · exact keeps_nothing h hd
    next hcallbacks =>
    split
    · exact keeps_nothing h hd
    · next hsize =>
      obtain ⟨hkey, hj⟩ := hk (by simpa using hcallbacks) hsize
      have hv : options.raiseInterval.fallBackToM2.Valid := by
        have hv : options.Valid := ⟨hsize, hpower⟩
        exact hv.raiseInterval.fallBackToM2
      dsimp only
      rw [if_neg (by simp [hdist])]
      exact keeps_startTimeBasedSession h hd hv (by simpa using hdist) hkey hj
  | updateTracking key options =>
    obtain ⟨hdist, hpower⟩ := hm
    have hnone : a.isDistanceBasedTrackingSession key = false := by
      simp [isDistanceBasedTrackingSession, h.distance]
    rw [proc, updateTrackingProc, if_neg (by simp [hdist])]
    dsimp only
    split
    · exact keeps_reportResponse h hd _
    · next hknown =>
      have htime : a.isTimeBasedTrackingSession key = true := by
        simpa [hnone] using hknown
      split
      · exact keeps_reportResponse h hd _
      · next hsize =>
        have hv : options.fallBackToM2.raiseInterval.Valid := by
          have hv : options.Valid := ⟨hsize, hpower⟩
          exact hv.fallBackToM2.raiseInterval
        obtain ⟨old, hold⟩ := Option.isSome_iff_exists.mp htime
        rw [if_neg (by simp [hdist]), if_neg (by simp [hnone])]
        exact keeps_updateTracking h hd hv (by simpa using hdist) hold (hk hsize old hold)
  | stopTracking key =>
    have hnone : a.isDistanceBasedTrackingSession key = false := by
      simp [isDistanceBasedTrackingSession, h.distance]
    rw [proc, stopTrackingProc]
    split
    · next htime =>
      obtain ⟨old, hold⟩ := Option.isSome_iff_exists.mp htime
      exact keeps_stopTracking h hd hold
    · rw [if_neg (by simp [hnone])]
      exact keeps_reportResponse h hd _
  | locApiResponse callback err =>
    obtain ⟨hc, rfl⟩ := hm
    cases callback with
    | startedTime key | updatedTime key _ =>
      rw [proc, locApiResponseProc, if_neg (by simp)]
      exact keeps_reportResponse h hd _
    | stoppedTime key => exact keeps_reportResponse h hd _
    | ignore => exact keeps_nothing h hd
    | startedDistance | switchToTime | restartDistance | restartedDistance | stoppedDistance =>
      exact hc.elim

/-! ## Runs -/

namespace TrackingSystem

/-- Only time based sessions with valid power modes are asked for, the engine refuses nothing, and
no NHz session is needed. -/
def InDomain : Event → Prop
  | .startTrackingCommand _ options | .updateTrackingOptionsCommand _ _ options => options.InDomain
  | .returnToSender _ err => err = .success
  | .setNHzNeeded needed => needed = false
  | _ => True

/-- The next message to be processed keeps the engine at the tightest request. -/
def KeepsTightest (s : TrackingSystem) : Event → Prop
  | .proc => ∀ x ∈ s.queue.head?, x.2.KeepsTightest s.adapter
  | _ => True

/-- The engine is right, and so is what waits to be processed. -/
structure Right (hist : List (Item Event (Owned Call))) (s : TrackingSystem) : Prop where
  timeBased : s.adapter.TimeBased
  drives : s.adapter.Drives (engineOf hist)
  queue : ∀ x ∈ s.queue, x.2.InDomain
  awaiting : ∀ x ∈ s.awaiting, x.2.TimeBased

theorem Right.initial {adapter : GnssAdapter} (h : adapter.mNHzNeeded = false) :
    Right [] (initial adapter) where
  timeBased := ⟨h, rfl, by simp [TrackingSystem.initial, GnssAdapter.sessions]⟩
  drives := rfl
  queue := by simp [TrackingSystem.initial]
  awaiting := by simp [TrackingSystem.initial]

variable {hist : List (Item Event (Owned Call))} {s s' : TrackingSystem} {e : Event}
  {outs : List (Owned Call)}

theorem engineOf_append_entry (owner : Option ℕ) (calls : List Call) :
    engineOf (hist ++ entry e (calls.map (owner, ·))) = engineAfter (engineOf hist) calls := by
  rw [engineOf, callsOf_append_entry, map_append, engineAfter_append, map_map]
  simp [engineOf, Function.comp_def]

theorem engineOf_append_nil : engineOf (hist ++ entry e []) = engineOf hist :=
  engineOf_append_entry none []

/-- What keeps the engine right can be taken over. -/
theorem Right.perform (h : Right hist s) {queue : List (Owned LocMsg)}
    {result : GnssAdapter × List Call} (hq : ∀ x ∈ queue, x.2.InDomain) (owner : Option ℕ)
    (hk : GnssAdapter.Keeps (engineOf hist) result) :
    Right (hist ++ entry e ({ s with queue := queue }.perform owner result).2)
      ({ s with queue := queue }.perform owner result).1 where
  timeBased := hk.timeBased
  drives := by
    rw [TrackingSystem.perform, engineOf_append_entry]
    exact hk.drives
  queue := hq
  awaiting := by
    intro x hx
    rcases mem_append.mp hx with hx | hx
    · exact h.awaiting x hx
    · obtain ⟨c, hc, hx⟩ := mem_filterMap.mp hx
      obtain ⟨callback, hcb, rfl⟩ := Option.map_eq_some_iff.mp hx
      exact hk.callbacks c hc callback hcb

theorem Right.give (h : Right hist s) {key : LocationSessionKey} {msg : LocMsg}
    (hs : s.give key msg = some (s', outs)) (hm : msg.InDomain) :
    Right (hist ++ entry e outs) s' := by
  rw [TrackingSystem.give] at hs
  split at hs
  · obtain ⟨rfl, rfl⟩ := some_pair_inj hs
    refine ⟨h.timeBased, ?_, fun x hx ↦ ?_, h.awaiting⟩
    · rw [engineOf_append_nil]
      exact h.drives
    · rcases mem_append.mp hx with hx | hx
      · exact h.queue x hx
      · rw [mem_singleton.mp hx]
        exact hm
  · cases hs

theorem Right.step (h : Right hist s) (hd : InDomain e) (hk : s.KeepsTightest e)
    (hs : s.step e = some (s', outs)) : Right (hist ++ entry e outs) s' := by
  cases e with
  | startTrackingCommand client options =>
    have h' : Right hist { s with mSessionIdCounter := generateSessionId s.mSessionIdCounter } :=
      ⟨h.timeBased, h.drives, h.queue, h.awaiting⟩
    exact h'.give hs hd
  | updateTrackingOptionsCommand client id options => exact h.give hs hd
  | stopTrackingCommand client id => exact h.give hs trivial
  | proc =>
    rw [TrackingSystem.step] at hs
    split at hs
    · cases hs
    · next owner msg queue hqueue =>
      obtain ⟨rfl, rfl⟩ := some_pair_inj hs
      have hmem : ∀ x ∈ (owner, msg) :: queue, x.2.InDomain := hqueue ▸ h.queue
      refine h.perform (fun x hx ↦ hmem x (mem_cons_of_mem _ hx)) owner
        (GnssAdapter.keeps_proc h.timeBased h.drives (hmem _ mem_cons_self) ?_)
      exact hk (owner, msg) (by rw [hqueue]; rfl)
  | returnToSender i err =>
    rw [TrackingSystem.step] at hs
    split at hs
    · cases hs
    · next owner callback hi =>
      obtain ⟨rfl, rfl⟩ := some_pair_inj hs
      refine ⟨h.timeBased, ?_, fun x hx ↦ ?_, fun x hx ↦ h.awaiting x (mem_of_mem_eraseIdx hx)⟩
      · rw [engineOf_append_nil]
        exact h.drives
      · rcases mem_append.mp hx with hx | hx
        · exact h.queue x hx
        · rw [mem_singleton.mp hx]
          exact ⟨h.awaiting _ (mem_of_getElem? hi), hd⟩
  | setEngineLockState state =>
    obtain ⟨rfl, rfl⟩ := some_pair_inj hs
    refine ⟨⟨h.timeBased.nHz, h.timeBased.distance, h.timeBased.valid⟩, ?_, h.queue, h.awaiting⟩
    rw [engineOf_append_nil]
    exact h.drives
  | setNHzNeeded needed =>
    obtain ⟨rfl, rfl⟩ := some_pair_inj hs
    refine ⟨⟨hd, h.timeBased.distance, h.timeBased.valid⟩, ?_, h.queue, h.awaiting⟩
    rw [engineOf_append_nil]
    exact h.drives
  | restartSessions =>
    obtain ⟨rfl, rfl⟩ := some_pair_inj hs
    exact h.perform h.queue none (GnssAdapter.keeps_restartSessions h.timeBased h.drives)

/-- In every run of commands that are not affected the engine is stopped iff there is no time based
session, and otherwise runs at the smallest interval and the smallest power mode of all of them. -/
theorem engine_tightest_of_run {adapter : GnssAdapter} (hn : adapter.mNHzNeeded = false)
    (h : Run step (fun s e ↦ InDomain e ∧ s.KeepsTightest e) (initial adapter) hist s) :
    (engineOf hist = none ↔ s.adapter.mTimeBasedTrackingSessions.values = []) ∧
      ∀ options, engineOf hist = some options →
        Tightest s.adapter.mTimeBasedTrackingSessions.values options := by
  have hr : Right hist s := h.invariant (Right.initial hn) fun hr hg hs ↦ hr.step hg.1 hg.2 hs
  have hd := hr.drives
  cases he : engineOf hist with
  | none =>
    rw [he] at hd
    exact ⟨⟨fun _ ↦ hd, fun _ ↦ rfl⟩, by simp⟩
  | some options =>
    rw [he] at hd
    refine ⟨⟨by simp, fun hnil ↦ absurd hnil hd.minInterval.ne_nil⟩, fun options' heq ↦ ?_⟩
    obtain rfl := Option.some_inj.mp heq
    exact hd

instance (options : TrackingOptions) : Decidable options.InDomain :=
  inferInstanceAs (Decidable (_ ∧ _))

instance : DecidablePred InDomain
  | .startTrackingCommand _ options | .updateTrackingOptionsCommand _ _ options =>
    inferInstanceAs (Decidable options.InDomain)
  | .returnToSender _ err => inferInstanceAs (Decidable (_ = _))
  | .setNHzNeeded needed => inferInstanceAs (Decidable (_ = _))
  | .stopTrackingCommand .. | .proc | .setEngineLockState _ | .restartSessions => .isTrue trivial

instance (options : TrackingOptions) (others : List TrackingOptions) :
    Decidable (Joins options others) :=
  inferInstanceAs (Decidable ((∀ s ∈ others, minInterval options < minInterval s) →
    ¬(∀ s ∈ others, powerMode options < powerMode s) →
      ∀ m ∈ firstLeast minInterval others, ∀ s ∈ others, m.powerMode ≤ s.powerMode))

instance (options : TrackingOptions) (others : List TrackingOptions) :
    Decidable (Slack options others) :=
  inferInstanceAs (Decidable (¬(∀ s ∈ others, minInterval options < minInterval s) ∧
    ¬∀ s ∈ others, powerMode options < powerMode s))

instance (old new : TrackingOptions) (others : List TrackingOptions) :
    Decidable (Replaces old new others) := inferInstanceAs (Decidable (_ ∨ _))

instance (a : GnssAdapter) : DecidablePred (LocMsg.KeepsTightest a)
  | .startTracking _ _ => inferInstanceAs (Decidable (_ → _))
  | .updateTracking key options => inferInstanceAs (Decidable (_ → _))
  | .stopTracking _ | .locApiResponse _ _ => .isTrue trivial

instance (s : TrackingSystem) : DecidablePred s.KeepsTightest
  | .proc => inferInstanceAs (Decidable (∀ x ∈ s.queue.head?, _))
  | .startTrackingCommand .. | .updateTrackingOptionsCommand .. | .stopTrackingCommand ..
  | .returnToSender .. | .setEngineLockState _ | .setNHzNeeded _ | .restartSessions =>
    .isTrue trivial

/-- Three sessions; the first one is made tighter, the last one looser, and the first
one stopped. -/
theorem engine_tightest_of_run_sessions :
    ∃ hist s options, Run step (fun s e ↦ InDomain e ∧ s.KeepsTightest e)
      (initial sampleAdapter) hist s ∧ engineOf hist = some options ∧
      s.adapter.mTimeBasedTrackingSessions.values =
        [sampleOptions 3000 0 .m1, sampleOptions 9000 0 .m5] ∧
      Tightest s.adapter.mTimeBasedTrackingSessions.values options := by
  obtain ⟨hist, s, hrun, hsome, hvalues⟩ := Run.exists_of_runEvents step
    (fun s e ↦ InDomain e ∧ s.KeepsTightest e) (initial sampleAdapter)
    [.startTrackingCommand 1 (sampleOptions 2000 0 .m2), .proc, .returnToSender 0 .success,
      .startTrackingCommand 1 (sampleOptions 3000 0 .m1), .proc, .proc, .returnToSender 0 .success,
      .startTrackingCommand 1 (sampleOptions 5000 0 .m4), .proc, .proc,
      .updateTrackingOptionsCommand 1 2 (sampleOptions 1000 0 .m1),
      .updateTrackingOptionsCommand 1 4 (sampleOptions 9000 0 .m5), .restartSessions, .proc, .proc,
      .stopTrackingCommand 1 2, .proc]
    (fun hist s ↦ (engineOf hist).isSome = true ∧
      s.adapter.mTimeBasedTrackingSessions.values =
        [sampleOptions 3000 0 .m1, sampleOptions 9000 0 .m5]) (by decide +kernel)
  obtain ⟨options, he⟩ := Option.isSome_iff_exists.mp hsome
  exact ⟨hist, s, options, hrun, he, hvalues, (engine_tightest_of_run rfl hrun).2 options he⟩

/-- A session that was the shortest one is made longer than the other one, and the engine stays at
its old interval. A session joins with the shortest interval, and the engine takes the power mode of
the session that had it before, which is not the smallest one. -/
theorem not_engine_tightest :
    (∃ hist s options, Run step (fun _ e ↦ InDomain e) (initial sampleAdapter) hist s ∧ s.Quiet ∧
      engineOf hist = some options ∧
      ¬Tightest s.adapter.mTimeBasedTrackingSessions.values options) ∧
    ∃ hist s options, Run step (fun _ e ↦ InDomain e) (initial sampleAdapter) hist s ∧ s.Quiet ∧
      engineOf hist = some options ∧
      ¬Tightest s.adapter.mTimeBasedTrackingSessions.values options := by
  constructor
  · obtain ⟨hist, s, hrun, hquiet, he, hall⟩ := Run.exists_of_runEvents step (fun _ e ↦ InDomain e)
      (initial sampleAdapter)
      [.startTrackingCommand 1 (sampleOptions 1000 0 .m2), .proc, .returnToSender 0 .success, .proc,
        .startTrackingCommand 1 (sampleOptions 5000 0 .m2), .proc,
        .updateTrackingOptionsCommand 1 2 (sampleOptions 10000 0 .m2), .proc]
      (fun hist s ↦ s.Quiet ∧ engineOf hist = some (sampleOptions 1000 0 .m2) ∧
        ∀ o ∈ s.adapter.mTimeBasedTrackingSessions.values, o.minInterval ≠ 1000)
      (by decide +kernel)
    refine ⟨hist, s, _, hrun, hquiet, he, fun ht ↦ ?_⟩
    obtain ⟨o, ho, hi⟩ := ht.minInterval.1
    exact hall o ho hi
  · obtain ⟨hist, s, hrun, hquiet, he, hmem⟩ := Run.exists_of_runEvents step (fun _ e ↦ InDomain e)
      (initial sampleAdapter)
      [.startTrackingCommand 1 (sampleOptions 1000 0 .m2), .proc, .returnToSender 0 .success, .proc,
        .startTrackingCommand 1 (sampleOptions 5000 0 .m1), .proc, .returnToSender 0 .success,
        .proc,
        .startTrackingCommand 1 (sampleOptions 500 0 .m3), .proc, .returnToSender 0 .success, .proc]
      (fun hist s ↦ s.Quiet ∧ engineOf hist = some (sampleOptions 500 0 .m2) ∧
        sampleOptions 5000 0 .m1 ∈ s.adapter.mTimeBasedTrackingSessions.values)
      (by decide +kernel)
    refine ⟨hist, s, _, hrun, hquiet, he, fun ht ↦ ?_⟩
    exact absurd (ht.powerMode.le hmem) (by decide)

end TrackingSystem

end MataDevice.Tracking
