import MataDevice.Tracking.Responses

/-!
# The sessions of the tracking commands

A tracking session is time based, distance based, or on its way from the one to the other while the
engine stops it. The two maps of the adapter are changed by the messages of the commands and by the
callbacks of the requests that these have made, which may come when other commands for the same
session have been processed. A callback that restores or saves a session does not look whether the
session is still there, so that it can bring back one that was stopped.

Everything a message does concerns one session. What it does to it is written here as a relation
between what the maps have for the session before and after, the request that the message leaves
behind and the answer it gives; and the adapter is shown to follow it.
-/

namespace MataDevice.Tracking

open Option (some_inj)

/-! ## What a message does to its session -/

inductive CommandKind
  | start
  | update
  | stop
  deriving DecidableEq, Repr

/-- The command that a message is for. -/
def LocMsg.command : LocMsg → Option (CommandKind × LocationSessionKey)
  | .startTracking key _ => some (.start, key)
  | .updateTracking key _ => some (.update, key)
  | .stopTracking key => some (.stop, key)
  | .locApiResponse _ _ => none

def LocMsg.callback : LocMsg → Option Callback
  | .locApiResponse callback _ => some callback
  | .startTracking .. | .updateTracking .. | .stopTracking _ => none

/-- The options of a session that is saved as a distance based one. -/
def TrackingOptions.IsDistance (options : TrackingOptions) (supported : Bool) : Prop :=
  options.minDistance > 0 ∧ supported = true

instance (options : TrackingOptions) (supported : Bool) :
    Decidable (options.IsDistance supported) :=
  inferInstanceAs (Decidable (_ ∧ _))

/-- An answer that the callback of a start takes back the session for. -/
def Refused (lock : EngineLockState) (err : LocationError) : Prop :=
  lock = .enabled ∧ err ≠ .success

instance (lock : EngineLockState) (err : LocationError) : Decidable (Refused lock err) :=
  inferInstanceAs (Decidable (_ ∧ _))

/-- An answer that the callbacks of distance based sessions take for a success. -/
def Accepted (lock : EngineLockState) (err : LocationError) : Prop :=
  lock = .disabled ∨ err = .success

instance (lock : EngineLockState) (err : LocationError) : Decidable (Accepted lock err) :=
  inferInstanceAs (Decidable (_ ∨ _))

/-- What the two maps have for a session. -/
structure Held where
  time : Option TrackingOptions
  dist : Option TrackingOptions
  deriving DecidableEq

namespace Held

variable (x : Held)

def save (supported : Bool) (options : TrackingOptions) : Held :=
  if options.IsDistance supported then { x with dist := some options }
  else { x with time := some options }

/-- The time based session goes first, if there is one. -/
def erase : Held := if x.time ≠ none then { x with time := none } else { x with dist := none }

variable {x}

theorem erase_of_time (h : x.time ≠ none) : x.erase = { x with time := none } := if_pos h

theorem erase_of_dist (h : x.time = none) : x.erase = { x with dist := none } :=
  if_neg (not_not.mpr h)

end Held

section

variable (supported : Bool) (lock : EngineLockState) (key : LocationSessionKey) (x : Held)

/-- What is left to do after a multiplexing: to wait for the answer to a request, whose callback is
one of some kind, or nothing but to report a success. -/
def Waits (allowed : Callback → Prop) (c : Option Callback) (r : Option LocationError) : Prop :=
  c = none ∧ r = some .success ∨ (∃ callback, c = some callback ∧ allowed callback) ∧ r = none

/-- The reaction to a message: what is held afterwards, the callback of the request that is made,
and the answer that is given. -/
inductive Reacts : LocMsg → Held → Option Callback → Option LocationError → Prop
  /-- The start is postponed or has an error that is not reported. -/
  | startIdle (o : TrackingOptions) : Reacts (.startTracking key o) x none none
  | startDistance (o o' : TrackingOptions) (ho : o'.IsDistance supported) :
    Reacts (.startTracking key o) (x.save supported o') (some (.startedDistance key)) none
  | startTime (o o' : TrackingOptions) (ho : ¬o'.IsDistance supported) {c : Option Callback}
    {r : Option LocationError} (hc : Waits (· = .startedTime key) c r) :
    Reacts (.startTracking key o) (x.save supported o') c r
  /-- The update is postponed or refused. -/
  | updateIdle (o : TrackingOptions) {r : Option LocationError} (hr : r ≠ some .success) :
    Reacts (.updateTracking key o) x none r
  /-- The stop of the time based session may be one of the engine, or a restart for the others. -/
  | switchToDistance (o o' : TrackingOptions) (htime : x.time ≠ none) {c : Option Callback}
    {r : Option LocationError}
    (hc : Waits (fun callback ↦ callback = .stoppedTime key ∨ callback = .startedTime key) c r) :
    Reacts (.updateTracking key o) (x.erase.save supported o') c r
  | switchToTime (o o' : TrackingOptions) (hdist : x.dist ≠ none) (ho : o'.minDistance = 0) :
    Reacts (.updateTracking key o) x.erase (some (.switchToTime key o')) none
  | updateTime (o o' old : TrackingOptions) (htime : x.time = some old) (ho : o'.minDistance = 0)
    {c : Option Callback} {r : Option LocationError} (hc : Waits (· = .updatedTime key old) c r) :
    Reacts (.updateTracking key o) (x.save supported o') c r
  | restartDistance (o o' : TrackingOptions) (hdist : x.dist ≠ none) (ho : o'.minDistance > 0) :
    Reacts (.updateTracking key o) x (some (.restartDistance key o')) none
  | stopTime (htime : x.time ≠ none) {c : Option Callback} {r : Option LocationError}
    (hc : Waits (fun callback ↦ callback = .stoppedTime key ∨ callback = .startedTime key) c r) :
    Reacts (.stopTracking key) x.erase c r
  | stopDistance (htime : x.time = none) (hdist : x.dist ≠ none) :
    Reacts (.stopTracking key) x (some (.stoppedDistance key)) none
  | stopUnknown : Reacts (.stopTracking key) x none (some .idUnknown)
  | started (callback : Callback)
    (hc : callback = .startedDistance key ∨ callback = .startedTime key) (err : LocationError) :
    Reacts (.locApiResponse callback err) (if Refused lock err then x.erase else x) none (some err)
  /-- A failed update restores the options it was to replace. -/
  | updatedTime (old : TrackingOptions) (err : LocationError) :
    Reacts (.locApiResponse (.updatedTime key old) err)
      (if Refused lock err then x.save supported old else x) none (some err)
  | stoppedTime (err : LocationError) :
    Reacts (.locApiResponse (.stoppedTime key) err) x none (some err)
  /-- The session is saved, whether it was stopped or not. -/
  | switchedToTime (o : TrackingOptions) (err : LocationError) {c : Option Callback}
    {r : Option LocationError} (hc : Waits (· = .startedTime key) c r) :
    Reacts (.locApiResponse (.switchToTime key o) err) (x.save supported o) c r
  | restart (o : TrackingOptions) (err : LocationError) {c : Option Callback}
    (hc : c = none ∨ c = some (.restartedDistance key o)) :
    Reacts (.locApiResponse (.restartDistance key o) err) x c none
  | restarted (o : TrackingOptions) (err : LocationError) :
    Reacts (.locApiResponse (.restartedDistance key o) err)
      (if Accepted lock err then x.save supported o else x) none (some err)
  | stoppedDistance (err : LocationError) :
    Reacts (.locApiResponse (.stoppedDistance key) err)
      (if Accepted lock err then x.erase else x) none (some err)

end

/-- The requests that are for a command, that is, all but the one with the empty lambda. -/
def requestsOf (calls : List Call) : List Callback :=
  (calls.filterMap Call.response).filter fun c ↦ c.owes ≠ none

/-- What is reported for the session is this. -/
def Reports (key : LocationSessionKey) (calls : List Call) (r : Option LocationError) : Prop :=
  ∀ err, Call.responseCb key.client err key.id ∈ calls ↔ r = some err

namespace GnssAdapter

/-- What the adapter has for a session. -/
def held (a : GnssAdapter) (key : LocationSessionKey) : Held :=
  ⟨a.mTimeBasedTrackingSessions.find? key, a.mDistanceBasedTrackingSessions.find? key⟩

/-- The adapter has done what a session's reaction says, and nothing to the other sessions. -/
structure Follows (a : GnssAdapter) (key : LocationSessionKey) (result : GnssAdapter × List Call)
    (x : Held) (c : Option Callback) (r : Option LocationError) : Prop where
  held : result.1.held key = x
  others : ∀ key', key' ≠ key → result.1.held key' = a.held key'
  requests : requestsOf result.2 = c.toList
  reports : Reports key result.2 r

variable {a : GnssAdapter} {key key' : LocationSessionKey} {options : TrackingOptions}

theorem held_saveTrackingSession (key' : LocationSessionKey) :
    (a.saveTrackingSession key options).held key' =
      if key' = key then (a.held key).save a.distanceBaseTrackingSupported options
      else a.held key' := by
  rw [saveTrackingSession]
  by_cases hd : options.minDistance > 0 ∧ a.distanceBaseTrackingSupported = true
  · rw [if_pos hd]
    simp only [held, OrderedMap.find?_insert, Held.save,
      if_pos (show options.IsDistance a.distanceBaseTrackingSupported from hd)]
    split
    · next heq => rw [heq]
    · rfl
  · rw [if_neg hd]
    simp only [held, OrderedMap.find?_insert, Held.save,
      if_neg (show ¬options.IsDistance a.distanceBaseTrackingSupported from hd)]
    split
    · next heq => rw [heq]
    · rfl

theorem isTimeBasedTrackingSession_iff :
    a.isTimeBasedTrackingSession key = true ↔ (a.held key).time ≠ none := by
  simp [isTimeBasedTrackingSession, held, Option.isSome_iff_ne_none]

theorem isDistanceBasedTrackingSession_iff :
    a.isDistanceBasedTrackingSession key = true ↔ (a.held key).dist ≠ none := by
  simp [isDistanceBasedTrackingSession, held, Option.isSome_iff_ne_none]

theorem held_eraseTrackingSession (key' : LocationSessionKey) :
    (a.eraseTrackingSession key).held key' =
      if key' = key then (a.held key).erase else a.held key' := by
  rw [eraseTrackingSession]
  by_cases ht : a.isTimeBasedTrackingSession key = true
  · rw [if_pos ht, Held.erase_of_time (isTimeBasedTrackingSession_iff.mp ht)]
    simp only [held, OrderedMap.find?_erase]
    split
    · next heq => rw [heq]
    · rfl
  · rw [if_neg ht, Held.erase_of_dist (by simpa [isTimeBasedTrackingSession_iff] using ht)]
    simp only [held, OrderedMap.find?_erase]
    split
    · next heq => rw [heq]
    · rfl

/-! ## The adapter follows the reactions -/

theorem requestsOf_append (calls calls' : List Call) :
    requestsOf (calls ++ calls') = requestsOf calls ++ requestsOf calls' := by
  rw [requestsOf, List.filterMap_append, List.filter_append]
  rfl

@[simp] theorem requestsOf_reportResponse (err : LocationError) :
    requestsOf (a.reportResponse key err) = [] := by
  rw [reportResponse]
  split <;> rfl

theorem reports_reportResponse (h : a.Registered key.client) (err : LocationError) :
    Reports key (a.reportResponse key err) (some err) := by
  intro err'
  rw [Registered] at h
  rw [reportResponse, if_pos h]
  simp [eq_comm]

theorem reports_nil (key : LocationSessionKey) : Reports key [] none := by simp [Reports]

theorem reports_of_forall {calls : List Call} (h : ∀ c ∈ calls, c.answers = none) :
    Reports key calls none := by
  intro err
  constructor
  · intro hmem
    cases h _ hmem
  · intro hnone
    cases hnone

/-- A multiplexing does not change what is held; it makes no calls if the client is not to wait. -/
structure Multiplexed (a : GnssAdapter) (key : LocationSessionKey)
    (multiplexed : Bool × GnssAdapter × List Call) (allowed : Callback → Prop) : Prop where
  held : multiplexed.2.1.held = a.held
  config : multiplexed.2.1.config = a.config
  noWait : multiplexed.1 = true → multiplexed.2.2 = []
  waits : multiplexed.1 = false → ∃ c r, requestsOf multiplexed.2.2 = Option.toList c ∧
    Reports key multiplexed.2.2 r ∧ Waits allowed c r

theorem held_checkAndSetSPEToRunforNHz (a : GnssAdapter) (options : TrackingOptions) :
    (a.checkAndSetSPEToRunforNHz options).2.1.held = a.held := by
  rw [checkAndSetSPEToRunforNHz]
  repeat' split
  all_goals rfl

variable {allowed : Callback → Prop}

theorem multiplexed_nil : Multiplexed a key (true, a, []) allowed :=
  ⟨rfl, rfl, fun _ ↦ rfl, by simp⟩

theorem multiplexed_runTimeBasedTracking (h : a.Registered key.client) {callback : Callback}
    (hc : callback.owes ≠ none) (hallowed : allowed callback) :
    Multiplexed a key (false, a.runTimeBasedTracking key options callback) allowed := by
  have hheld := a.held_checkAndSetSPEToRunforNHz options
  have hconfig := a.config_checkAndSetSPEToRunforNHz options
  rw [runTimeBasedTracking]
  split
  next isRunning a' tempOptions heq =>
    rw [heq] at hheld hconfig
    split
    · refine ⟨hheld, hconfig, by simp, fun _ ↦ ⟨some callback, none, ?_, ?_, ?_⟩⟩
      · simp [requestsOf, Call.response, hc]
      · exact reports_of_forall (by simp [Call.answers])
      · exact Or.inr ⟨⟨callback, rfl, hallowed⟩, rfl⟩
    · exact ⟨hheld, hconfig, by simp, fun _ ↦ ⟨none, some .success, requestsOf_reportResponse _,
        reports_reportResponse (h.of_config hconfig) _, Or.inl ⟨rfl, rfl⟩⟩⟩

theorem multiplexed_startTimeBasedTrackingMultiplex (options : TrackingOptions)
    (h : a.Registered key.client) :
    Multiplexed a key (a.startTimeBasedTrackingMultiplex key options) (· = .startedTime key) := by
  rw [startTimeBasedTrackingMultiplex]
  split
  · exact multiplexed_runTimeBasedTracking h (by simp [Callback.owes]) rfl
  · dsimp only
    split
    · exact multiplexed_runTimeBasedTracking h (by simp [Callback.owes]) rfl
    · exact multiplexed_nil

theorem multiplexed_updateTrackingMultiplex (options : TrackingOptions)
    (h : a.Registered key.client) {old : TrackingOptions}
    (hold : (a.held key).time = some old) :
    Multiplexed a key (a.updateTrackingMultiplex key options) (· = .updatedTime key old) := by
  have hfind : a.mTimeBasedTrackingSessions.find? key = some old := hold
  simp only [updateTrackingMultiplex, hfind]
  split
  · split
    · exact multiplexed_runTimeBasedTracking h (by simp [Callback.owes]) rfl
    · split
      · exact multiplexed_runTimeBasedTracking h (by simp [Callback.owes]) rfl
      · exact multiplexed_nil
  · exact multiplexed_nil

theorem multiplexed_stopTimeBasedTrackingMultiplex (h : a.Registered key.client) :
    Multiplexed a key (a.stopTimeBasedTrackingMultiplex key)
      fun c ↦ c = .stoppedTime key ∨ c = .startedTime key := by
  rw [stopTimeBasedTrackingMultiplex]
  split
  · exact ⟨rfl, rfl, by simp, fun _ ↦ ⟨some (.stoppedTime key), none, rfl,
      reports_of_forall (by simp [stopTracking, Call.answers]),
      Or.inr ⟨⟨_, rfl, Or.inl rfl⟩, rfl⟩⟩⟩
  · split
    · exact multiplexed_nil
    · dsimp only
      split
      · exact multiplexed_runTimeBasedTracking h (by simp [Callback.owes]) (Or.inr rfl)
      · exact multiplexed_nil

/-- The report that may follow a multiplexing is that of a success. -/
theorem Multiplexed.waits_thenReport {multiplexed : Bool × GnssAdapter × List Call} (hm : Multiplexed a key multiplexed allowed)
    (edit : GnssAdapter → GnssAdapter) (h : (edit multiplexed.2.1).Registered key.client) :
    ∃ c r, requestsOf (thenReport key multiplexed edit).2 = Option.toList c ∧
      Reports key (thenReport key multiplexed edit).2 r ∧ Waits allowed c r := by
  obtain ⟨noWait, a', calls⟩ := multiplexed
  cases noWait with
  | true =>
    have hcalls : calls = [] := hm.noWait rfl
    subst hcalls
    exact ⟨none, some .success, requestsOf_reportResponse _, reports_reportResponse h _,
      Or.inl ⟨rfl, rfl⟩⟩
  | false =>
    have hwaits := hm.waits rfl
    simpa [thenReport] using hwaits

/-- A session is started as a time based one, or turned into one. -/
theorem follows_startTimeBasedSession (h : a.Registered key.client) (options : TrackingOptions) :
    ∃ c r, a.Follows key (a.startTimeBasedSession key options)
      ((a.held key).save a.distanceBaseTrackingSupported options) c r ∧
        Waits (· = .startedTime key) c r := by
  have hm := multiplexed_startTimeBasedTrackingMultiplex options h
  obtain ⟨c, r, hrequests, hreports, hc⟩ := hm.waits_thenReport
    (·.saveTrackingSession key options)
    (h.of_config ((config_saveTrackingSession _ _ _).trans hm.config))
  have hsupported := congrArg (fun c ↦ c.2.2.2.1) hm.config
  refine ⟨c, r, ⟨?_, fun key' hne ↦ ?_, hrequests, hreports⟩, hc⟩
  · rw [startTimeBasedSession, thenReport_fst, held_saveTrackingSession, if_pos rfl, hm.held]
    exact congrArg (Held.save _ · _) hsupported
  · rw [startTimeBasedSession, thenReport_fst, held_saveTrackingSession, if_neg hne, hm.held]

/-- A time based session is stopped. -/
theorem follows_stopTimeBasedSession (h : a.Registered key.client) :
    ∃ c r, a.Follows key (thenReport key (a.stopTimeBasedTrackingMultiplex key)
      (·.eraseTrackingSession key)) (a.held key).erase c r ∧
        Waits (fun callback ↦ callback = .stoppedTime key ∨ callback = .startedTime key) c r := by
  have hm := multiplexed_stopTimeBasedTrackingMultiplex h
  obtain ⟨c, r, hrequests, hreports, hc⟩ := hm.waits_thenReport
    (·.eraseTrackingSession key)
    (h.of_config ((config_eraseTrackingSession _ _).trans hm.config))
  refine ⟨c, r, ⟨?_, fun key' hne ↦ ?_, hrequests, hreports⟩, hc⟩
  · rw [thenReport_fst, held_eraseTrackingSession, if_pos rfl, hm.held]
  · rw [thenReport_fst, held_eraseTrackingSession, if_neg hne, hm.held]

/-- What is held stays as it is. -/
theorem follows_refl (a : GnssAdapter) {c : Option Callback} {r : Option LocationError}
    {calls : List Call} (hrequests : requestsOf calls = c.toList) (hreports : Reports key calls r) :
    a.Follows key (a, calls) (a.held key) c r :=
  ⟨rfl, fun _ _ ↦ rfl, hrequests, hreports⟩

theorem follows_reportResponse (h : a.Registered key.client) (err : LocationError) :
    a.Follows key (a, a.reportResponse key err) (a.held key) none (some err) :=
  a.follows_refl (requestsOf_reportResponse err) (reports_reportResponse h err)

theorem follows_postpone (a : GnssAdapter) (key : LocationSessionKey) (msg : LocMsg) :
    a.Follows key (a.postpone msg) (a.held key) none none :=
  ⟨rfl, fun _ _ ↦ rfl, rfl, reports_nil key⟩

theorem follows_startTrackingProc (h : a.Registered key.client) (options : TrackingOptions) :
    ∃ x c r, Reacts a.distanceBaseTrackingSupported a.mEngineLockState key (a.held key)
      (.startTracking key options) x c r ∧
        a.Follows key (a.startTrackingProc key options) x c r := by
  rw [startTrackingProc]
  split
  · exact ⟨_, _, _, .startIdle options, a.follows_postpone key _⟩
  split
  · exact ⟨_, _, _, .startIdle options, a.follows_refl rfl (reports_nil key)⟩
  split
  · exact ⟨_, _, _, .startIdle options, a.follows_refl rfl (reports_nil key)⟩
  dsimp only
  split
  · next hd =>
    refine ⟨_, _, _, .startDistance options options.raiseInterval hd, ?_, ?_, rfl,
      reports_of_forall (by simp [Call.answers])⟩
    · rw [held_saveTrackingSession, if_pos rfl]
    · exact fun key' hne ↦ by rw [held_saveTrackingSession, if_neg hne]
  · next hd =>
    obtain ⟨c, r, hfollows, hc⟩ :=
      follows_startTimeBasedSession h options.raiseInterval.fallBackToM2
    refine ⟨_, c, r, .startTime options _ ?_ hc, hfollows⟩
    have hdistance : options.raiseInterval.fallBackToM2.minDistance =
        options.raiseInterval.minDistance := by
      rw [TrackingOptions.fallBackToM2]
      split <;> rfl
    rw [TrackingOptions.IsDistance, hdistance]
    exact hd

theorem follows_switchToDistance (h : a.Registered key.client) (options : TrackingOptions) :
    ∃ c r, a.Follows key (a.switchToDistance key options)
      ((a.held key).erase.save a.distanceBaseTrackingSupported options) c r ∧
        Waits (fun callback ↦ callback = .stoppedTime key ∨ callback = .startedTime key) c r := by
  obtain ⟨c, r, hfollows, hc⟩ := follows_stopTimeBasedSession h
  have hsupported := congrArg (fun c ↦ c.2.2.2.1)
    ((config_eraseTrackingSession (a.stopTimeBasedTrackingMultiplex key).2.1 key).trans
      (multiplexed_stopTimeBasedTrackingMultiplex h).config)
  refine ⟨c, r, ⟨?_, fun key' hne ↦ ?_, ?_, fun err ↦ ?_⟩, hc⟩
  · rw [switchToDistance, held_saveTrackingSession, if_pos rfl, hfollows.held]
    exact congrArg (Held.save _ · _) hsupported
  · rw [switchToDistance, held_saveTrackingSession, if_neg hne, hfollows.others key' hne]
  · rw [switchToDistance, requestsOf_append, hfollows.requests]
    exact List.append_nil _
  · rw [switchToDistance, List.mem_append, ← hfollows.reports err]
    simp

theorem follows_updateTrackingProc (h : a.Registered key.client) (options : TrackingOptions) :
    ∃ x c r, Reacts a.distanceBaseTrackingSupported a.mEngineLockState key (a.held key)
      (.updateTracking key options) x c r ∧
        a.Follows key (a.updateTrackingProc key options) x c r := by
  rw [updateTrackingProc]
  split
  · exact ⟨_, _, _, .updateIdle options (by simp), a.follows_postpone key _⟩
  dsimp only
  split
  · exact ⟨_, _, _, .updateIdle options (by simp), follows_reportResponse h _⟩
  next hknown =>
  split
  · exact ⟨_, _, _, .updateIdle options (by simp), follows_reportResponse h _⟩
  split
  · next hswitch =>
    obtain ⟨c, r, hfollows, hc⟩ := follows_switchToDistance h options.fallBackToM2.raiseInterval
    exact ⟨_, c, r, .switchToDistance options _ (isTimeBasedTrackingSession_iff.mp hswitch.1) hc,
      hfollows⟩
  next hnoswitch =>
  split
  · next hswitch =>
    refine ⟨_, _, _, .switchToTime options options.fallBackToM2.raiseInterval
      (isDistanceBasedTrackingSession_iff.mp hswitch.1) hswitch.2, ?_, ?_, rfl,
      reports_of_forall (by simp [Call.answers])⟩
    · rw [held_eraseTrackingSession, if_pos rfl]
    · exact fun key' hne ↦ by rw [held_eraseTrackingSession, if_neg hne]
  next hnoswitch' =>
  split
  · next htime =>
    obtain ⟨old, hold⟩ := Option.ne_none_iff_exists'.mp (isTimeBasedTrackingSession_iff.mp htime)
    have hdistance : options.fallBackToM2.raiseInterval.minDistance = 0 := by
      by_contra hne
      exact hnoswitch ⟨htime, Nat.pos_of_ne_zero hne⟩
    have hm := multiplexed_updateTrackingMultiplex options.fallBackToM2.raiseInterval h hold
    obtain ⟨c, r, hrequests, hreports, hc⟩ := hm.waits_thenReport
      (·.saveTrackingSession key options.fallBackToM2.raiseInterval)
      (h.of_config ((config_saveTrackingSession _ _ _).trans hm.config))
    have hsupported := congrArg (fun c ↦ c.2.2.2.1) hm.config
    refine ⟨_, c, r, .updateTime options _ old hold hdistance hc, ?_, ?_, hrequests, hreports⟩
    · rw [thenReport_fst, held_saveTrackingSession, if_pos rfl, hm.held]
      exact congrArg (Held.save _ · _) hsupported
    · intro key' hne
      rw [thenReport_fst, held_saveTrackingSession, if_neg hne, hm.held]
  · next htime =>
    have hdist : a.isDistanceBasedTrackingSession key = true := by
      by_contra hnot
      exact hknown ⟨by simpa using htime, by simpa using hnot⟩
    refine ⟨_, _, _, .restartDistance options options.fallBackToM2.raiseInterval
      (isDistanceBasedTrackingSession_iff.mp hdist) ?_,
      a.follows_refl rfl (reports_of_forall (by simp [Call.answers]))⟩
    exact Nat.pos_of_ne_zero fun hzero ↦ hnoswitch' ⟨hdist, hzero⟩

theorem follows_stopTrackingProc (h : a.Registered key.client) :
    ∃ x c r, Reacts a.distanceBaseTrackingSupported a.mEngineLockState key (a.held key)
      (.stopTracking key) x c r ∧ a.Follows key (a.stopTrackingProc key) x c r := by
  rw [stopTrackingProc]
  split
  · next htime =>
    obtain ⟨c, r, hfollows, hc⟩ := follows_stopTimeBasedSession h
    exact ⟨_, c, r, .stopTime (isTimeBasedTrackingSession_iff.mp htime) hc, hfollows⟩
  next htime =>
  split
  · next hdist =>
    exact ⟨_, _, _, .stopDistance (by simpa [isTimeBasedTrackingSession_iff] using htime)
      (isDistanceBasedTrackingSession_iff.mp hdist),
      a.follows_refl rfl (reports_of_forall (by simp [Call.answers]))⟩
  · exact ⟨_, _, _, .stopUnknown, follows_reportResponse h _⟩

/-- A callback that edits the session, or not, and then reports the answer. -/
theorem follows_edit (h : a.Registered key.client) (p : Prop) [Decidable p]
    (edit : GnssAdapter → GnssAdapter) {x : Held} (err : LocationError)
    (hedit : ∀ key', (edit a).held key' = if key' = key then x else a.held key') :
    a.Follows key (if p then edit a else a, a.reportResponse key err)
      (if p then x else a.held key) none (some err) := by
  refine ⟨?_, fun key' hne ↦ ?_, requestsOf_reportResponse err, reports_reportResponse h err⟩
  · split
    · exact (hedit key).trans (if_pos rfl)
    · rfl
  · change (if p then edit a else a).held key' = _
    split
    · exact (hedit key').trans (if_neg hne)
    · rfl

theorem follows_locApiResponseProc {callback : Callback} (hc : callback.owes = some key)
    (h : a.Registered key.client) (err : LocationError) :
    ∃ x c r, Reacts a.distanceBaseTrackingSupported a.mEngineLockState key (a.held key)
      (.locApiResponse callback err) x c r ∧
        a.Follows key (a.locApiResponseProc err callback) x c r := by
  cases callback with
  | startedDistance key' | startedTime key' =>
    obtain rfl : key' = key := some_inj.mp hc
    refine ⟨_, _, _, .started _ (by simp) err, ?_⟩
    exact follows_edit h (Refused a.mEngineLockState err) (·.eraseTrackingSession key') err
      fun _ ↦ held_eraseTrackingSession _
  | updatedTime key' old =>
    obtain rfl : key' = key := some_inj.mp hc
    refine ⟨_, _, _, .updatedTime old err, ?_⟩
    exact follows_edit h (Refused a.mEngineLockState err) (·.saveTrackingSession key' old) err
      fun _ ↦ held_saveTrackingSession _
  | stoppedTime key' =>
    obtain rfl : key' = key := some_inj.mp hc
    exact ⟨_, _, _, .stoppedTime err, follows_reportResponse h err⟩
  | switchToTime key' options =>
    obtain rfl : key' = key := some_inj.mp hc
    obtain ⟨c, r, hfollows, hc⟩ := follows_startTimeBasedSession h options
    exact ⟨_, c, r, .switchedToTime options err hc, hfollows⟩
  | restartDistance key' options =>
    obtain rfl : key' = key := some_inj.mp hc
    simp only [locApiResponseProc]
    split
    · exact ⟨_, _, _, .restart options err (Or.inr rfl),
        a.follows_refl rfl (reports_of_forall (by simp [Call.answers]))⟩
    · exact ⟨_, _, _, .restart options err (Or.inl rfl), a.follows_refl rfl (reports_nil key')⟩
  | restartedDistance key' options =>
    obtain rfl : key' = key := some_inj.mp hc
    refine ⟨_, _, _, .restarted options err, ?_⟩
    exact follows_edit h (Accepted a.mEngineLockState err) (·.saveTrackingSession key' options)
      err fun _ ↦ held_saveTrackingSession _
  | stoppedDistance key' =>
    obtain rfl : key' = key := some_inj.mp hc
    refine ⟨_, _, _, .stoppedDistance err, ?_⟩
    exact follows_edit h (Accepted a.mEngineLockState err) (·.eraseTrackingSession key') err
      fun _ ↦ held_eraseTrackingSession _
  | ignore => cases hc

/-- Every message does to its session what the relation says, and nothing to the others. -/
theorem exists_reacts {msg : LocMsg} (hm : msg.owes = some key) (h : a.Registered key.client) :
    ∃ x c r, Reacts a.distanceBaseTrackingSupported a.mEngineLockState key (a.held key) msg x c r ∧
      a.Follows key (a.proc msg) x c r := by
  cases msg with
  | startTracking key' options =>
    obtain rfl : key' = key := some_inj.mp hm
    exact follows_startTrackingProc h options
  | updateTracking key' options =>
    obtain rfl : key' = key := some_inj.mp hm
    exact follows_updateTrackingProc h options
  | stopTracking key' =>
    obtain rfl : key' = key := some_inj.mp hm
    exact follows_stopTrackingProc h
  | locApiResponse callback err => exact follows_locApiResponseProc hm h err

end GnssAdapter

end MataDevice.Tracking
