import MataDevice.Lib.History
import MataDevice.Ntrip.Sessions

/-!
# The NTRIP stream follows its switch

The NTRIP client is to run only while NTRIP is enabled and there is a time based session, with the
parameters of the latest enabling, and the starts and stops it is given are to alternate. Two steps
break this. NTRIP is enabled with other parameters while the client runs: the bit that says so is
cleared, but the client is not stopped, and if it is started again it gets a second start. And the
last time based session is erased without a stop of the engine. Both leave the client running with
nobody to stop it; without such steps it follows its switch.
-/

namespace MataDevice.Ntrip

/-- What a call makes of the client: the parameters it is started with, or that it is stopped. -/
def Call.sourceOf : Call → Option (Option StartDgnssNtripParams)
  | .startDgnssSource params => some (some params)
  | .stopDgnssSource => some none
  | .updateNmeaToDgnssServer _ => none

/-- The parameters with which the client runs after some calls. -/
def source (calls : List Call) : Option StartDgnssNtripParams := (latest Call.sourceOf calls).join

/-- A start comes when the client does not run, and a stop when it does. -/
def Call.InTurn (calls : List Call) : Call → Prop
  | .startDgnssSource _ => source calls = none
  | .stopDgnssSource => source calls ≠ none
  | .updateNmeaToDgnssServer _ => True

def Event.enabledOf : Event → Option (Option GnssNtripConnectionParams)
  | .handleEnablePPENtrip params => some (some params)
  | .handleDisablePPENtrip => some none
  | _ => none

/-- The parameters with which NTRIP is enabled after some events. -/
def enabled (events : List Event) : Option GnssNtripConnectionParams :=
  (latest Event.enabledOf events).join

/-- The NTRIP client follows its switch. -/
structure Follows (hist : List (Item Event Call)) (s : NtripSystem) : Prop where
  alternate : Always Call.InTurn (outsOf hist)
  started : (source (outsOf hist)).isSome = s.dgnss.mDgnssState.ntripSessionStarted
  session : (source (outsOf hist)).isSome → s.isInSession = true
  params : ∀ p, source (outsOf hist) = some p → enabled (eventsOf hist) = some p.ntripParams

/-- While the client runs, NTRIP is not enabled with other parameters, and no message erases the
last time based session without a stop of the engine. -/
def NtripSystem.Safe (s : NtripSystem) : Event → Prop
  | .handleEnablePPENtrip params =>
    s.dgnss.mDgnssState.ntripSessionStarted = true → s.dgnss.receivedSame params = true
  | .tracking .proc =>
    s.dgnss.mDgnssState.ntripSessionStarted = true →
      ∀ m ∈ s.tracking.queue.head?, ¬ErasesLast s.tracking.adapter m.2
  | _ => True

instance (s : NtripSystem) (e : Event) : Decidable (s.Safe e) :=
  match e with
  | .handleEnablePPENtrip _ => inferInstanceAs (Decidable (_ → _))
  | .tracking .proc => inferInstanceAs (Decidable (_ → _))
  | .tracking (.startTrackingCommand ..) | .tracking (.updateTrackingOptionsCommand ..)
  | .tracking (.stopTrackingCommand ..) | .tracking (.returnToSender ..)
  | .tracking (.setEngineLockState _) | .tracking (.setNHzNeeded _) | .tracking .restartSessions
  | .suspendSessions | .handleDisablePPENtrip | .updateNTRIPGGAConsentCommand _ | .reportNmea _
  | .reportPosition .. | .setBootTime _ => inferInstanceAs (Decidable True)

/-! ## What the functions do to the client -/

@[simp] theorem source_nil : source [] = none := rfl

theorem source_concat (calls : List Call) (c : Call) :
    source (calls ++ [c]) = (c.sourceOf.or (latest Call.sourceOf calls)).join := by
  rw [source, latest_concat]

/-- The calls agree with the bits. -/
structure Mirrors (calls : List Call) (d : Dgnss) : Prop where
  alternate : Always Call.InTurn calls
  started : (source calls).isSome = d.mDgnssState.ntripSessionStarted
  params : ∀ p, source calls = some p → p.ntripParams = d.mStartDgnssNtripParams.ntripParams
  enabled : d.mDgnssState.ntripSessionStarted = true → d.mDgnssState.enableNtripCommand = true

/-- What the functions other than the enabling and the disabling do. -/
inductive Effect (d : Dgnss) (isInSession : Bool) : Dgnss × List Call → Prop
  /-- Nothing, or an update of the position. -/
  | keeps {d' : Dgnss} {calls : List Call} (hcalls : calls.filterMap Call.sourceOf = [])
    (hstarted : d'.mDgnssState.ntripSessionStarted = d.mDgnssState.ntripSessionStarted)
    (henable : d'.mDgnssState.enableNtripCommand = d.mDgnssState.enableNtripCommand)
    (hparams : d'.mStartDgnssNtripParams.ntripParams = d.mStartDgnssNtripParams.ntripParams) :
    Effect d isInSession (d', calls)
  | starts {d' : Dgnss} {params : StartDgnssNtripParams} (hsession : isInSession = true)
    (hnot : d.mDgnssState.ntripSessionStarted = false)
    (henabled : d.mDgnssState.enableNtripCommand = true)
    (hstarted : d'.mDgnssState.ntripSessionStarted = true)
    (henable : d'.mDgnssState.enableNtripCommand = true)
    (hparams : d'.mStartDgnssNtripParams.ntripParams = d.mStartDgnssNtripParams.ntripParams)
    (hsame : params.ntripParams = d.mStartDgnssNtripParams.ntripParams) :
    Effect d isInSession (d', [.startDgnssSource params])
  | stops {d' : Dgnss} (hstarted : d.mDgnssState.ntripSessionStarted = true)
    (hnot : d'.mDgnssState.ntripSessionStarted = false)
    (henable : d'.mDgnssState.enableNtripCommand = d.mDgnssState.enableNtripCommand)
    (hparams : d'.mStartDgnssNtripParams.ntripParams = d.mStartDgnssNtripParams.ntripParams) :
    Effect d isInSession (d', [.stopDgnssSource])

section Effects

variable {d : Dgnss} {isInSession : Bool} {calls : List Call} {r : Dgnss × List Call}

theorem effect_refl (d : Dgnss) (isInSession : Bool) : Effect d isInSession (d, []) := .keeps rfl rfl rfl rfl

theorem effect_checkUpdateDgnssNtrip (d : Dgnss) (isInSession : Bool) (curBootTime : UInt64)
    (isLocationValid : Bool) :
    Effect d isInSession (d.checkUpdateDgnssNtrip isInSession curBootTime isLocationValid) := by
  rw [Dgnss.checkUpdateDgnssNtrip]
  split
  · next hsession =>
    split
    · next hstate =>
      exact .starts hsession (by rw [hstate]) (by rw [hstate]) rfl (by rw [hstate]) rfl rfl
    · split
      · exact .keeps rfl rfl rfl rfl
      · exact effect_refl _ _
  · exact effect_refl _ _

theorem effect_stopDgnssNtrip (d : Dgnss) (isInSession : Bool) :
    Effect d isInSession d.stopDgnssNtrip := by
  rw [Dgnss.stopDgnssNtrip]
  dsimp only
  split
  · next hstarted => exact .stops hstarted rfl rfl rfl
  · exact .keeps rfl rfl rfl rfl

theorem started_stopDgnssNtrip (d : Dgnss) :
    d.stopDgnssNtrip.1.mDgnssState.ntripSessionStarted = false := by
  rw [Dgnss.stopDgnssNtrip]
  dsimp only
  split
  · rfl
  · next hstarted => exact Bool.eq_false_iff.mpr hstarted

/-- An effect depends on the bit for the session, the switch and the parameters only. -/
theorem Effect.of_same {d' : Dgnss} (h : Effect d' isInSession r)
    (hstarted : d'.mDgnssState.ntripSessionStarted = d.mDgnssState.ntripSessionStarted)
    (henable : d'.mDgnssState.enableNtripCommand = d.mDgnssState.enableNtripCommand)
    (hparams : d'.mStartDgnssNtripParams.ntripParams = d.mStartDgnssNtripParams.ntripParams) :
    Effect d isInSession r := by
  cases h with
  | keeps hcalls h₁ h₂ h₃ =>
    exact .keeps hcalls (h₁.trans hstarted) (h₂.trans henable) (h₃.trans hparams)
  | starts hsession hnot henabled h₁ h₂ h₃ hsame =>
    exact .starts hsession (hstarted ▸ hnot) (henable ▸ henabled) h₁ h₂ (h₃.trans hparams)
      (hsame.trans hparams)
  | stops h₁ hnot h₂ h₃ => exact .stops (hstarted ▸ h₁) hnot (h₂.trans henable) (h₃.trans hparams)

theorem effect_stopWithEngine (d : Dgnss) (isInSession : Bool) :
    Effect d isInSession d.stopWithEngine := by
  rw [Dgnss.stopWithEngine]
  split
  · exact (effect_stopDgnssNtrip _ _).of_same rfl rfl rfl
  · exact effect_stopDgnssNtrip d _

theorem started_stopWithEngine (d : Dgnss) :
    d.stopWithEngine.1.mDgnssState.ntripSessionStarted = false := by
  rw [Dgnss.stopWithEngine]
  split
  · exact started_stopDgnssNtrip _
  · exact started_stopDgnssNtrip d

theorem effect_takeGGA (d : Dgnss) (isInSession : Bool) (curBootTime : UInt64) (nmea : List Char)
    (isLocationValid : Bool) :
    Effect d isInSession (d.takeGGA isInSession curBootTime nmea isLocationValid) :=
  (effect_checkUpdateDgnssNtrip _ _ _ _).of_same rfl rfl rfl

theorem effect_reportPosition (d : Dgnss) (isInSession : Bool) (curBootTime : UInt64)
    (gga : Option (List Char)) (isLocationValid : Bool) :
    Effect d isInSession (d.reportPosition isInSession curBootTime gga isLocationValid) := by
  cases gga with
  | none => exact effect_refl _ _
  | some nmea =>
    simp only [Dgnss.reportPosition]
    split
    · exact effect_takeGGA _ _ _ _ _
    · exact effect_refl _ _

theorem effect_reportGGAToNtrip {curBootTime : UInt64} {nmea : List Char}
    (h : d.reportGGAToNtrip isInSession curBootTime nmea = some r) : Effect d isInSession r := by
  rw [Dgnss.reportGGAToNtrip] at h
  split at h
  · cases h
    exact effect_refl _ _
  split at h
  · cases h
    exact effect_refl _ _
  split at h
  · cases h
    exact effect_refl _ _
  · cases h
  split at h
  · cases h
  · cases h
    split
    · exact effect_takeGGA _ _ _ _ _
    · exact effect_refl _ _

/-- Calls that neither start nor stop the client. -/
theorem source_append_of_nil {calls' : List Call} (h : calls'.filterMap Call.sourceOf = []) :
    source (calls ++ calls') = source calls := by
  rw [source, latest_append_of_none, source]
  exact fun c hc ↦ List.filterMap_eq_nil_iff.mp h c hc

theorem alternate_append_of_nil {calls' : List Call} (h : Always Call.InTurn calls)
    (hcalls : calls'.filterMap Call.sourceOf = []) : Always Call.InTurn (calls ++ calls') := by
  refine always_append.mpr ⟨h, .of_forall fun c hc _ ↦ ?_⟩
  cases c with
  | updateNmeaToDgnssServer => trivial
  | startDgnssSource | stopDgnssSource => cases List.filterMap_eq_nil_iff.mp hcalls _ hc

/-- The calls still agree with the bits after an effect. -/
theorem Mirrors.effect (h : Mirrors calls d) (he : Effect d isInSession r) :
    Mirrors (calls ++ r.2) r.1 := by
  cases he with
  | keeps hcalls hstarted henable hparams =>
    refine ⟨alternate_append_of_nil h.alternate hcalls, ?_, ?_, ?_⟩
    · rw [source_append_of_nil hcalls, hstarted, h.started]
    · intro p hp
      rw [source_append_of_nil hcalls] at hp
      exact (h.params p hp).trans hparams.symm
    · rw [hstarted, henable]
      exact h.enabled
  | @starts d' params _ hnot _ hstarted henable hparams hsame =>
    have hnone : source calls = none := by
      rw [← Option.not_isSome_iff_eq_none, h.started, hnot]
      exact Bool.false_ne_true
    have hsource : source (calls ++ [.startDgnssSource params]) = some params := by
      rw [source_concat]
      rfl
    refine ⟨always_concat.mpr ⟨h.alternate, hnone⟩, ?_, ?_, fun _ ↦ henable⟩
    · rw [hsource, hstarted]
      rfl
    · intro p hp
      rw [hsource] at hp
      cases hp
      exact hsame.trans hparams.symm
  | stops hstarted hnot _ _ =>
    have hsome : source calls ≠ none := by
      rw [Option.ne_none_iff_isSome, h.started, hstarted]
    have hsource : source (calls ++ [.stopDgnssSource]) = none := by
      rw [source_concat]
      rfl
    refine ⟨always_concat.mpr ⟨h.alternate, hsome⟩, ?_, ?_, ?_⟩
    · rw [hsource, hnot]
      rfl
    · intro p hp
      rw [hsource] at hp
      cases hp
    · rw [hnot]
      exact fun h ↦ absurd h Bool.false_ne_true

/-- A client that does not run agrees with the bits whatever the switch says. -/
theorem Mirrors.of_not_started {d' : Dgnss} (h : Mirrors calls d)
    (hnot : d.mDgnssState.ntripSessionStarted = false)
    (hnot' : d'.mDgnssState.ntripSessionStarted = false) : Mirrors calls d' := by
  have hnone : (source calls).isSome = false := h.started.trans hnot
  refine ⟨h.alternate, hnone.trans hnot'.symm, fun p hp ↦ ?_, fun hstarted ↦ ?_⟩
  · rw [hp] at hnone
    cases hnone
  · rw [hnot'] at hstarted
    cases hstarted

/-- The switch stays as it is. -/
theorem Effect.switch_eq (he : Effect d isInSession r) :
    r.1.mDgnssState.enableNtripCommand = d.mDgnssState.enableNtripCommand ∧
      r.1.mStartDgnssNtripParams.ntripParams = d.mStartDgnssNtripParams.ntripParams := by
  cases he with
  | keeps _ _ henable hparams => exact ⟨henable, hparams⟩
  | starts _ _ henabled _ henable hparams _ => exact ⟨henable.trans henabled.symm, hparams⟩
  | stops _ _ henable hparams => exact ⟨henable, hparams⟩

/-- The client is started in a session. -/
theorem Effect.started (he : Effect d isInSession r)
    (h : r.1.mDgnssState.ntripSessionStarted = true) :
    d.mDgnssState.ntripSessionStarted = true ∨ isInSession = true := by
  cases he with
  | keeps _ hstarted _ _ => exact Or.inl (hstarted ▸ h)
  | starts hsession => exact Or.inr hsession
  | stops hstarted => exact Or.inl hstarted

end Effects

/-! ## The sessions -/

namespace NtripSystem

variable {s : NtripSystem}

theorem isInSession_iff : s.isInSession = true ↔ InSession s.tracking.adapter := by
  rw [isInSession, InSession, OrderedMap.isEmpty, OrderedMap.size]
  cases s.tracking.adapter.mTimeBasedTrackingSessions.entries with
  | nil => simp
  | cons => simp

/-- The answer to a start that has not failed leaves the sessions as they are. -/
theorem locApiResponseProc_startedTime {a : Tracking.GnssAdapter}
    (key : Tracking.LocationSessionKey) {err : Tracking.LocationError}
    (h : ¬(a.mEngineLockState = .enabled ∧ err ≠ .success)) :
    (a.proc (.locApiResponse (.startedTime key) err)).1 = a ∧
      ¬ErasesLast a (.locApiResponse (.startedTime key) err) := by
  refine ⟨if_neg h, ?_⟩
  rintro ⟨key', hkey, -⟩
  rw [erasedKey, if_neg h] at hkey
  cases hkey

theorem any_stopsTracking_owned (owner : Option ℕ) (calls : List Tracking.Call) :
    (calls.map (owner, ·)).any (stopsTracking ·.2) = calls.any stopsTracking :=
  List.any_map

/-- A message keeps the client in a session, unless it erases the last one. -/
theorem session_dgnssProc_iff (hstarted : s.dgnss.mDgnssState.ntripSessionStarted = true)
    (h : InSession s.tracking.adapter) (owner : Option ℕ) (msg : Tracking.LocMsg) :
    ((s.dgnssProc msg ((s.tracking.adapter.proc msg).2.map
        (owner, ·))).1.mDgnssState.ntripSessionStarted = true →
      InSession (s.tracking.adapter.proc msg).1) ↔ ¬ErasesLast s.tracking.adapter msg := by
  have hstays := stays_proc_iff h msg
  rw [Stays] at hstays
  unfold dgnssProc
  split
  · next key err =>
    have hstops : (s.tracking.adapter.proc
        (.locApiResponse (.startedTime key) err)).2.any stopsTracking = false :=
      stopsTracking_reportResponse err
    rw [hstops, or_iff_left Bool.false_ne_true] at hstays
    split
    · exact ⟨fun h ↦ hstays.mp (h hstarted), fun h _ ↦ hstays.mpr h⟩
    · next hok =>
      obtain ⟨hsame, hnot⟩ := locApiResponseProc_startedTime key hok
      rw [hsame]
      exact iff_of_true (fun _ ↦ h) hnot
  · rw [any_stopsTracking_owned]
    split
    · next hstops =>
      refine iff_of_true (fun hrun ↦ ?_) (hstays.mp (Or.inr hstops))
      rw [started_stopWithEngine] at hrun
      cases hrun
    · next hstops =>
      rw [or_iff_left hstops] at hstays
      exact ⟨fun h ↦ hstays.mp (h hstarted), fun h _ ↦ hstays.mpr h⟩

/-- A message starts the client in a session only. -/
theorem session_dgnssProc (hnot : s.dgnss.mDgnssState.ntripSessionStarted = false)
    (owner : Option ℕ) (msg : Tracking.LocMsg)
    (h : (s.dgnssProc msg ((s.tracking.adapter.proc msg).2.map
        (owner, ·))).1.mDgnssState.ntripSessionStarted = true) :
    InSession (s.tracking.adapter.proc msg).1 := by
  unfold dgnssProc at h
  split at h
  · next key err =>
    split at h
    · rw [hnot] at h
      cases h
    · next hok =>
      rw [(locApiResponseProc_startedTime key hok).1]
      rcases (effect_checkUpdateDgnssNtrip _ _ _ _).started h with hstarted | hsession
      · rw [hnot] at hstarted
        cases hstarted
      · exact isInSession_iff.mp hsession
  · split at h
    · rw [started_stopWithEngine] at h
      cases h
    · rw [hnot] at h
      cases h

theorem effect_dgnssTracking (s : NtripSystem) (e : Tracking.Event)
    (calls : List (Tracking.Owned Tracking.Call)) :
    Effect s.dgnss s.isInSession (s.dgnssTracking e calls) := by
  have hproc : ∀ msg, Effect s.dgnss s.isInSession (s.dgnssProc msg calls) := by
    intro msg
    unfold dgnssProc
    split
    · split
      · exact effect_refl _ _
      · exact effect_checkUpdateDgnssNtrip _ _ _ _
    · split
      · exact effect_stopWithEngine _ _
      · exact effect_refl _ _
  unfold dgnssTracking
  split
  · split
    · exact effect_refl _ _
    · exact hproc _
  · split
    · exact effect_checkUpdateDgnssNtrip _ _ _ _
    · exact effect_refl _ _
  · exact effect_refl _ _

theorem sessions_checkAndRestartTimeBasedSession (a : Tracking.GnssAdapter) :
    a.checkAndRestartTimeBasedSession.1.mTimeBasedTrackingSessions =
      a.mTimeBasedTrackingSessions := by
  rw [Tracking.GnssAdapter.checkAndRestartTimeBasedSession]
  split
  · exact sessions_checkAndSetSPEToRunforNHz _ _
  · rfl

theorem sessions_restartSessions (a : Tracking.GnssAdapter) :
    a.restartSessions.1.mTimeBasedTrackingSessions = a.mTimeBasedTrackingSessions :=
  sessions_checkAndRestartTimeBasedSession _

/-- Only the processing of a message changes the sessions. -/
theorem inSession_step {e : Tracking.Event} {t' : Tracking.TrackingSystem}
    {calls : List (Tracking.Owned Tracking.Call)} (h : s.tracking.step e = some (t', calls))
    (he : e ≠ .proc) : InSession t'.adapter ↔ InSession s.tracking.adapter := by
  have hgive : ∀ (t : Tracking.TrackingSystem) key msg, t.give key msg = some (t', calls) →
      t'.adapter = t.adapter := by
    intro t key msg h
    rw [Tracking.TrackingSystem.give] at h
    split at h
    · cases h
      rfl
    · cases h
  cases e with
  | startTrackingCommand client options => rw [hgive _ _ _ h]
  | updateTrackingOptionsCommand client id options => rw [hgive _ _ _ h]
  | stopTrackingCommand client id => rw [hgive _ _ _ h]
  | proc => exact absurd rfl he
  | returnToSender i err =>
    rw [Tracking.TrackingSystem.step] at h
    split at h
    · cases h
    · cases h
      rfl
  | setEngineLockState state =>
    cases h
    rfl
  | setNHzNeeded needed =>
    cases h
    rfl
  | restartSessions =>
    cases h
    exact inSession_of_eq (sessions_restartSessions _)

end NtripSystem

/-! ## Runs -/

/-- What every step of a run keeps. -/
structure Inv (hist : List (Item Event Call)) (s : NtripSystem) : Prop where
  mirrors : Mirrors (outsOf hist) s.dgnss
  session : s.dgnss.mDgnssState.ntripSessionStarted = true → InSession s.tracking.adapter
  switch : enabled (eventsOf hist) = if s.dgnss.mDgnssState.enableNtripCommand then
    some s.dgnss.mStartDgnssNtripParams.ntripParams else none

namespace Inv

variable {hist : List (Item Event Call)} {s s' : NtripSystem} {e : Event} {outs : List Call}

theorem init (adapter : Tracking.GnssAdapter) (params : GnssNtripConnectionParams) :
    Inv [] (.init adapter params) where
  mirrors := ⟨always_nil _, rfl, fun _ h ↦ (by cases h), fun h ↦ (by cases h)⟩
  session h := by cases h
  switch := rfl

theorem follows (h : Inv hist s) : Follows hist s where
  alternate := h.mirrors.alternate
  started := h.mirrors.started
  session hsome := NtripSystem.isInSession_iff.mpr (h.session (h.mirrors.started ▸ hsome))
  params p hp := by
    have hstarted : s.dgnss.mDgnssState.ntripSessionStarted = true := by
      rw [← h.mirrors.started, hp]
      rfl
    rw [h.switch, if_pos (h.mirrors.enabled hstarted), h.mirrors.params p hp]

theorem enabled_concat (events : List Event) (e : Event) :
    enabled (events ++ [e]) = (e.enabledOf.or (latest Event.enabledOf events)).join := by
  rw [enabled, latest_concat]

/-- An event that is neither an enabling nor a disabling, with the effect of a function. -/
theorem of_effect (h : Inv hist s) (he : e.enabledOf = none) {r : Dgnss × List Call}
    {isInSession : Bool} (heffect : Effect s.dgnss isInSession r) (hdgnss : s'.dgnss = r.1)
    (hsession : r.1.mDgnssState.ntripSessionStarted = true → InSession s'.tracking.adapter) :
    Inv (hist ++ entry e r.2) s' := by
  obtain ⟨henable, hparams⟩ := heffect.switch_eq
  refine ⟨?_, ?_, ?_⟩
  · rw [outsOf_append_entry, hdgnss]
    exact h.mirrors.effect heffect
  · rw [hdgnss]
    exact hsession
  · rw [eventsOf_append_entry, enabled_concat, he, Option.none_or, hdgnss, henable, hparams]
    exact h.switch

/-- An effect that takes place in a session, or leaves the client as it is. -/
theorem session_effect (h : Inv hist s) {r : Dgnss × List Call}
    (heffect : Effect s.dgnss s.isInSession r)
    (hr : r.1.mDgnssState.ntripSessionStarted = true) : InSession s.tracking.adapter := by
  rcases heffect.started hr with hstarted | hsession
  · exact h.session hstarted
  · exact NtripSystem.isInSession_iff.mp hsession

theorem proc_cases {t t' : Tracking.TrackingSystem}
    {calls : List (Tracking.Owned Tracking.Call)} (h : t.step .proc = some (t', calls)) :
    ∃ owner msg queue, t.queue = (owner, msg) :: queue ∧ t'.adapter = (t.adapter.proc msg).1 ∧
      calls = (t.adapter.proc msg).2.map (owner, ·) := by
  rw [Tracking.TrackingSystem.step] at h
  split at h
  · cases h
  · next owner msg queue hqueue =>
    cases h
    exact ⟨owner, msg, queue, hqueue, rfl, rfl⟩

/-- A step of the tracking system. -/
theorem tracking_cases {e : Tracking.Event} (hs : s.step (.tracking e) = some (s', outs)) :
    ∃ t' calls, s.tracking.step e = some (t', calls) ∧ s'.tracking = t' ∧
      s'.dgnss = (s.dgnssTracking e calls).1 ∧ outs = (s.dgnssTracking e calls).2 := by
  rw [NtripSystem.step] at hs
  split at hs
  · cases hs
  · next t' calls ht =>
    cases hs
    exact ⟨t', calls, ht, rfl, rfl, rfl⟩

theorem tracking (h : Inv hist s) {e : Tracking.Event} (hsafe : s.Safe (.tracking e))
    (hs : s.step (.tracking e) = some (s', outs)) :
    Inv (hist ++ entry (.tracking e) outs) s' := by
  obtain ⟨t', calls, ht, rfl, hdgnss, rfl⟩ := tracking_cases hs
  have heffect := s.effect_dgnssTracking e calls
  refine h.of_effect rfl heffect hdgnss fun hr ↦ ?_
  by_cases he : e = .proc
  · subst he
    obtain ⟨owner, msg, queue, hqueue, hadapter, rfl⟩ := proc_cases ht
    rw [hadapter]
    simp only [NtripSystem.dgnssTracking, hqueue] at hr
    cases hstarted : s.dgnss.mDgnssState.ntripSessionStarted with
    | true =>
      have hnot := hsafe hstarted (owner, msg) (by rw [hqueue]; rfl)
      exact (NtripSystem.session_dgnssProc_iff hstarted (h.session hstarted) owner msg).mpr hnot hr
    | false => exact NtripSystem.session_dgnssProc hstarted owner msg hr
  · exact (NtripSystem.inSession_step ht he).mpr (h.session_effect heffect hr)

theorem handleEnablePPENtrip (h : Inv hist s) {params : GnssNtripConnectionParams}
    (hsafe : s.Safe (.handleEnablePPENtrip params))
    (hs : s.step (.handleEnablePPENtrip params) = some (s', outs)) :
    Inv (hist ++ entry (.handleEnablePPENtrip params) outs) s' := by
  obtain ⟨rfl, rfl⟩ := some_pair_inj hs
  have henabled : enabled (eventsOf hist ++ [.handleEnablePPENtrip params]) = some params := by
    rw [enabled_concat]
    rfl
  rw [Dgnss.handleEnablePPENtrip]
  split
  · next hsame =>
    rw [Dgnss.receivedSame, Bool.and_eq_true, decide_eq_true_eq] at hsame
    refine ⟨?_, h.session, ?_⟩
    · rw [outsOf_append_entry, List.append_nil]
      exact h.mirrors
    · rw [eventsOf_append_entry, henabled, if_pos hsame.2, hsame.1]
  next hsame =>
  have hnot : s.dgnss.mDgnssState.ntripSessionStarted = false :=
    Bool.eq_false_iff.mpr fun hstarted ↦ hsame (hsafe hstarted)
  dsimp only
  split
  · refine ⟨?_, fun hstarted ↦ (by cases hstarted), ?_⟩
    · rw [outsOf_append_entry, List.append_nil]
      exact h.mirrors.of_not_started hnot rfl
    · rw [eventsOf_append_entry, henabled]
      rfl
  · have heffect := effect_checkUpdateDgnssNtrip { s.dgnss with
      mDgnssState := ⟨true, true, false⟩
      mStartDgnssNtripParams := ⟨params, []⟩ } s.isInSession s.bootTime false
    obtain ⟨henable, hparams⟩ := heffect.switch_eq
    refine ⟨?_, fun hstarted ↦ ?_, ?_⟩
    · rw [outsOf_append_entry]
      exact (h.mirrors.of_not_started hnot rfl).effect heffect
    · rcases heffect.started hstarted with hfalse | hsession
      · cases hfalse
      · exact NtripSystem.isInSession_iff.mp hsession
    · rw [eventsOf_append_entry, henabled, henable, hparams]
      rfl

theorem handleDisablePPENtrip (h : Inv hist s)
    (hs : s.step .handleDisablePPENtrip = some (s', outs)) :
    Inv (hist ++ entry .handleDisablePPENtrip outs) s' := by
  obtain ⟨rfl, rfl⟩ := some_pair_inj hs
  have hcalls : s.dgnss.handleDisablePPENtrip.2 = s.dgnss.stopDgnssNtrip.2 := by
    rw [Dgnss.handleDisablePPENtrip, Dgnss.stopDgnssNtrip, Dgnss.stopDgnssNtrip]
    dsimp only
    split <;> rfl
  have henable : s.dgnss.handleDisablePPENtrip.1.mDgnssState.enableNtripCommand = false := by
    rw [Dgnss.handleDisablePPENtrip, Dgnss.stopDgnssNtrip]
    dsimp only
    split <;> rfl
  have hnot : s.dgnss.handleDisablePPENtrip.1.mDgnssState.ntripSessionStarted = false :=
    started_stopDgnssNtrip _
  refine ⟨?_, fun hstarted ↦ ?_, ?_⟩
  · rw [outsOf_append_entry, hcalls]
    exact (h.mirrors.effect (effect_stopDgnssNtrip s.dgnss s.isInSession)).of_not_started
      (started_stopDgnssNtrip _) hnot
  · rw [hnot] at hstarted
    cases hstarted
  · rw [eventsOf_append_entry, enabled_concat, henable]
    rfl

theorem step (h : Inv hist s) (hsafe : s.Safe e) (hs : s.step e = some (s', outs)) :
    Inv (hist ++ entry e outs) s' := by
  cases e with
  | tracking e => exact h.tracking hsafe hs
  | suspendSessions =>
    rw [NtripSystem.step] at hs
    split at hs
    · cases hs
      refine h.of_effect rfl (effect_stopWithEngine s.dgnss s.isInSession) rfl fun hr ↦ ?_
      rw [started_stopWithEngine] at hr
      cases hr
    · cases hs
      exact h.of_effect rfl (effect_refl s.dgnss s.isInSession) rfl h.session
  | handleEnablePPENtrip params => exact h.handleEnablePPENtrip hsafe hs
  | handleDisablePPENtrip => exact h.handleDisablePPENtrip hs
  | updateNTRIPGGAConsentCommand consentAccepted =>
    cases hs
    have heffect : Effect s.dgnss s.isInSession
        ({ s.dgnss with mSendNmeaConsent := consentAccepted }, []) := .keeps rfl rfl rfl rfl
    exact h.of_effect rfl heffect rfl h.session
  | reportNmea nmea =>
    obtain ⟨r, hr, heq⟩ := Option.map_eq_some_iff.mp hs
    cases heq
    have heffect := effect_reportGGAToNtrip hr
    exact h.of_effect rfl heffect rfl fun hr ↦ h.session_effect heffect hr
  | reportPosition gga isLocationValid =>
    cases hs
    have heffect := effect_reportPosition s.dgnss s.isInSession s.bootTime gga isLocationValid
    exact h.of_effect rfl heffect rfl fun hr ↦ h.session_effect heffect hr
  | setBootTime bootTime =>
    cases hs
    exact h.of_effect rfl (effect_refl s.dgnss s.isInSession) rfl h.session

/-- The client no longer follows its switch after a step that is not safe. -/
theorem safe_of_follows (h : Inv hist s) (hs : s.step e = some (s', outs))
    (hf : Follows (hist ++ entry e outs) s') : s.Safe e := by
  cases e with
  | tracking e =>
    cases e with
    | proc =>
      intro hstarted m hm
      obtain ⟨t', calls, ht, rfl, hdgnss, rfl⟩ := tracking_cases hs
      obtain ⟨owner, msg, queue, hqueue, hadapter, rfl⟩ := proc_cases ht
      rw [hqueue] at hm
      cases hm
      refine (NtripSystem.session_dgnssProc_iff hstarted (h.session hstarted) owner msg).mp ?_
      intro hr
      rw [← hadapter]
      refine NtripSystem.isInSession_iff.mp (hf.session (hf.started.trans ?_))
      rw [hdgnss]
      simpa only [NtripSystem.dgnssTracking, hqueue] using hr
    | _ => trivial
  | handleEnablePPENtrip params =>
    intro hstarted
    by_contra hsame
    have hsome : (source (outsOf hist)).isSome = true := h.mirrors.started.trans hstarted
    have hsession := NtripSystem.isInSession_iff.mpr (h.session hstarted)
    obtain ⟨rfl, rfl⟩ := some_pair_inj hs
    rw [Dgnss.handleEnablePPENtrip, if_neg hsame] at hf
    dsimp only at hf
    split at hf
    · -- the bit is cleared and the client still runs
      have hstarted' := hf.started
      rw [outsOf_append_entry, List.append_nil, hsome] at hstarted'
      cases hstarted'
    · -- the client is started a second time
      rw [Dgnss.checkUpdateDgnssNtrip, if_pos hsession] at hf
      have halternate := hf.alternate
      rw [outsOf_append_entry, if_pos rfl, always_concat] at halternate
      have hnone : source (outsOf hist) = none := halternate.2
      rw [hnone] at hsome
      cases hsome
  | _ => trivial

end Inv

/-- In every run whose steps are all safe, the NTRIP client follows its switch, and it follows it
after one more step if and only if that step is safe too. -/
theorem follows_of_run {adapter : Tracking.GnssAdapter} {params : GnssNtripConnectionParams}
    {hist : List (Item Event Call)} {s : NtripSystem}
    (h : Run NtripSystem.step NtripSystem.Safe (.init adapter params) hist s) :
    Follows hist s ∧ ∀ e s' outs, s.step e = some (s', outs) →
      (Follows (hist ++ entry e outs) s' ↔ s.Safe e) := by
  have hinv : Inv hist s :=
    h.invariant (I := Inv) (Inv.init adapter params) fun h hsafe hs ↦ h.step hsafe hs
  exact ⟨hinv.follows, fun e s' outs hs ↦
    ⟨hinv.safe_of_follows hs, fun hsafe ↦ (hinv.step hsafe hs).follows⟩⟩

open MataDevice.Tracking (sampleAdapter sampleOptions)

/-- Parameters of a server that wants to know where the device is, or does not. -/
def sampleParams (requiresNmeaLocation : Bool) : GnssNtripConnectionParams :=
  ⟨requiresNmeaLocation, ['h'], ['m'], ['u'], ['p'], 2101, true⟩

/-- The client is started with the first position, stopped with the session, and started again when
NTRIP is enabled with other parameters in the next session. -/
theorem follows_of_run_two : ∃ hist s,
    Run NtripSystem.step NtripSystem.Safe (.init sampleAdapter (sampleParams false)) hist s ∧
      outsOf hist = [.startDgnssSource ⟨sampleParams true, ['$']⟩, .stopDgnssSource,
        .startDgnssSource ⟨sampleParams false, []⟩] ∧
      Follows hist s := by
  obtain ⟨hist, s, hrun, hs⟩ := Run.exists_of_runEvents NtripSystem.step NtripSystem.Safe
    (.init sampleAdapter (sampleParams false))
    [.updateNTRIPGGAConsentCommand true, .handleEnablePPENtrip (sampleParams true),
      .tracking (.startTrackingCommand 1 (sampleOptions 1000 0 .m2)), .tracking .proc,
      .tracking (.returnToSender 0 .success), .tracking .proc, .reportPosition (some ['$']) true,
      .handleEnablePPENtrip (sampleParams true), .tracking (.stopTrackingCommand 1 2),
      .tracking .proc, .handleEnablePPENtrip (sampleParams false),
      .tracking (.startTrackingCommand 1 (sampleOptions 1000 0 .m2)), .tracking .proc,
      .tracking (.returnToSender 1 .success), .tracking .proc]
    (fun hist _ ↦ outsOf hist = [.startDgnssSource ⟨sampleParams true, ['$']⟩,
      .stopDgnssSource, .startDgnssSource ⟨sampleParams false, []⟩]) (by decide +kernel)
  exact ⟨hist, s, hrun, hs, (follows_of_run hrun).1⟩

/-- NTRIP is enabled with other parameters while the client runs, and disabled: the client runs on.
A session is lost that the engine could not start: the client runs on without one. -/
theorem not_follows :
    (∃ hist s, Run NtripSystem.step (fun _ _ ↦ True)
        (.init sampleAdapter (sampleParams false)) hist s ∧
      enabled (eventsOf hist) = none ∧
      source (outsOf hist) = some ⟨sampleParams false, []⟩ ∧ ¬Follows hist s) ∧
    ∃ hist s, Run NtripSystem.step (fun _ _ ↦ True)
        (.init sampleAdapter (sampleParams false)) hist s ∧
      s.isInSession = false ∧ source (outsOf hist) = some ⟨sampleParams false, []⟩ ∧
      ¬Follows hist s := by
  constructor
  · obtain ⟨hist, s, hrun, hdisabled, hsource⟩ :=
      Run.exists_of_runEvents NtripSystem.step (fun _ _ ↦ True)
      (.init sampleAdapter (sampleParams false))
      [.tracking (.startTrackingCommand 1 (sampleOptions 1000 0 .m2)), .tracking .proc,
        .handleEnablePPENtrip (sampleParams false), .updateNTRIPGGAConsentCommand true,
        .handleEnablePPENtrip (sampleParams true), .handleDisablePPENtrip]
      (fun hist _ ↦ enabled (eventsOf hist) = none ∧
        source (outsOf hist) = some ⟨sampleParams false, []⟩) (by decide +kernel)
    refine ⟨hist, s, hrun, hdisabled, hsource, fun hf ↦ ?_⟩
    have henabled := hf.params _ hsource
    rw [hdisabled] at henabled
    cases henabled
  · obtain ⟨hist, s, hrun, hsession, hsource⟩ :=
      Run.exists_of_runEvents NtripSystem.step (fun _ _ ↦ True)
      (.init sampleAdapter (sampleParams false))
      [.tracking (.startTrackingCommand 1 (sampleOptions 1000 0 .m2)), .tracking .proc,
        .handleEnablePPENtrip (sampleParams false),
        .tracking (.returnToSender 0 .generalFailure), .tracking .proc]
      (fun hist s ↦ s.isInSession = false ∧
        source (outsOf hist) = some ⟨sampleParams false, []⟩) (by decide +kernel)
    refine ⟨hist, s, hrun, hsession, hsource, fun hf ↦ ?_⟩
    have hsession' := hf.session (by rw [hsource]; rfl)
    rw [hsession] at hsession'
    cases hsession'

end MataDevice.Ntrip
