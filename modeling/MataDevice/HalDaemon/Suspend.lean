import MataDevice.HalDaemon.Service

/-!
# Tracking over suspensions

The service stops the tracking sessions of all clients when the system goes down, or while aiding
data is deleted, and starts them again afterwards with the options that the handlers have kept. The
clients do not know about it. What they asked for last is then running again, but only if the
requests were heeded when they came and the options are kept in the form in which a session is
started: a start is not heeded while a session runs, an update not while none does, and an update
keeps its options with an interval that the engine may not support.
-/

namespace MataDevice.HalDaemon

open List
open MataDevice.Tracking (LocationError GnssSuplMode)

/-! ## Supported intervals -/

theorem toNat_getSupportedTbf {t : UInt32} (h : 1000 ≤ t.toNat) :
    (getSupportedTbf t).toNat = min ((t.toNat + 999) / 1000 * 1000) 4294967000 := by
  have hlt : t.toNat < 4294967296 := t.toNat_lt
  have h200 : ¬t < 200 := by
    simp only [UInt32.lt_iff_toNat_lt, UInt32.reduceToNat]
    omega
  have h500 : ¬t < 500 := by
    simp only [UInt32.lt_iff_toNat_lt, UInt32.reduceToNat]
    omega
  have h1000 : ¬t < 1000 := by
    simp only [UInt32.lt_iff_toNat_lt, UInt32.reduceToNat]
    omega
  have hmax : (0xffffffff - 999 : UInt32).toNat = 4294966296 := rfl
  have hlast : (0xffffffff / 1000 * 1000 : UInt32).toNat = 4294967000 := rfl
  rw [getSupportedTbf, if_neg h200, if_neg h500, if_neg h1000]
  split
  · next hgt =>
    rw [gt_iff_lt, UInt32.lt_iff_toNat_lt, hmax] at hgt
    rw [hlast]
    omega
  · next hle =>
    rw [gt_iff_lt, UInt32.lt_iff_toNat_lt, hmax] at hle
    simp only [UInt32.toNat_mul, UInt32.toNat_div, UInt32.toNat_add, UInt32.reduceToNat]
    omega

/-- A supported interval stays as it is. -/
theorem getSupportedTbf_getSupportedTbf (t : UInt32) :
    getSupportedTbf (getSupportedTbf t) = getSupportedTbf t := by
  by_cases h200 : t < 200
  · have heq : getSupportedTbf t = 100 := if_pos h200
    rw [heq]
    rfl
  by_cases h500 : t < 500
  · have heq : getSupportedTbf t = 200 := by rw [getSupportedTbf, if_neg h200, if_pos h500]
    rw [heq]
    rfl
  by_cases h1000 : t < 1000
  · have heq : getSupportedTbf t = 500 := by
      rw [getSupportedTbf, if_neg h200, if_neg h500, if_pos h1000]
    rw [heq]
    rfl
  have hge : 1000 ≤ t.toNat := by
    simp only [UInt32.lt_iff_toNat_lt, UInt32.reduceToNat] at h1000
    omega
  have hval := toNat_getSupportedTbf hge
  refine UInt32.toNat_inj.mp ?_
  rw [toNat_getSupportedTbf (by omega), hval]
  omega

@[simp] theorem LocationOptions.supported_supported (options : LocationOptions) :
    options.supported.supported = options.supported := by
  simp only [LocationOptions.supported, getSupportedTbf_getSupportedTbf]

/-! ## One client -/

/-- The options that a client wants to be tracked with after a message, given those from before. -/
def Message.wanted (mode : GnssSuplMode) (wanted : Option LocationOptions) :
    Message → Option LocationOptions
  | .startTracking locOptions | .updateTrackingOptions locOptions =>
    some { locOptions with mode := mode }.supported
  | .stopTracking => none
  | .updateSubscription _ | .startBatching .. | .stopBatching | .updateBatchingOptions .. => wanted

namespace Client

/-- The message is heeded: a session that is started is accepted by `LocationAPI`, or the one that
runs has those options already; an update finds a session, or a suspended one with those options. -/
def Heeds (c : Client) (mode : GnssSuplMode) (id : UInt32) : Message → Prop
  | .startTracking locOptions =>
    if c.handler.mSessionId = 0 then c.handler.mLocationApi = true ∧ id ≠ 0
    else c.handler.mOptions.supported = { locOptions with mode := mode }.supported
  | .updateTrackingOptions locOptions =>
    c.handler.HasTracking ∨ c.handler.mTracking = true ∧
      c.handler.mOptions.supported = { locOptions with mode := mode }.supported
  | .stopTracking | .updateSubscription _ | .startBatching .. | .stopBatching |
    .updateBatchingOptions .. => True

instance (c : Client) (mode : GnssSuplMode) (id : UInt32) : ∀ msg, Decidable (c.Heeds mode id msg)
  | .startTracking locOptions => inferInstanceAs (Decidable (if c.handler.mSessionId = 0 then
      c.handler.mLocationApi = true ∧ id ≠ 0
      else c.handler.mOptions.supported = { locOptions with mode := mode }.supported))
  | .updateTrackingOptions locOptions => inferInstanceAs (Decidable (_ ∨ _))
  | .stopTracking | .updateSubscription _ | .startBatching .. | .stopBatching |
    .updateBatchingOptions .. => inferInstanceAs (Decidable True)

/-- The options the handler has kept are those that a session is started with. -/
def Restartable (c : Client) (id : UInt32) : Prop :=
  id ≠ 0 ∧ c.handler.mOptions.supported = c.handler.mOptions

instance (c : Client) (id : UInt32) : Decidable (c.Restartable id) :=
  inferInstanceAs (Decidable (_ ∧ _))

/-- What the handler knows is what the client wants, and what `LocationAPI` does; while the system
is down there may be no session. -/
structure Keeps (down : Bool) (wanted : Option LocationOptions) (c : Client) : Prop where
  session : c.api.tracking = if c.handler.mSessionId = 0 then []
    else [(c.handler.mSessionId, c.handler.mOptions.supported)]
  wanted_eq : wanted = if c.handler.mTracking then some c.handler.mOptions.supported else none
  idle : c.handler.mTracking = false → c.handler.mSessionId = 0
  api : c.handler.mTracking = true → c.handler.mLocationApi = true
  running : down = false → c.handler.mTracking = true → c.handler.mSessionId ≠ 0

variable {c : Client} {down : Bool} {wanted : Option LocationOptions} {mode : GnssSuplMode}
  {id : UInt32} {msg : Message}

theorem keeps_new (down locationApi : Bool) : (new locationApi).Keeps down none :=
  ⟨rfl, rfl, fun _ ↦ rfl, (fun h ↦ by cases h), (fun _ h ↦ by cases h)⟩

/-- A system that is up runs what is wanted. -/
theorem Keeps.tracking_eq (h : c.Keeps false wanted) :
    c.api.tracking.map Prod.snd = wanted.toList := by
  rw [h.session, h.wanted_eq]
  cases htrack : c.handler.mTracking with
  | false => simp [h.idle htrack]
  | true => simp [h.running rfl htrack]

/-- A suspension leaves alone what is needed for the resumption. -/
theorem suspend_handler : c.suspend.handler.mTracking = c.handler.mTracking ∧
    c.suspend.handler.mOptions = c.handler.mOptions := by
  rw [suspend]
  split
  · rw [perform, LocHalDaemonClientHandler.stopTracking]
    split <;> exact ⟨rfl, rfl⟩
  · exact ⟨rfl, rfl⟩

variable (h : c.Keeps down wanted)
include h

/-- What is changed besides the tracking session does not matter. -/
theorem Keeps.congr {c' : Client} (htrack : c'.handler.mTracking = c.handler.mTracking)
    (hid : c'.handler.mSessionId = c.handler.mSessionId)
    (hoptions : c'.handler.mOptions = c.handler.mOptions)
    (hlocation : c'.handler.mLocationApi = c.handler.mLocationApi)
    (hapi : c'.api.tracking = c.api.tracking) : c'.Keeps down wanted := by
  obtain ⟨h1, h2, h3, h4, h5⟩ := h
  constructor <;> simp only [htrack, hid, hoptions, hlocation, hapi] <;> assumption

theorem Keeps.push (msgId : ELocMsgID) :
    (c.push msgId).Keeps down wanted :=
  h.congr rfl rfl rfl rfl rfl

/-- A client that has a session knows that it wants one. -/
theorem Keeps.tracking_of_session (hid : c.handler.mSessionId ≠ 0) :
    c.handler.mTracking = true := by
  by_contra hnot
  exact hid (h.idle (by simpa using hnot))

theorem Keeps.hasTracking (hid : c.handler.mSessionId ≠ 0) :
    c.handler.HasTracking :=
  ⟨hid, h.api (h.tracking_of_session hid)⟩

variable {locOptions : LocationOptions}

theorem Keeps.startTracking (hheeds : c.Heeds mode id (.startTracking locOptions)) :
    (c.startTracking mode locOptions id).Keeps down
      (some { locOptions with mode := mode }.supported) := by
  by_cases hid : c.handler.mSessionId = 0
  · obtain ⟨hapi, hid'⟩ : c.handler.mLocationApi = true ∧ id ≠ 0 := by
      simpa [Heeds, hid] using hheeds
    have hnone : c.api.tracking = [] := by rw [h.session, if_pos hid]
    rw [startTracking_of_started hid hapi hid']
    exact ⟨by simp [hid', hnone], by simp, by simp, fun _ ↦ hapi, fun _ _ ↦ hid'⟩
  · -- the session that runs stays as it is
    have hsame : c.handler.mOptions.supported = { locOptions with mode := mode }.supported := by
      simpa [Heeds, hid] using hheeds
    have htrack := h.tracking_of_session hid
    rw [startTracking_of_running hid]
    refine ⟨h.session, ?_, by simp [setTracking, Client.push, LocHalDaemonClientHandler.push],
      fun _ ↦ h.api htrack, fun _ _ ↦ hid⟩
    simp [setTracking, Client.push, LocHalDaemonClientHandler.push, hsame]

theorem Keeps.stopTracking : c.stopTracking.Keeps down none := by
  by_cases hid : c.handler.mSessionId = 0
  · have hnone : c.api.tracking = [] := by rw [h.session, if_pos hid]
    rw [stopTracking_of_not_running fun hrun ↦ hrun.1 hid]
    exact ⟨by simp [hid, hnone], rfl, fun _ ↦ hid, (fun ht ↦ by cases ht), (fun _ ht ↦ by cases ht)⟩
  · have hone := h.session
    rw [if_neg hid] at hone
    rw [stopTracking_of_running (h.hasTracking hid)]
    exact ⟨by simp [hone], rfl, fun _ ↦ rfl, (fun ht ↦ by cases ht), (fun _ ht ↦ by cases ht)⟩

theorem Keeps.updateTrackingOptions (hheeds : c.Heeds mode id (.updateTrackingOptions locOptions)) :
    (c.updateTrackingOptions mode locOptions).Keeps down
      (some { locOptions with mode := mode }.supported) := by
  by_cases hrun : c.handler.HasTracking
  · have hone := h.session
    have htrack := h.tracking_of_session hrun.1
    rw [if_neg hrun.1] at hone
    rw [updateTrackingOptions_of_running hrun]
    exact ⟨by simp [hone, hrun.1], by simp [htrack], by simp [htrack], fun _ ↦ hrun.2,
      fun _ _ ↦ hrun.1⟩
  · -- the update is lost, but it would not have changed anything
    obtain ⟨htrack, hsame⟩ := hheeds.resolve_left hrun
    rw [updateTrackingOptions_of_not_running hrun]
    have hwanted := h.wanted_eq
    rw [htrack, hsame] at hwanted
    have hkept := h.push .updateTrackingOptions
    rwa [hwanted] at hkept

/-- A message that is heeded changes what runs as the client wants it. -/
theorem Keeps.handle (hheeds : c.Heeds mode id msg) :
    (c.handle mode id msg).Keeps down (msg.wanted mode wanted) := by
  cases msg with
  | startTracking locOptions => exact h.startTracking hheeds
  | stopTracking => exact h.stopTracking
  | updateTrackingOptions locOptions => exact h.updateTrackingOptions hheeds
  | updateSubscription mask =>
    rw [Client.handle, updateSubscription_eq]
    exact h.congr rfl rfl rfl rfl rfl
  | startBatching interval distance batchingMode =>
    rw [Client.handle]
    by_cases hid : c.handler.mBatchingId = 0
    · by_cases hfail : c.handler.mLocationApi = false ∨ id = 0
      · obtain ⟨options, heq⟩ := startBatching_of_failed interval distance batchingMode hid hfail
        rw [heq]
        exact h.congr rfl rfl rfl rfl rfl
      · push Not at hfail
        rw [startBatching_of_started hid (by simpa using hfail.1) hfail.2]
        exact h.congr rfl rfl rfl rfl rfl
    · rw [startBatching_of_running hid]
      exact h.congr rfl rfl rfl rfl rfl
  | stopBatching =>
    rw [Client.handle]
    by_cases hrun : c.handler.HasBatching
    · rw [stopBatching_of_running hrun]
      exact h.congr rfl rfl rfl rfl rfl
    · rw [stopBatching_of_not_running hrun]
      exact h.congr rfl rfl rfl rfl rfl
  | updateBatchingOptions interval distance batchingMode =>
    rw [Client.handle]
    by_cases hrun : c.handler.HasBatching
    · rw [updateBatchingOptions_of_running hrun]
      exact h.congr rfl rfl rfl rfl rfl
    · rw [updateBatchingOptions_of_not_running hrun]
      exact h.congr rfl rfl rfl rfl rfl

theorem Keeps.suspend : c.suspend.Keeps true wanted := by
  cases htrack : c.handler.mTracking with
  | false =>
    rw [suspend_of_not_tracking htrack]
    exact ⟨h.session, h.wanted_eq, h.idle, h.api, (fun hd ↦ by cases hd)⟩
  | true =>
    by_cases hid : c.handler.mSessionId = 0
    · rw [suspend_of_not_running htrack fun hrun ↦ hrun.1 hid]
      exact ⟨h.session, h.wanted_eq, h.idle, h.api, (fun hd ↦ by cases hd)⟩
    · have hone := h.session
      rw [if_neg hid] at hone
      rw [suspend_of_running htrack (h.hasTracking hid)]
      exact ⟨by simp [hone], h.wanted_eq, fun _ ↦ rfl, h.api, (fun hd ↦ by cases hd)⟩

theorem Keeps.resume (hrestart : c.handler.mTracking = true →
    c.handler.mSessionId = 0 → c.Restartable id) :
    (c.resume id).1.Keeps false wanted ∧ (c.resume id).2 = true := by
  cases htrack : c.handler.mTracking with
  | false =>
    rw [resume_of_not_tracking htrack]
    refine ⟨⟨h.session, h.wanted_eq, h.idle, h.api, fun _ ht ↦ ?_⟩, rfl⟩
    rw [htrack] at ht
    cases ht
  | true =>
    by_cases hid : c.handler.mSessionId = 0
    · obtain ⟨hid', hsupported⟩ := hrestart htrack hid
      have hnone : c.api.tracking = [] := by rw [h.session, if_pos hid]
      rw [resume_of_started htrack hid (h.api htrack) hid']
      refine ⟨⟨by simp [hnone, hid', hsupported], h.wanted_eq, ?_, h.api, fun _ _ ↦ hid'⟩, rfl⟩
      simp [htrack]
    · rw [resume_of_running htrack hid]
      exact ⟨⟨h.session, h.wanted_eq, h.idle, h.api, fun _ _ ↦ hid⟩, rfl⟩

end Client

/-! ## The service -/

/-- What an item of the history makes of the options that the client `name` wants. A client that is
registered wants nothing yet. -/
def wantedStep (mode : GnssSuplMode) (name : SocketName) (wanted : Option LocationOptions) :
    Item Event Output → Option LocationOptions
  | .event (.message name' msg _) => if name = name' then msg.wanted mode wanted else wanted
  | .out (.registered name') => if name = name' then none else wanted
  | _ => wanted

/-- The options of the latest start or update of the client `name`, unless it has stopped. -/
def wantedOf (mode : GnssSuplMode) (name : SocketName) (hist : List (Item Event Output)) :
    Option LocationOptions :=
  hist.foldl (wantedStep mode name) none

namespace LocationApiService

/-- The step can be repeated by a suspension: a message is heeded, and the sessions that are started
again are accepted by `LocationAPI`, with options of the form that it was given before. -/
def Transparent (s : LocationApiService) : Event → Prop
  | .message name msg id => ∀ c ∈ s.mClients.find? name, c.Heeds s.mPositionMode id msg
  | .onPowerEvent powerState order => powerState = .resume →
    ∀ entry ∈ order, ∀ c ∈ s.mClients.find? entry.1, c.handler.mTracking = true →
      c.handler.mSessionId = 0 → c.Restartable entry.2
  | .configAidingDataDeletion order => s.mPowerState.isDown = false →
    ∀ entry ∈ order, ∀ c ∈ s.mClients.find? entry.1, c.handler.mTracking = true →
      c.Restartable entry.2
  | .newClient .. | .deleteClient _ | .onResponseCb .. => True

instance (s : LocationApiService) : ∀ e, Decidable (s.Transparent e)
  | .message name msg id => inferInstanceAs (Decidable (∀ c ∈ s.mClients.find? name, _))
  | .onPowerEvent powerState order => inferInstanceAs (Decidable (_ → _))
  | .configAidingDataDeletion order => inferInstanceAs (Decidable (_ → _))
  | .newClient .. | .deleteClient _ | .onResponseCb .. => inferInstanceAs (Decidable True)

/-- Every client keeps what it wants. -/
def Keeps (down : Bool) (wanted : SocketName → Option LocationOptions) (s : LocationApiService) :
    Prop :=
  ∀ name, ∀ c ∈ s.mClients.find? name, c.Keeps down (wanted name)

/-- What runs for the clients is what they asked for last, and nothing else. -/
def RunsWanted (hist : List (Item Event Output)) (s : LocationApiService) : Prop :=
  ∀ name, ∀ c ∈ s.mClients.find? name,
    c.api.tracking.map Prod.snd = (wantedOf s.mPositionMode name hist).toList

variable {s s' : LocationApiService} {e : Event} {outs : List Output} {mode : GnssSuplMode}
  {hist : List (Item Event Output)} {order : List (SocketName × UInt32)} {down : Bool}
  {wanted : SocketName → Option LocationOptions}

theorem wantedOf_append_entry (name : SocketName) :
    wantedOf mode name (hist ++ entry e outs) =
      outs.foldl (fun w o ↦ wantedStep mode name w (.out o))
        (wantedStep mode name (wantedOf mode name hist) (.event e)) := by
  rw [wantedOf, foldl_append, entry, foldl_cons, foldl_map]
  rfl

/-- Outputs other than registrations do not change what is wanted. -/
theorem wantedOf_append_entry_of_silent
    (houts : ∀ out ∈ outs, ∀ wanted name, wantedStep mode name wanted (.out out) = wanted)
    (name : SocketName) :
    wantedOf mode name (hist ++ entry e outs) =
      wantedStep mode name (wantedOf mode name hist) (.event e) := by
  rw [wantedOf_append_entry]
  generalize wantedStep mode name (wantedOf mode name hist) (.event e) = w
  induction outs generalizing w with
  | nil => rfl
  | cons out outs ih =>
    rw [foldl_cons, houts out mem_cons_self w name]
    exact ih (fun out hout ↦ houts out (mem_cons_of_mem _ hout)) w

theorem Keeps.suspendAll (h : s.Keeps down wanted) :
    s.suspendAllTrackingSessions.Keeps true wanted := by
  intro name c hc
  rw [find?_suspendAllTrackingSessions] at hc
  obtain ⟨c, hfind, rfl⟩ := Option.map_eq_some_iff.mp hc
  exact (h name c hfind).suspend

theorem Keeps.resumeAll (h : s.Keeps down wanted) (hwalk : s.Walk order)
    (hrestart : ∀ entry ∈ order, ∀ c ∈ s.mClients.find? entry.1, c.handler.mTracking = true →
      c.handler.mSessionId = 0 → c.Restartable entry.2) :
    (s.resumeAllTrackingSessions order).Keeps false wanted := by
  have hon : ∀ entry ∈ order, ∀ c ∈ s.mClients.find? entry.1, (c.resume entry.2).2 = true :=
    fun entry he c hc ↦ ((h entry.1 c hc).resume (hrestart entry he c hc)).2
  intro name c hc
  rcases find?_resumeAllTrackingSessions (s := s) name hwalk.nodup with
    hsame | ⟨c', id, hfind, hmem, hres⟩
  · -- every client is met, so that even one that is left alone was resumed
    rw [hsame] at hc
    obtain ⟨id, hmem⟩ := hwalk.exists_mem hc
    have hres := find?_resumeAllTrackingSessions_of_goesOn hwalk.nodup hon hmem hc
    have hkept := ((h name c hc).resume (hrestart _ hmem c hc)).1
    obtain heq := Option.some_inj.mp ((hsame.trans hc).symm.trans hres)
    rwa [← heq] at hkept
  · obtain rfl : (c'.resume id).1 = c := Option.some_inj.mp (hres.symm.trans hc)
    exact ((h name c' hfind).resume (hrestart _ hmem c' hfind)).1

variable {name : SocketName} {c : Client}

theorem Keeps.setClient
    (h : ∀ name', ∀ c' ∈ s.mClients.find? name', name' ≠ name → c'.Keeps down (wanted name'))
    (hc : c.Keeps down (wanted name)) : (s.setClient name c).Keeps down wanted := by
  intro name' c' hc'
  rw [find?_setClient] at hc'
  split at hc'
  · next heq =>
    obtain rfl := Option.some_inj.mp hc'
    exact heq ▸ hc
  · next hne => exact h name' c' hc' hne

theorem Keeps.message (h : s.Keeps down wanted) {msg : Message} {id : UInt32}
    (hheeds : s.Transparent (.message name msg id)) :
    (s.message name msg id).Keeps down fun name' ↦
      if name' = name then msg.wanted s.mPositionMode (wanted name') else wanted name' := by
  intro name' c hc
  rw [find?_message] at hc
  split at hc
  · next heq =>
    obtain ⟨c, hfind, rfl⟩ := Option.map_eq_some_iff.mp hc
    dsimp only
    rw [if_pos heq]
    exact (h name' c hfind).handle (hheeds c (heq ▸ hfind))
  · next hne =>
    dsimp only
    rw [if_neg hne]
    exact h name' c hc

theorem Walk.suspendAll (h : s.Walk order) : s.suspendAllTrackingSessions.Walk order := by
  have hkeys : s.suspendAllTrackingSessions.mClients.entries.map Prod.fst =
      s.mClients.entries.map Prod.fst := by
    simp [suspendAllTrackingSessions, OrderedMap.mapValues]
  rw [Walk, hkeys]
  exact h

theorem Keeps.onPowerEvent (h : s.Keeps s.mPowerState.isDown wanted) {powerState : PowerStateType}
    (hstate : powerState ≠ .unknown) (hwalk : s.Walk order)
    (hrestart : s.Transparent (.onPowerEvent powerState order)) :
    (s.onPowerEvent powerState order).Keeps powerState.isDown wanted := by
  -- the state is set first, which the clients do not see
  have hset : ({ s with mPowerState := powerState } : LocationApiService).Keeps
    s.mPowerState.isDown wanted := h
  cases powerState with
  | unknown => exact absurd rfl hstate
  | suspend => exact hset.suspendAll
  | shutdown => exact hset.suspendAll
  | resume => exact hset.resumeAll hwalk (hrestart rfl)

theorem Keeps.configAidingDataDeletion (h : s.Keeps s.mPowerState.isDown wanted)
    (hwalk : s.Walk order) (hrestart : s.Transparent (.configAidingDataDeletion order)) :
    (s.configAidingDataDeletion order).Keeps s.mPowerState.isDown wanted := by
  have hsuspended := h.suspendAll
  rw [LocationApiService.configAidingDataDeletion]
  cases hdown : s.mPowerState.isDown with
  | true =>
    rw [if_pos (by exact hdown)]
    exact hsuspended
  | false =>
    rw [if_neg (by exact fun hd ↦ by simp [suspendAllTrackingSessions, hdown] at hd)]
    refine hsuspended.resumeAll hwalk.suspendAll fun entry he c hc ht _ ↦ ?_
    rw [find?_suspendAllTrackingSessions] at hc
    obtain ⟨c, hfind, rfl⟩ := Option.map_eq_some_iff.mp hc
    obtain ⟨htrack, hoptions⟩ := Client.suspend_handler (c := c)
    obtain ⟨hid, hsupported⟩ := hrestart hdown entry he c hfind (htrack ▸ ht)
    exact ⟨hid, by rw [hoptions, hsupported]⟩

/-! ## The fields beside the clients -/

theorem fields_resumeAllTrackingSessions (s : LocationApiService)
    (order : List (SocketName × UInt32)) :
    (s.resumeAllTrackingSessions order).mPowerState = s.mPowerState ∧
      (s.resumeAllTrackingSessions order).mPositionMode = s.mPositionMode := by
  induction order generalizing s with
  | nil => exact ⟨rfl, rfl⟩
  | cons entry order ih =>
    rw [resumeAllTrackingSessions]
    split
    · exact ih s
    · dsimp only
      split
      · exact ih _
      · exact ⟨rfl, rfl⟩

theorem fields_newClient (name : SocketName) (locationApi : Bool) :
    (s.newClient name locationApi).1.mPowerState = s.mPowerState ∧
      (s.newClient name locationApi).1.mPositionMode = s.mPositionMode := by
  rcases newClient_eq (s := s) name locationApi with heq | heq
  · rw [heq]
    exact ⟨rfl, rfl⟩
  · rw [heq]
    exact ⟨rfl, rfl⟩

theorem fields_message (name : SocketName) (msg : Message) (id : UInt32) :
    (s.message name msg id).mPowerState = s.mPowerState ∧
      (s.message name msg id).mPositionMode = s.mPositionMode := by
  rw [LocationApiService.message]
  split
  · exact ⟨rfl, rfl⟩
  · exact ⟨rfl, rfl⟩

theorem fields_onPowerEvent (powerState : PowerStateType) (order : List (SocketName × UInt32)) :
    (s.onPowerEvent powerState order).mPowerState = powerState ∧
      (s.onPowerEvent powerState order).mPositionMode = s.mPositionMode := by
  cases powerState with
  | unknown | suspend | shutdown => exact ⟨rfl, rfl⟩
  | resume => exact fields_resumeAllTrackingSessions _ order

theorem fields_configAidingDataDeletion (order : List (SocketName × UInt32)) :
    (s.configAidingDataDeletion order).mPowerState = s.mPowerState ∧
      (s.configAidingDataDeletion order).mPositionMode = s.mPositionMode := by
  rw [LocationApiService.configAidingDataDeletion]
  split
  · exact ⟨rfl, rfl⟩
  · exact fields_resumeAllTrackingSessions _ order

theorem fields_onResponseCb (name : SocketName) (c : Client) (err : LocationError)
    (answered : ELocMsgID) (rc : Bool) :
    (s.onResponseCb name c err answered rc).1.mPowerState = s.mPowerState ∧
      (s.onResponseCb name c err answered rc).1.mPositionMode = s.mPositionMode := by
  rw [LocationApiService.onResponseCb]
  split
  · exact ⟨rfl, rfl⟩
  · split
    · exact ⟨rfl, rfl⟩
    · exact ⟨rfl, rfl⟩

/-! ## The invariant of the service -/

theorem Keeps.newClient (h : s.Keeps down fun name ↦ wantedOf mode name hist) (name : SocketName)
    (locationApi : Bool) :
    (s.newClient name locationApi).1.Keeps down fun name' ↦ wantedOf mode name'
      (hist ++ entry (.newClient name locationApi) (s.newClient name locationApi).2) := by
  simp only [wantedOf_append_entry, wantedStep]
  rcases newClient_eq (s := s) name locationApi with heq | heq
  · rw [heq]
    exact h
  · rw [heq]
    refine Keeps.setClient (fun name' c hc hne ↦ ?_) ?_
    · simp only [foldl_cons, foldl_nil, if_neg hne]
      exact h name' c hc
    · simp only [foldl_cons, foldl_nil, if_pos]
      exact Client.keeps_new down locationApi

theorem Keeps.onResponseCb (h : s.Keeps down wanted)
    (err : LocationError) (answered : ELocMsgID) (rc : Bool) (i : ℕ)
    (hfind : s.mClients.find? name = some c) :
    (s.onResponseCb name { c with api := c.api.answer i } err answered rc).1.Keeps down
      wanted := by
  intro name' c' hc'
  rcases find?_onResponseCb (s := s) name' name { c with api := c.api.answer i } err answered
    rc with hres | ⟨-, hres⟩
  · rw [hres] at hc'
    split at hc'
    · next heq =>
      obtain rfl := Option.some_inj.mp hc'
      exact (h name' c (heq ▸ hfind)).congr rfl rfl rfl rfl rfl
    · exact h name' c' hc'
  · rw [hres] at hc'
    cases hc'

/-- A response changes nothing that is wanted. -/
theorem wantedStep_onResponseCb (mode : GnssSuplMode)
    {err : LocationError} {answered : ELocMsgID} {rc : Bool} {out : Output}
    (hout : out ∈ (s.onResponseCb name c err answered rc).2) (wanted : Option LocationOptions)
    (name' : SocketName) : wantedStep mode name' wanted (.out out) = wanted := by
  rw [LocationApiService.onResponseCb] at hout
  split at hout
  · cases hout
  · split at hout
    · rw [mem_singleton.mp hout]
      rfl
    · cases hout

/-- The clients keep what they want, under the mode that the service was started with. -/
def KeepsAll (mode : GnssSuplMode) (hist : List (Item Event Output)) (s : LocationApiService) :
    Prop :=
  s.mPositionMode = mode ∧ s.Keeps s.mPowerState.isDown fun name ↦ wantedOf mode name hist

/-- What no message and no registration changes is kept for the longer history. -/
theorem Keeps.keepsAll (h : s'.Keeps s'.mPowerState.isDown fun name ↦ wantedOf mode name hist)
    (hmode : s'.mPositionMode = mode)
    (he : ∀ wanted name, wantedStep mode name wanted (.event e) = wanted)
    (houts : ∀ out ∈ outs, ∀ wanted name, wantedStep mode name wanted (.out out) = wanted) :
    KeepsAll mode (hist ++ entry e outs) s' := by
  refine ⟨hmode, fun name c hc ↦ ?_⟩
  dsimp only
  rw [wantedOf_append_entry_of_silent houts, he]
  exact h name c hc

theorem KeepsAll.step (h : KeepsAll mode hist s) (hg : s.Transparent e)
    (hs : s.step e = some (s', outs)) : KeepsAll mode (hist ++ entry e outs) s' := by
  obtain ⟨hmode, hkeeps⟩ := h
  have hnil : ∀ out ∈ ([] : List Output), ∀ wanted name,
      wantedStep mode name wanted (.out out) = wanted := by simp
  cases e with
  | newClient name locationApi =>
    obtain ⟨hpower, hpos⟩ := fields_newClient (s := s) name locationApi
    have hkept := hkeeps.newClient name locationApi
    rw [← hpower] at hkept
    rw [Option.some_inj.mp hs] at hkept hpos
    exact ⟨hpos.trans hmode, hkept⟩
  | deleteClient name =>
    obtain ⟨rfl, rfl⟩ := some_pair_inj hs
    refine Keeps.keepsAll (fun name' c hc ↦ ?_) hmode (fun _ _ ↦ rfl) hnil
    rw [find?_deleteClientbyName] at hc
    split at hc
    · cases hc
    · exact hkeeps name' c hc
  | message name msg id =>
    obtain ⟨rfl, rfl⟩ := some_pair_inj hs
    obtain ⟨hpower, hpos⟩ := fields_message (s := s) name msg id
    have hkept := hkeeps.message hg
    refine ⟨hpos.trans hmode, fun name' c hc ↦ ?_⟩
    dsimp only
    rw [wantedOf_append_entry_of_silent hnil, hpower]
    rw [hmode] at hkept
    exact hkept name' c hc
  | onPowerEvent powerState order =>
    obtain ⟨⟨hstate, hwalk⟩, rfl, rfl⟩ := step_onPowerEvent hs
    obtain ⟨hpower, hpos⟩ := fields_onPowerEvent (s := s) powerState order
    have hkept := hkeeps.onPowerEvent hstate hwalk hg
    refine Keeps.keepsAll ?_ (hpos.trans hmode) (fun _ _ ↦ rfl) hnil
    rw [hpower]
    exact hkept
  | configAidingDataDeletion order =>
    obtain ⟨hwalk, rfl, rfl⟩ := step_configAidingDataDeletion hs
    obtain ⟨hpower, hpos⟩ := fields_configAidingDataDeletion (s := s) order
    have hkept := hkeeps.configAidingDataDeletion hwalk hg
    rw [← hpower] at hkept
    exact hkept.keepsAll (hpos.trans hmode) (fun _ _ ↦ rfl) hnil
  | onResponseCb name i err rc =>
    obtain ⟨c, answered, hfind, -, heq⟩ := step_onResponseCb hs
    obtain ⟨rfl, rfl⟩ := Prod.mk.inj heq.symm
    obtain ⟨hpower, hpos⟩ := fields_onResponseCb (s := s) name { c with api := c.api.answer i } err
      answered rc
    have hkept := hkeeps.onResponseCb err answered rc i hfind
    rw [← hpower] at hkept
    exact hkept.keepsAll (hpos.trans hmode) (fun _ _ ↦ rfl) fun _ hout ↦
      wantedStep_onResponseCb mode hout

/-- **Suspensions are transparent.** In a run of transparent steps, whenever the system is not down,
what runs for each client is what it asked for last. -/
theorem runsWanted_of_run (h : Run step Transparent (init mode) hist s)
    (hup : s.mPowerState.isDown = false) : s.RunsWanted hist := by
  have hinv : KeepsAll mode hist s :=
    h.invariant (I := KeepsAll mode) ⟨rfl, fun name c hc ↦ by cases hc⟩ fun hI hg hs ↦ hI.step hg hs
  obtain ⟨rfl, hkeeps⟩ := hinv
  rw [hup] at hkeeps
  exact fun name c hc ↦ (hkeeps name c hc).tracking_eq

/-- Two clients are suspended; one of them stops meanwhile, the other one is tracked again. -/
theorem runsWanted_of_run_two_clients : ∃ hist s,
    Run step Transparent (init .msb) hist s ∧ s.mPowerState.isDown = false ∧
      (wantedOf .msb 0 hist).isSome = true ∧ s.RunsWanted hist := by
  obtain ⟨hist, s, hrun, hup⟩ := Run.exists_of_runEvents step Transparent (init .msb)
    [.newClient 0 true, .newClient 1 true, .message 0 (.startTracking ⟨1500, 0, .standalone, 0⟩) 1,
      .message 1 (.startTracking ⟨100, 0, .standalone, 0⟩) 2,
      .message 0 (.updateTrackingOptions ⟨3000, 5, .standalone, 0⟩) 0,
      .configAidingDataDeletion [(1, 3), (0, 4)], .onPowerEvent .suspend [(0, 0), (1, 0)],
      .message 1 .stopTracking 0, .onPowerEvent .resume [(0, 5), (1, 6)]]
    (fun hist s ↦ s.mPowerState.isDown = false ∧ (wantedOf .msb 0 hist).isSome = true)
    (by decide +kernel)
  obtain ⟨hup, hsome⟩ := hup
  exact ⟨hist, s, hrun, hup, hsome, runsWanted_of_run hrun hup⟩

/-- An update to an interval of 1.5 seconds runs with one of 2 seconds, until it is suspended. -/
theorem not_runsWanted : ¬∀ mode hist s, Run step (fun _ _ ↦ True) (init mode) hist s →
    s.mPowerState.isDown = false → s.RunsWanted hist := by
  intro hall
  obtain ⟨hist, s, hrun, hup, hmode, hfind, hwanted⟩ :=
    Run.exists_of_runEvents step (fun _ _ ↦ True) (init .msb)
    [.newClient 0 true, .message 0 (.startTracking ⟨1000, 0, .standalone, 0⟩) 1,
      .message 0 (.updateTrackingOptions ⟨1500, 0, .standalone, 0⟩) 0,
      .onPowerEvent .suspend [(0, 0)], .onPowerEvent .resume [(0, 2)]]
    (fun hist s ↦ s.mPowerState.isDown = false ∧ s.mPositionMode = .msb ∧
      (s.mClients.find? 0).map (·.api.tracking) = some [(2, ⟨1500, 0, .msb, 0⟩)] ∧
      wantedOf .msb 0 hist = some ⟨2000, 0, .msb, 0⟩) (by decide +kernel)
  obtain ⟨c, hc, htracking⟩ := Option.map_eq_some_iff.mp hfind
  have hruns := hall _ hist s hrun hup 0 c hc
  rw [htracking, hmode, hwanted] at hruns
  exact absurd hruns (by decide)

end LocationApiService

end MataDevice.HalDaemon
