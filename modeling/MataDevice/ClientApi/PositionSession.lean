import MataDevice.ClientApi.System

/-!
# The position session on both sides

The client starts the position session again when it gets the capabilities of the daemon, since the
daemon may have restarted. For this it forgets the session and posts a start with the saved options
to its own task. What waits there already comes before it: a stop finds no session to be stopped,
and a start is undone when the saved options follow. Apart from this, and from a HAL ready message
that is late, the daemon ends up with the session that the program has asked for last.

The proof looks at three things: what the program wants, read off its calls; what the messages that
wait will make of the session of the client; and what the daemon will do when it has handled what is
on its way. The first two always agree, and the last two while the client is registered and no HAL
ready message is pending.
-/

namespace MataDevice.ClientApi

open List
open MataDevice.HalDaemon (LocationOptions BatchingOptions Message)
open MataDevice.Tracking (GnssSuplMode)

/-! ## What is wanted -/

/-- What the daemon is to run for a position session; for a passive one that is nothing. -/
def active (mode : GnssSuplMode) (option : LocationOptions) : Option LocationOptions :=
  if isPassive option then none else some { option with mode := mode }.supported

/-- What a message of the task makes of the session that is wanted. -/
def LocMsg.wanted (mode : GnssSuplMode) (wanted : Option LocationOptions) :
    LocMsg → Option LocationOptions
  | .startTracking option => active mode option
  | .stopTracking => none
  | _ => wanted

/-- What a call makes of the session that is wanted. -/
def Call.wanted (mode : GnssSuplMode) (wanted : Option LocationOptions) :
    Call → Option LocationOptions
  | .startPositionSession intervalInMs distanceInMeters =>
    active mode ⟨intervalInMs, distanceInMeters, .standalone, 0⟩
  | .startGnssPositionSession intervalInMs _ => active mode ⟨intervalInMs, 0, .standalone, 0⟩
  | .startEnginePositionSession intervalInMs locEngReqMask _ =>
    active mode ⟨intervalInMs, 0, .standalone, locEngReqMask⟩
  | .stopPositionSession => none
  | _ => wanted

/-- What the last call of the program that was about the position session has asked for. -/
def wantedOf (mode : GnssSuplMode) (hist : List (Item Event Empty)) : Option LocationOptions :=
  (eventsOf hist).foldl (fun wanted e ↦ match e with
    | .call call => call.wanted mode wanted
    | _ => wanted) none

/-- The message starts or stops the position session. -/
def LocMsg.isSession : LocMsg → Bool
  | .startTracking _ | .stopTracking => true
  | _ => false

/-- The indication that a message carries. -/
def LocMsg.indication : LocMsg → Option Indication
  | .onReceive ind => some ind
  | _ => none

/-- The session of the client. -/
def LocationClientApiImpl.session (mode : GnssSuplMode) (c : LocationClientApiImpl) :
    Option LocationOptions :=
  if c.mSessionId then active mode c.mLocationOptions else none

variable {mode : GnssSuplMode} {wanted : Option LocationOptions} {msg : LocMsg}
  {msgs : List LocMsg}

theorem Call.indication_of_mem_msgs {call : Call} (h : msg ∈ call.msgs) :
    msg.indication = none := by
  have hcall := Call.ofCall_of_mem_msgs h
  cases msg with
  | onReceive ind => exact hcall.elim
  | _ => rfl

theorem Call.foldl_msgs (call : Call) :
    call.msgs.foldl (LocMsg.wanted mode) wanted = call.wanted mode wanted := by
  cases call <;> rfl

theorem LocMsg.wanted_of_not_isSession (h : msg.isSession = false) :
    msg.wanted mode wanted = wanted := by
  cases msg with
  | startTracking | stopTracking => cases h
  | _ => rfl

/-- Messages that are not about the session do not change what is wanted. -/
theorem foldl_wanted_of_not_isSession (h : ∀ msg ∈ msgs, msg.isSession = false) :
    msgs.foldl (LocMsg.wanted mode) wanted = wanted := by
  induction msgs with
  | nil => rfl
  | cons msg msgs ih =>
    rw [foldl_cons, LocMsg.wanted_of_not_isSession (h msg mem_cons_self)]
    exact ih fun msg hmsg ↦ h msg (mem_cons_of_mem _ hmsg)

/-! ## The handlers -/

/-- The daemon is told something about the tracking session. -/
def ToDaemon.isTracking : ToDaemon → Bool
  | .request (.startTracking _) | .request .stopTracking | .request (.updateTrackingOptions _) => true
  | _ => false

theorem bind_tracking_viewStep {view : Option View} {sent : ToDaemon}
    (h : sent.isTracking = false) :
    (viewStep mode view sent).bind View.tracking = view.bind View.tracking := by
  cases sent with
  | clientRegister => cases view <;> rfl
  | request msg =>
    cases view with
    | none => rfl
    | some view =>
      cases msg with
      | startTracking | stopTracking | updateTrackingOptions => cases h
      | updateSubscription | startBatching | stopBatching | updateBatchingOptions => rfl

theorem bind_tracking_foldl {view : Option View} {sent : List ToDaemon}
    (h : ∀ msg ∈ sent, msg.isTracking = false) :
    (sent.foldl (viewStep mode) view).bind View.tracking = view.bind View.tracking := by
  induction sent generalizing view with
  | nil => rfl
  | cons msg sent ih =>
    rw [foldl_cons, ih fun msg hmsg ↦ h msg (mem_cons_of_mem _ hmsg),
      bind_tracking_viewStep (h msg mem_cons_self)]

namespace LocationClientApiImpl

variable {c : LocationClientApiImpl} {view : View}

/-- Options that are not updated stand for the same session. -/
theorem active_of_not_isOptionUpdated (mode : GnssSuplMode) {option : LocationOptions}
    (h : c.isOptionUpdated option = false) :
    active mode option = active mode c.mLocationOptions := by
  have hpassive := isPassive_of_not_isOptionUpdated h
  simp only [isOptionUpdated, ne_eq, decide_eq_false_iff_not, not_or, not_not] at h
  simp only [active, hpassive, HalDaemon.LocationOptions.supported, h.1, h.2.1, h.2.2]

theorem proc_startTracking (mode : GnssSuplMode) (c : LocationClientApiImpl)
    (option : LocationOptions) :
    (c.startTracking option).1.mHalRegistered = c.mHalRegistered ∧
      (c.startTracking option).1.mSessionId = true ∧
      active mode (c.startTracking option).1.mLocationOptions = active mode option ∧
      (c.startTracking option).2.2 = [] := by
  cases hreg : c.mHalRegistered with
  | false => simp [startTracking, hreg]
  | true =>
    cases hsession : c.mSessionId with
    | false => simp [startTracking, hreg, hsession]
    | true =>
      cases hupdated : c.isOptionUpdated option with
      | false =>
        have hsame := active_of_not_isOptionUpdated mode hupdated
        simp [startTracking, hreg, hsession, hupdated, hsame]
      | true => simp [startTracking, updateTrackingOptionsSync, hreg, hsession, hupdated]

/-- After a start the daemon will run what was asked for, if before it ran the session of the client,
or else none or this one already. -/
theorem tracking_startTracking {option : LocationOptions} (hreg : c.mHalRegistered = true)
    (h : if c.mSessionId then view.tracking = active mode c.mLocationOptions
      else view.tracking = none ∨ view.tracking = active mode option) :
    ((c.startTracking option).2.1.foldl (viewStep mode) (some view)).bind View.tracking =
      active mode option := by
  cases hsession : c.mSessionId with
  | false =>
    have hview : view.tracking = none ∨ view.tracking = active mode option := by
      simpa [hsession] using h
    cases hpassive : isPassive option with
    | true => simpa [startTracking, hreg, hsession, hpassive, active] using hview
    | false =>
      rcases hview with hview | hview <;>
        simp [startTracking, hreg, hsession, hpassive, active, viewStep, View.handle, hview]
  | true =>
    have hview : view.tracking = active mode c.mLocationOptions := by simpa [hsession] using h
    cases hupdated : c.isOptionUpdated option with
    | false =>
      simp [startTracking, hreg, hsession, hupdated, hview, active_of_not_isOptionUpdated mode hupdated]
    | true =>
      cases hpassive : isPassive option <;> cases hpassive' : isPassive c.mLocationOptions <;>
        simp [startTracking, updateTrackingOptionsSync, hreg, hsession, hupdated, hpassive,
          hpassive', active, viewStep, View.handle, hview]

theorem proc_stopTracking (c : LocationClientApiImpl) :
    c.stopTracking.1.mHalRegistered = c.mHalRegistered ∧ c.stopTracking.1.mSessionId = false ∧
      c.stopTracking.2.2 = [] := by
  cases hsession : c.mSessionId <;> simp [stopTracking, hsession]

theorem tracking_stopTracking (hreg : c.mHalRegistered = true)
    (h : view.tracking = if c.mSessionId then active mode c.mLocationOptions else none) :
    (c.stopTracking.2.1.foldl (viewStep mode) (some view)).bind View.tracking = none := by
  cases hsession : c.mSessionId with
  | false => simpa [stopTracking, hsession] using h
  | true =>
    have hview : view.tracking = active mode c.mLocationOptions := by simpa [hsession] using h
    cases hpassive : isPassive c.mLocationOptions <;>
      simp [stopTracking, hreg, hsession, hpassive, active, viewStep, View.handle, hview]

/-- A message that neither is about the session nor comes from the daemon leaves the session alone,
here and there. -/
theorem proc_of_quiet (hsession : msg.isSession = false) (hind : msg.indication = none) :
    ((c.proc msg).1.mHalRegistered = c.mHalRegistered ∧
      (c.proc msg).1.mSessionId = c.mSessionId ∧
      (c.proc msg).1.mLocationOptions = c.mLocationOptions) ∧
    (∀ sent ∈ (c.proc msg).2.1, sent.isTracking = false) ∧
    ∀ msg' ∈ (c.proc msg).2.2, msg'.isSession = false ∧ msg'.indication = none := by
  cases msg with
  | startTracking | stopTracking => cases hsession
  | onReceive => cases hind
  | updateCallbackFunctions | updateBatchingOptions | clientRegister =>
    simp [proc, procUpdateBatchingOptions, ToDaemon.isTracking]
  | updateCallbacks callbacks =>
    rw [proc, updateCallbacks]
    split
    · cases c.mHalRegistered <;> simp [ToDaemon.isTracking]
    · simp
  | updateLocationSystemInfoListener sysInfoCb =>
    cases sysInfoCb <;> cases hsys : c.mLocationSysInfoCb <;> cases hreg : c.mHalRegistered <;>
      simp [proc, updateLocationSystemInfoListener, hreg, hsys, ToDaemon.isTracking]
  | stopBatching =>
    rw [proc, stopBatching]
    split <;> simp [ToDaemon.isTracking]
  | startBatching options =>
    cases hreg : c.mHalRegistered <;> cases hid : c.mSessionId <;>
      simp [proc, startBatching, updateBatchingOptions, hreg, hid, ToDaemon.isTracking]

theorem isTracking_capabilitesCallback :
    ∀ sent ∈ c.capabilitesCallback.2.1, sent.isTracking = false := by
  intro sent hsent
  rw [capabilitesCallback] at hsent
  dsimp only at hsent
  split at hsent
  · rw [mem_singleton.mp hsent]
    rfl
  · cases hsent

theorem indication_capabilitesCallback :
    ∀ msg ∈ c.capabilitesCallback.2.2, msg.indication = none := by
  intro msg hmsg
  rw [capabilitesCallback] at hmsg
  dsimp only at hmsg
  split at hmsg
  · rw [mem_singleton.mp hmsg]
    rfl
  · cases hmsg

/-- The start that is posted is all that is left of the session. -/
theorem find?_capabilitesCallback (hid : c.mSessionId = true)
    (hwait : ∀ msg ∈ msgs, msg.isSession = false) :
    (msgs ++ c.capabilitesCallback.2.2).find? LocMsg.isSession =
      some (.startTracking c.mLocationOptions) := by
  have hnone : msgs.find? LocMsg.isSession = none :=
    List.find?_eq_none.mpr fun msg hmsg ↦ by simp [hwait msg hmsg]
  rw [find?_append, hnone, Option.none_or, capabilitesCallback, if_pos hid]
  rfl

/-- If none waits before it, the start that is posted makes up for the session. -/
theorem foldl_capabilitesCallback
    (hwait : c.mSessionId = true → ∀ msg ∈ msgs, msg.isSession = false) :
    (msgs ++ c.capabilitesCallback.2.2).foldl (LocMsg.wanted mode)
        (c.capabilitesCallback.1.session mode) =
      msgs.foldl (LocMsg.wanted mode) (c.session mode) := by
  rw [foldl_append]
  cases hid : c.mSessionId with
  | false => simp [capabilitesCallback, session, hid]
  | true =>
    simp [capabilitesCallback, session, hid, LocMsg.wanted,
      foldl_wanted_of_not_isSession (hwait hid)]

end LocationClientApiImpl

namespace System

/-- The tracking session of the daemon, once it has handled what is on its way. -/
def trackingAhead (s : System) : Option LocationOptions := s.ahead.bind View.tracking

/-- What has come from the daemon and was not processed by the task yet. -/
def pending (s : System) : List Indication := s.msgs.filterMap LocMsg.indication ++ s.toClient

/-- Capabilities do not find a start or stop waiting behind them that they would overtake, and a HAL
ready message comes before the new daemon runs a session. -/
def Undisturbed (s : System) : Event → Prop
  | .proc => ∀ msg ∈ s.msgs.head?,
    (msg = .onReceive .capabilities → s.client.mSessionId = true →
      ∀ msg' ∈ s.msgs.tail, msg'.isSession = false) ∧
    (msg = .onReceive .halReady → s.trackingAhead = none)
  | _ => True

instance (s : System) : ∀ e, Decidable (s.Undisturbed e)
  | .proc => inferInstanceAs (Decidable (∀ msg ∈ s.msgs.head?, _))
  | .call _ | .post | .deliver _ | .onReceive | .capabilities | .restart =>
    inferInstanceAs (Decidable True)

/-- What a start or stop finds that is processed next. A session that was forgotten is going to be
started again. -/
def InSync (s : System) : Prop :=
  if s.client.mSessionId then s.trackingAhead = active s.mPositionMode s.client.mLocationOptions
  else s.trackingAhead = none ∨ ∃ option, s.msgs.find? LocMsg.isSession =
    some (.startTracking option) ∧ s.trackingAhead = active s.mPositionMode option

structure Synced (mode : GnssSuplMode) (hist : List (Item Event Empty)) (s : System) : Prop where
  mode_eq : s.mPositionMode = mode
  sound : s.SoundDaemon
  wanted : wantedOf mode hist =
    (s.msgs ++ s.posting).foldl (LocMsg.wanted mode) (s.client.session mode)
  posting : ∀ msg ∈ s.posting, msg.indication = none
  unregistered : s.client.mHalRegistered = false → s.trackingAhead = none
  /-- Capabilities that no restart has followed come from the daemon that runs. -/
  fresh : ∀ pre post, s.pending = pre ++ .capabilities :: post → .halReady ∉ post →
    s.daemon.isSome = true
  known : s.client.mHalRegistered = true → .halReady ∉ s.pending → s.ahead.isSome = true
  inSync : s.client.mHalRegistered = true → .halReady ∉ s.pending → s.InSync

/-! ## The steps -/

variable {s s' : System} {e : Event} {hist : List (Item Event Empty)} {outs : List Empty}

theorem synced_init (mode : GnssSuplMode) : Synced mode [] (init mode) where
  mode_eq := rfl
  sound := fun c hc ↦ by cases hc
  wanted := rfl
  posting := fun msg hmsg ↦ by cases hmsg
  unregistered := fun _ ↦ rfl
  fresh := fun pre post h ↦ by
    have hnil : [] = pre ++ .capabilities :: post := h
    simp at hnil
  known := fun h ↦ by cases h
  inSync := fun h ↦ by cases h

/-- Messages that come later are not what a start or stop finds. -/
theorem InSync.append (h : s.InSync) {t : System} (rest : List LocMsg)
    (hsession : t.client.mSessionId = s.client.mSessionId ∧
      t.client.mLocationOptions = s.client.mLocationOptions)
    (hmode : t.mPositionMode = s.mPositionMode) (hahead : t.trackingAhead = s.trackingAhead)
    (hmsgs : t.msgs.find? LocMsg.isSession = (s.msgs ++ rest).find? LocMsg.isSession) :
    t.InSync := by
  rw [InSync] at h ⊢
  rw [hsession.1, hsession.2, hmode, hahead]
  split
  · next hid => rwa [if_pos hid] at h
  · next hid =>
    rw [if_neg hid] at h
    refine h.imp_right ?_
    rintro ⟨option, hfind, ht⟩
    exact ⟨option, by rw [hmsgs, find?_append, hfind, Option.some_or], ht⟩

/-- Events other than calls do not change what is wanted. -/
theorem wantedOf_append_entry_of_not_call (he : ∀ call, e ≠ .call call) :
    wantedOf mode (hist ++ entry e outs) = wantedOf mode hist := by
  rw [wantedOf, eventsOf_append_entry, foldl_append]
  cases e with
  | call call => exact absurd rfl (he call)
  | post | proc | deliver | onReceive | capabilities | restart => rfl

theorem pending_of_msgs (hmsgs : s.msgs = msg :: msgs) :
    s.pending = msg.indication.toList ++ (msgs.filterMap LocMsg.indication ++ s.toClient) := by
  rw [pending, hmsgs, filterMap_cons]
  cases msg.indication <;> rfl

/-- What a handler posts does not come from the daemon. -/
theorem pending_afterProc {r : LocationClientApiImpl.Result}
    (h : ∀ msg ∈ r.2.2, msg.indication = none) :
    (s.afterProc msgs r).pending = msgs.filterMap LocMsg.indication ++ s.toClient := by
  have hnone : r.2.2.filterMap LocMsg.indication = [] := filterMap_eq_nil_iff.mpr h
  rw [pending, afterProc, filterMap_append, hnone, List.append_nil]

section

variable (h : Synced mode hist s)
include h

/-- The handlers of messages that do not come from the daemon. -/
theorem Synced.afterProc (hmsgs : s.msgs = msg :: msgs) (hind : msg.indication = none)
    (hreg : (s.client.proc msg).1.mHalRegistered = s.client.mHalRegistered)
    (hposted : ∀ msg' ∈ (s.client.proc msg).2.2, msg'.isSession = false ∧ msg'.indication = none)
    (hsession : (s.client.proc msg).1.session mode = msg.wanted mode (s.client.session mode))
    (hunreg : s.client.mHalRegistered = false →
      (s.afterProc msgs (s.client.proc msg)).trackingAhead = none)
    (hsync : s.client.mHalRegistered = true → s.ahead.isSome = true → s.InSync →
      (s.afterProc msgs (s.client.proc msg)).InSync) :
    Synced mode (hist ++ entry .proc outs) (s.afterProc msgs (s.client.proc msg)) := by
  have hpending : (s.afterProc msgs (s.client.proc msg)).pending = s.pending := by
    rw [pending_afterProc fun msg' hmsg' ↦ (hposted msg' hmsg').2, pending_of_msgs hmsgs, hind]
    rfl
  refine ⟨h.mode_eq, h.sound, ?_, h.posting, ?_, ?_, ?_, ?_⟩
  · rw [wantedOf_append_entry_of_not_call (by simp), h.wanted, hmsgs]
    have hquiet : ∀ wanted, (s.client.proc msg).2.2.foldl (LocMsg.wanted mode) wanted = wanted :=
      fun _ ↦ foldl_wanted_of_not_isSession fun msg' hmsg' ↦ (hposted msg' hmsg').1
    simp only [System.afterProc, cons_append, foldl_cons, foldl_append, hsession,
      hquiet]
  · exact fun hr ↦ hunreg (hreg ▸ hr)
  · rw [hpending]
    exact h.fresh
  · rw [hpending]
    intro hr hno
    rw [ahead_afterProc]
    exact isSome_foldl_viewStep (h.known (hreg ▸ hr) hno) _
  · rw [hpending]
    exact fun hr hno ↦ hsync (hreg ▸ hr) (h.known (hreg ▸ hr) hno) (h.inSync (hreg ▸ hr) hno)

theorem Synced.proc_quiet (hmsgs : s.msgs = msg :: msgs)
    (hind : msg.indication = none) (hquiet : msg.isSession = false) :
    Synced mode (hist ++ entry .proc outs) (s.afterProc msgs (s.client.proc msg)) := by
  obtain ⟨⟨hreg, hid, hoptions⟩, hsent, hposted⟩ :=
    LocationClientApiImpl.proc_of_quiet (c := s.client) hquiet hind
  have hahead : (s.afterProc msgs (s.client.proc msg)).trackingAhead = s.trackingAhead := by
    rw [trackingAhead, ahead_afterProc, bind_tracking_foldl hsent]
    rfl
  refine h.afterProc hmsgs hind hreg hposted ?_ ?_ ?_
  · rw [LocMsg.wanted_of_not_isSession hquiet, LocationClientApiImpl.session,
      LocationClientApiImpl.session, hid, hoptions]
  · rw [hahead]
    exact h.unregistered
  · intro _ _ hsync
    refine hsync.append (s.client.proc msg).2.2 ⟨hid, hoptions⟩ rfl hahead ?_
    rw [hmsgs, cons_append, find?_cons_of_neg (by simp [hquiet])]
    rfl

/-- A start or stop that is processed posts nothing, and is silent while the client is not
registered. -/
theorem Synced.proc_session (hmsgs : s.msgs = msg :: msgs) (hind : msg.indication = none)
    (hreg : (s.client.proc msg).1.mHalRegistered = s.client.mHalRegistered)
    (hposted : (s.client.proc msg).2.2 = [])
    (hsession : (s.client.proc msg).1.session mode = msg.wanted mode (s.client.session mode))
    (hsilent : s.client.mHalRegistered = false → (s.client.proc msg).2.1 = [])
    (htracking : s.client.mHalRegistered = true → ∀ view : View,
      (if s.client.mSessionId then view.tracking = active mode s.client.mLocationOptions
        else view.tracking = none ∨ ∃ option, (msg :: msgs).find? LocMsg.isSession =
          some (.startTracking option) ∧ view.tracking = active mode option) →
      ((s.client.proc msg).2.1.foldl (viewStep mode) (some view)).bind View.tracking =
        (s.client.proc msg).1.session mode) :
    Synced mode (hist ++ entry .proc outs) (s.afterProc msgs (s.client.proc msg)) := by
  refine h.afterProc hmsgs hind hreg (fun msg' hmsg' ↦ ?_) hsession ?_ ?_
  · rw [hposted] at hmsg'
    cases hmsg'
  · intro hr
    rw [trackingAhead, ahead_afterProc, hsilent hr]
    exact h.unregistered hr
  · intro hr hknown hsync
    obtain ⟨view, hview⟩ := Option.isSome_iff_exists.mp hknown
    have hmode := h.mode_eq
    have hahead : s.trackingAhead = view.tracking := by rw [trackingAhead, hview, Option.bind_some]
    rw [InSync, hahead, hmode, hmsgs] at hsync
    have hnext : (s.afterProc msgs (s.client.proc msg)).trackingAhead =
        (s.client.proc msg).1.session mode := by
      rw [trackingAhead, ahead_afterProc, hview, hmode]
      exact htracking hr view hsync
    rw [InSync, hnext, LocationClientApiImpl.session]
    cases hid : (s.client.proc msg).1.mSessionId with
    | false => simp [System.afterProc, hid]
    | true => simp [System.afterProc, hid, hmode]

theorem Synced.proc_startTracking {option : LocationOptions}
    (hmsgs : s.msgs = .startTracking option :: msgs) :
    Synced mode (hist ++ entry .proc outs)
      (s.afterProc msgs (s.client.proc (.startTracking option))) := by
  obtain ⟨hreg, hid, hoptions, hposted⟩ :=
    LocationClientApiImpl.proc_startTracking mode s.client option
  have hsession : (s.client.startTracking option).1.session mode = active mode option := by
    rw [LocationClientApiImpl.session, if_pos hid, hoptions]
  refine h.proc_session hmsgs rfl hreg hposted hsession (fun hr ↦ ?_) fun hr view hview ↦ ?_
  · simp [LocationClientApiImpl.proc, LocationClientApiImpl.startTracking, hr]
  · refine (LocationClientApiImpl.tracking_startTracking hr ?_).trans hsession.symm
    split
    · next hid => rwa [if_pos hid] at hview
    · next hid =>
      rw [if_neg hid] at hview
      refine hview.imp_right ?_
      rintro ⟨option', hfind, ht⟩
      obtain rfl : option = option' := by simpa [LocMsg.isSession] using hfind
      exact ht

theorem Synced.proc_stopTracking (hmsgs : s.msgs = .stopTracking :: msgs) :
    Synced mode (hist ++ entry .proc outs) (s.afterProc msgs (s.client.proc .stopTracking)) := by
  obtain ⟨hreg, hid, hposted⟩ := LocationClientApiImpl.proc_stopTracking s.client
  have hsession : s.client.stopTracking.1.session mode = none := by
    rw [LocationClientApiImpl.session, hid]
    rfl
  refine h.proc_session hmsgs rfl hreg hposted hsession (fun hr ↦ ?_) fun hr view hview ↦ ?_
  · cases hid : s.client.mSessionId <;>
      simp [LocationClientApiImpl.proc, LocationClientApiImpl.stopTracking, hr, hid]
  · refine (LocationClientApiImpl.tracking_stopTracking hr ?_).trans hsession.symm
    split
    · next hid => rwa [if_pos hid] at hview
    · next hid =>
      -- a session that was to be started again would wait before the stop
      rw [if_neg hid] at hview
      exact hview.resolve_right (by simp [LocMsg.isSession])

/-- The session is forgotten, and the start that is posted will find the daemon with none or with
this one. -/
theorem Synced.proc_capabilities (hmsgs : s.msgs = .onReceive .capabilities :: msgs)
    (hwait : s.client.mSessionId = true → ∀ msg ∈ msgs, msg.isSession = false) :
    Synced mode (hist ++ entry .proc outs)
      (s.afterProc msgs (s.client.proc (.onReceive .capabilities))) := by
  have hpending : s.pending = .capabilities ::
      (s.afterProc msgs (s.client.proc (.onReceive .capabilities))).pending := by
    rw [pending_of_msgs hmsgs, pending_afterProc]
    · rfl
    · exact LocationClientApiImpl.indication_capabilitesCallback
  have hahead : (s.afterProc msgs (s.client.proc (.onReceive .capabilities))).trackingAhead =
      s.trackingAhead := by
    rw [trackingAhead, ahead_afterProc, bind_tracking_foldl]
    · rfl
    · exact LocationClientApiImpl.isTracking_capabilitesCallback
  refine ⟨h.mode_eq, h.sound, ?_, h.posting, (fun hr ↦ by cases hr),
    fun pre post hpre hno ↦ ?_, fun _ hno ↦ ?_, fun _ hno ↦ ?_⟩
  · rw [wantedOf_append_entry_of_not_call (by simp), h.wanted, hmsgs, cons_append,
      foldl_cons, foldl_append, foldl_append]
    exact congrArg (s.posting.foldl (LocMsg.wanted mode))
      (LocationClientApiImpl.foldl_capabilitesCallback hwait).symm
  · exact h.fresh (.capabilities :: pre) post (by rw [hpending, hpre, cons_append]) hno
  · rw [ahead_afterProc]
    refine isSome_foldl_viewStep (isSome_foldl_viewStep ?_ _) _
    rw [Option.isSome_map]
    exact h.fresh [] _ hpending hno
  · have hno' : .halReady ∉ s.pending := by
      rw [hpending]
      simpa using hno
    rw [InSync, if_neg (by exact Bool.false_ne_true), hahead]
    cases hr : s.client.mHalRegistered with
    | false => exact Or.inl (h.unregistered hr)
    | true =>
      have hsync := h.inSync hr hno'
      rw [InSync, hmsgs, find?_cons_of_neg (by simp [LocMsg.isSession])] at hsync
      cases hid : s.client.mSessionId with
      | false =>
        rw [hid] at hsync
        refine Or.imp_right ?_ hsync
        rintro ⟨option, hfind, ht⟩
        exact ⟨option, by rw [System.afterProc, find?_append, hfind, Option.some_or], ht⟩
      | true =>
        rw [hid] at hsync
        exact Or.inr ⟨s.client.mLocationOptions,
          LocationClientApiImpl.find?_capabilitesCallback hid (hwait hid), hsync⟩

theorem Synced.proc_halReady
    (hmsgs : s.msgs = .onReceive .halReady :: msgs) (hnone : s.trackingAhead = none) :
    Synced mode (hist ++ entry .proc outs)
      (s.afterProc msgs (s.client.proc (.onReceive .halReady))) := by
  have hpending : s.pending = .halReady ::
      (s.afterProc msgs (s.client.proc (.onReceive .halReady))).pending := by
    rw [pending_of_msgs hmsgs, pending_afterProc]
    · rfl
    · intro msg hmsg
      rw [mem_singleton.mp hmsg]
      rfl
  refine ⟨h.mode_eq, h.sound, ?_, h.posting, fun _ ↦ ?_, fun pre post hpre hno ↦ ?_,
    (fun hr ↦ by cases hr), (fun hr ↦ by cases hr)⟩
  · rw [wantedOf_append_entry_of_not_call (by simp), h.wanted, hmsgs]
    simp [System.afterProc, LocationClientApiImpl.proc, LocationClientApiImpl.onReceive,
      LocationClientApiImpl.session, LocMsg.wanted]
  · rw [trackingAhead, ahead_afterProc]
    exact hnone
  · exact h.fresh (.halReady :: pre) post (by rw [hpending, hpre, cons_append]) hno

theorem Synced.proc (hmsgs : s.msgs = msg :: msgs) (hg : s.Undisturbed .proc) :
    Synced mode (hist ++ entry .proc outs) (s.afterProc msgs (s.client.proc msg)) := by
  obtain ⟨hcap, hready⟩ := hg msg (by rw [hmsgs, head?_cons]; rfl)
  cases hmsg : msg with
  | startTracking option => exact h.proc_startTracking (hmsg ▸ hmsgs)
  | stopTracking => exact h.proc_stopTracking (hmsg ▸ hmsgs)
  | onReceive ind =>
    subst hmsg
    cases ind with
    | capabilities =>
      refine h.proc_capabilities hmsgs fun hid ↦ ?_
      have hwait := hcap rfl hid
      rwa [hmsgs, tail_cons] at hwait
    | halReady => exact h.proc_halReady hmsgs (hready rfl)
  | updateCallbackFunctions | updateCallbacks | startBatching | stopBatching |
    updateBatchingOptions | updateLocationSystemInfoListener | clientRegister =>
    exact h.proc_quiet (hmsg ▸ hmsgs) rfl rfl

/-- A step that changes nothing but the queues of the client. -/
theorem Synced.requeue {hist' : List (Item Event Empty)}
    {posting' msgs' : List LocMsg} {toClient' : List Indication}
    (hwanted : wantedOf mode hist' =
      (msgs' ++ posting').foldl (LocMsg.wanted mode) (s.client.session mode))
    (hposting : ∀ msg ∈ posting', msg.indication = none)
    (hready : .halReady ∈ s.pending →
      .halReady ∈ msgs'.filterMap LocMsg.indication ++ toClient')
    (hfresh : ∀ pre post, msgs'.filterMap LocMsg.indication ++ toClient' =
      pre ++ .capabilities :: post → .halReady ∉ post → s.daemon.isSome = true)
    (hsent : s.msgs <+: msgs') :
    Synced mode hist' { s with posting := posting', msgs := msgs', toClient := toClient' } := by
  refine ⟨h.mode_eq, h.sound, hwanted, hposting, h.unregistered, hfresh,
    fun hr hno ↦ h.known hr fun hp ↦ hno (hready hp), fun hr hno ↦ ?_⟩
  have hsync := h.inSync hr fun hp ↦ hno (hready hp)
  obtain ⟨rest, rfl⟩ := hsent
  exact hsync.append rest ⟨rfl, rfl⟩ rfl rfl rfl

/-- What the daemon will do does not depend on when it does it. -/
theorem Synced.deliver {id : UInt32} {sent : ToDaemon}
    {toDaemon : List ToDaemon} (hto : s.toDaemon = sent :: toDaemon) (hid : id ≠ 0) :
    Synced mode (hist ++ entry (.deliver id) outs)
      { s with
        toDaemon := toDaemon
        daemon := ClientApi.daemonStep s.mPositionMode id s.daemon sent } := by
  have hahead := h.sound.ahead_deliver hto hid
  refine ⟨h.mode_eq, h.sound.moves (.deliver hto hid), ?_, h.posting, fun hr ↦ ?_,
    fun pre post hpre hno ↦ ?_, fun hr hno ↦ ?_, fun hr hno ↦ ?_⟩
  · rw [wantedOf_append_entry_of_not_call (by simp)]
    exact h.wanted
  · rw [trackingAhead, hahead]
    exact h.unregistered hr
  · exact isSome_daemonStep (h.fresh pre post hpre hno) _ _ _
  · rw [hahead]
    exact h.known hr hno
  · have hsync := h.inSync hr hno
    rw [InSync, trackingAhead] at hsync ⊢
    rw [hahead]
    exact hsync

/-- A new daemon knows nothing, and its HAL ready message is the last one. -/
theorem Synced.restart :
    Synced mode (hist ++ entry .restart outs)
      { s with daemon := none, toDaemon := [], toClient := s.toClient ++ [.halReady] } := by
  have hready : .halReady ∈ s.msgs.filterMap LocMsg.indication ++ (s.toClient ++ [.halReady]) := by
    simp
  refine ⟨h.mode_eq, (fun c hc ↦ by cases hc), ?_, h.posting, fun _ ↦ rfl,
    fun pre post hpre hno ↦ ?_, fun hr hno ↦ absurd hready hno, fun hr hno ↦ absurd hready hno⟩
  · rw [wantedOf_append_entry_of_not_call (by simp)]
    exact h.wanted
  · have hlast : (pre ++ .capabilities :: post).getLast? = some .halReady := by
      rw [← hpre, pending, ← append_assoc, getLast?_concat]
    rcases eq_nil_or_concat post with rfl | ⟨post, ind, rfl⟩
    · simp at hlast
    · rw [concat_eq_append, ← cons_append, ← append_assoc,
        getLast?_concat] at hlast
      rw [Option.some_inj.mp hlast] at hno
      exact absurd (by simp) hno

theorem Synced.moves (hg : s.Undisturbed e) (hm : s.Moves e s') :
    Synced mode (hist ++ entry e outs) s' := by
  cases hm with
  | proc hmsgs => exact h.proc hmsgs hg
  | call call hposting =>
    refine h.requeue ?_ (fun msg hmsg ↦ Call.indication_of_mem_msgs hmsg) id h.fresh
      (prefix_refl _)
    have hwanted := h.wanted
    rw [hposting, List.append_nil] at hwanted
    rw [wantedOf, eventsOf_append_entry, foldl_append, foldl_append, ← hwanted,
      Call.foldl_msgs]
    rfl
  | @post msg posting hposting =>
    have hind : msg.indication = none := h.posting msg (by simp [hposting])
    have hpending : (s.msgs ++ [msg]).filterMap LocMsg.indication ++ s.toClient = s.pending := by
      rw [pending, filterMap_append, filterMap_cons_none hind, filterMap_nil,
        List.append_nil]
    refine h.requeue ?_ (fun msg' hmsg' ↦ h.posting msg' (by simp [hposting, hmsg'])) ?_ ?_
      (prefix_append ..)
    · rw [wantedOf_append_entry_of_not_call (by simp), h.wanted, hposting, append_assoc,
        singleton_append]
    · rw [hpending]
      exact id
    · rw [hpending]
      exact h.fresh
  | deliver hto hid => exact h.deliver hto hid
  | @onReceive ind toClient hto =>
    have hpending : (s.msgs ++ [LocMsg.onReceive ind]).filterMap LocMsg.indication ++ toClient =
        s.pending := by
      rw [pending, hto, filterMap_append, append_assoc]
      rfl
    refine h.requeue ?_ h.posting ?_ ?_ (prefix_append ..)
    · rw [wantedOf_append_entry_of_not_call (by simp), h.wanted]
      simp [foldl_append, LocMsg.wanted]
    · rw [hpending]
      exact id
    · rw [hpending]
      exact h.fresh
  | capabilities hdaemon =>
    refine h.requeue ?_ h.posting ?_ (fun _ _ _ _ ↦ hdaemon) (prefix_refl _)
    · rw [wantedOf_append_entry_of_not_call (by simp)]
      exact h.wanted
    · intro hp
      rw [← append_assoc]
      exact mem_append_left _ hp
  | restart => exact h.restart

/-- What the daemon runs in the end. -/
theorem Synced.tracking_eq (hquiet : s.Quiescent) (hreg : s.client.mHalRegistered = true) :
    ∃ c ∈ s.daemon, c.api.tracking.map Prod.snd = (wantedOf mode hist).toList := by
  have ⟨hposting, hmsgs, _, hto⟩ := hquiet
  have hno : .halReady ∉ s.pending := by simp [pending, hmsgs, hto]
  have hwanted : s.trackingAhead = wantedOf mode hist := by
    have hsync := h.inSync hreg hno
    rw [h.wanted, hmsgs, hposting, nil_append, foldl_nil, LocationClientApiImpl.session]
    rw [InSync, h.mode_eq, hmsgs] at hsync
    split
    · next hid => rwa [if_pos hid] at hsync
    · next hid =>
      rw [if_neg hid] at hsync
      exact hsync.resolve_right (by simp)
  have hknown := h.known hreg hno
  rw [hquiet.ahead_eq, Option.isSome_map] at hknown
  obtain ⟨c, hc⟩ := Option.isSome_iff_exists.mp hknown
  have hsound : Sound c := h.sound c hc
  refine ⟨c, hc, ?_⟩
  rw [← hwanted, trackingAhead, hquiet.ahead_eq, hc, Option.map_some, Option.bind_some, viewOf]
  by_cases hid : c.handler.mSessionId = 0
  · have hnil : c.api.tracking = [] := (hid ▸ hsound.tracking).eq_nil
    simp [hnil]
  · obtain ⟨options, hone⟩ := hsound.tracking.exists_of_ne hid
    simp [hone]

end

end System

end MataDevice.ClientApi
