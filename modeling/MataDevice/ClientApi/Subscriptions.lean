import MataDevice.ClientApi.System

/-!
# The subscription mask on both sides

The client has a mask of what it is subscribed to, and so has the daemon. The client sends its mask
when it has changed it, but some requests change a mask without saying so: the daemon takes the bits
of a position session out of its mask when it is told to stop tracking, and all bits when it is told
to stop batching; the client clears its mask when the position session is stopped, without telling
the daemon of a passive one. So the two masks agree only as long as such a request finds nothing in
the mask that the other side would keep.
-/

namespace MataDevice.ClientApi

open MataDevice.HalDaemon (CallbacksMask LocationOptions BatchingOptions Message
  locationSessionAllInfoMask)
open MataDevice.Tracking (GnssSuplMode)

namespace LocationClientApiImpl

/-- The handler takes nothing out of one mask that stays in the other one. -/
def LeavesMask (c : LocationClientApiImpl) : LocMsg → Prop
  | .startTracking option =>
    c.mSessionId = true ∧ isPassive c.mLocationOptions = false ∧ isPassive option = true →
      c.mCallbacksMask \ locationSessionAllInfoMask = c.mCallbacksMask
  | .stopTracking =>
    c.mSessionId = true →
      (if isPassive c.mLocationOptions then c.mCallbacksMask
        else c.mCallbacksMask \ locationSessionAllInfoMask) =
      bitIf c.mLocationSysInfoCb .systemInfo
  | .stopBatching => c.mBatchingId = true → c.mCallbacksMask = ∅
  | _ => True

instance (c : LocationClientApiImpl) : ∀ msg, Decidable (c.LeavesMask msg)
  | .startTracking option => inferInstanceAs (Decidable (_ → _))
  | .stopTracking => inferInstanceAs (Decidable (_ → _))
  | .stopBatching => inferInstanceAs (Decidable (_ → _))
  | .updateCallbackFunctions _ | .updateCallbacks _ | .startBatching _ | .updateBatchingOptions _ |
    .updateLocationSystemInfoListener _ | .clientRegister | .onReceive _ =>
    inferInstanceAs (Decidable True)

/-- The mask of a daemon that knows the client, after the messages. -/
def maskAfter (mask : CallbacksMask) : List ToDaemon → CallbacksMask
  | [] => mask
  | .clientRegister :: sent => maskAfter mask sent
  | .request msg :: sent =>
    maskAfter (match msg with
      | .updateSubscription mask => mask
      | .stopTracking => mask \ locationSessionAllInfoMask
      | .stopBatching => ∅
      | _ => mask) sent

variable {c : LocationClientApiImpl}

theorem maskAfter_startTracking_iff (hreg : c.mHalRegistered = true) (option : LocationOptions) :
    maskAfter c.mCallbacksMask (c.startTracking option).2.1 =
        (c.startTracking option).1.mCallbacksMask ↔ c.LeavesMask (.startTracking option) := by
  cases hsession : c.mSessionId with
  | false =>
    cases hpassive : isPassive option <;>
      simp [startTracking, LeavesMask, hreg, hsession, hpassive, maskAfter]
  | true =>
    cases hupdated : c.isOptionUpdated option with
    | false =>
      -- nothing is sent, and an active session has not become a passive one
      have hsame := isPassive_of_not_isOptionUpdated hupdated
      cases hpassive : isPassive c.mLocationOptions <;>
        simp [startTracking, LeavesMask, hreg, hsession, hupdated, hsame, hpassive, maskAfter]
    | true =>
      cases hpassive : isPassive option <;> cases hpassive' : isPassive c.mLocationOptions <;>
        simp [startTracking, updateTrackingOptionsSync, LeavesMask, hreg, hsession, hupdated,
          hpassive, hpassive', maskAfter]

/-- The masks agree after a handler exactly if it has left them alone. -/
theorem maskAfter_proc_iff (hreg : c.mHalRegistered = true) {msg : LocMsg} (hmsg : msg.OfCall) :
    maskAfter c.mCallbacksMask (c.proc msg).2.1 = (c.proc msg).1.mCallbacksMask ↔
      c.LeavesMask msg := by
  cases msg with
  | onReceive ind => exact hmsg.elim
  | updateCallbackFunctions | updateBatchingOptions | clientRegister =>
    simp [proc, procUpdateBatchingOptions, maskAfter, LeavesMask]
  | updateCallbacks callbacks =>
    by_cases hsame : c.mCallbacksMask = c.callBacksMask callbacks
    · simp [proc, updateCallbacks, maskAfter, LeavesMask, hsame]
    · simp [proc, updateCallbacks, maskAfter, LeavesMask, hsame, hreg]
  | updateLocationSystemInfoListener sysInfoCb =>
    cases sysInfoCb <;> cases hsys : c.mLocationSysInfoCb <;>
      simp [proc, updateLocationSystemInfoListener, hreg, hsys, maskAfter, LeavesMask]
  | startTracking option => exact maskAfter_startTracking_iff hreg option
  | stopTracking =>
    cases hsession : c.mSessionId with
    | false => simp [proc, stopTracking, LeavesMask, hsession, maskAfter]
    | true =>
      cases hpassive : isPassive c.mLocationOptions <;>
        simp [proc, stopTracking, LeavesMask, hreg, hsession, hpassive, maskAfter]
  | startBatching options =>
    cases hsession : c.mSessionId <;>
      simp [proc, startBatching, LeavesMask, hreg, hsession, maskAfter]
  | stopBatching =>
    cases hid : c.mBatchingId with
    | false => simp [proc, stopBatching, LeavesMask, hid, maskAfter]
    | true => simp [proc, stopBatching, LeavesMask, hid, maskAfter, eq_comm]

end LocationClientApiImpl

namespace System

variable {s s' : System} {e : Event} {outs : List Empty} {mode : GnssSuplMode}
  {hist : List (Item Event Empty)}

/-- The masks of the client and of the daemon, once it has handled what is on its way, agree. -/
def MasksAgree (s : System) : Prop := s.ahead.map View.mask = some s.client.mCallbacksMask

/-- The masks of the client and of the daemon are the same. -/
def SameMask (s : System) : Prop :=
  ∃ c ∈ s.daemon, c.handler.mSubscriptionMask = s.client.mCallbacksMask

/-- The step takes nothing out of one mask that stays in the other one. -/
def Careful (s : System) : Event → Prop
  | .proc => ∀ msg ∈ s.msgs.head?, s.client.LeavesMask msg
  | .restart | .capabilities => False
  | .call _ | .post | .deliver _ | .onReceive => True

instance (s : System) : ∀ e, Decidable (s.Careful e)
  | .proc => inferInstanceAs (Decidable (∀ msg ∈ s.msgs.head?, _))
  | .restart | .capabilities => inferInstanceAs (Decidable False)
  | .call _ | .post | .deliver _ | .onReceive => inferInstanceAs (Decidable True)

theorem Careful.calm (h : s.Careful e) : s.Calm e := by
  cases e with
  | call | post | proc | deliver | onReceive => trivial
  | capabilities | restart => exact h.elim

theorem mask_foldl_viewStep (view : View) (sent : List ToDaemon) :
    (sent.foldl (viewStep mode) (some view)).map View.mask =
      some (LocationClientApiImpl.maskAfter view.mask sent) := by
  induction sent generalizing view with
  | nil => rfl
  | cons msg sent ih =>
    cases msg with
    | clientRegister => exact ih view
    | request msg => cases msg <;> exact ih _

/-- A step keeps the masks equal exactly if it is careful. -/
theorem MasksAgree.moves_iff (h : s.MasksAgree) (hconn : s.Connected) (hcalm : s.Calm e)
    (hm : s.Moves e s') : s'.MasksAgree ↔ s.Careful e := by
  cases hm with
  | call | post | onReceive => exact iff_of_true h trivial
  | capabilities | restart => exact hcalm.elim
  | deliver hto hid =>
    rw [MasksAgree, hconn.sound.ahead_deliver hto hid]
    exact iff_of_true h trivial
  | @proc msg msgs hmsgs =>
    obtain ⟨view, hview⟩ := Option.isSome_iff_exists.mp hconn.daemon
    have hmask : view.mask = s.client.mCallbacksMask := by simpa [MasksAgree, hview] using h
    have hcall : msg.OfCall := hconn.ofCall msg (by simp [hmsgs])
    have hiff := LocationClientApiImpl.maskAfter_proc_iff hconn.client hcall
    rw [MasksAgree, ahead_afterProc, hview, mask_foldl_viewStep, hmask, Option.some_inj]
    simpa [Careful, hmsgs, afterProc] using hiff

/-- **The masks agree.** In a run of careful steps the masks are the same whenever all messages are
processed; and no step that is not careful keeps them so. -/
theorem masks_of_run (h : Run step Careful (registered mode) hist s) :
    (s.Quiescent → s.SameMask) ∧
      ∀ e s' outs, s.Calm e → s.step e = some (s', outs) → (s'.MasksAgree ↔ s.Careful e) := by
  have hconn : s.Connected := .of_run (h.mono fun s e hg ↦ Careful.calm hg)
  have hagree : s.Connected ∧ s.MasksAgree := by
    refine h.invariant (I := fun _ s ↦ s.Connected ∧ s.MasksAgree)
      ⟨connected_registered mode, rfl⟩ ?_
    intro hist s e s' outs ⟨hc, ha⟩ hg hs
    have hm := moves_of_step hs
    exact ⟨hc.moves hg.calm hm, (ha.moves_iff hc hg.calm hm).mpr hg⟩
  refine ⟨fun hquiet ↦ ?_, fun e s' outs hcalm hs ↦
    hagree.2.moves_iff hconn hcalm (moves_of_step hs)⟩
  have hmasks := hagree.2
  rw [MasksAgree, hquiet.ahead_eq, Option.map_map] at hmasks
  obtain ⟨c, hc, hmask⟩ := Option.map_eq_some_iff.mp hmasks
  exact ⟨c, hc, hmask⟩

/-- A client with a listener starts, updates and stops a position session. -/
theorem masks_of_run_listener : ∃ hist s, Run step Careful (registered .msb) hist s ∧
    s.Quiescent ∧ s.client.mCallbacksMask ≠ ∅ ∧ s.SameMask := by
  obtain ⟨hist, s, hrun, hquiet, hmask⟩ := Run.exists_of_runEvents step Careful (registered .msb)
    [.call (.updateLocationSystemInfoListener true), .post, .proc, .deliver 1,
      .call (.startPositionSession 1000 0), .post, .post, .post, .proc, .proc, .proc, .deliver 1,
      .deliver 1, .call (.startPositionSession 2000 10), .post, .post, .post, .proc, .proc, .proc,
      .deliver 1, .deliver 1, .call .stopPositionSession, .post, .proc, .deliver 1]
    (fun _ s ↦ s.Quiescent ∧ s.client.mCallbacksMask ≠ ∅) (by decide +kernel)
  exact ⟨hist, s, hrun, hquiet, hmask, (masks_of_run hrun).1 hquiet⟩

/-- An active session that becomes a passive one: the daemon is told to stop, and forgets what the
passive listener is subscribed to. -/
theorem not_sameMask : ¬∀ mode hist s, Run step Calm (registered mode) hist s → s.Quiescent →
    s.SameMask := by
  intro hall
  obtain ⟨hist, s, hrun, hquiet, hclient, hdaemon⟩ :=
    Run.exists_of_runEvents step Calm (registered .standalone)
    [.call (.startPositionSession 1000 0), .post, .post, .post, .proc, .proc, .proc, .deliver 1,
      .deliver 1, .call (.startPositionSession 0 0), .post, .post, .post, .proc, .proc, .proc,
      .deliver 1]
    (fun _ s ↦ s.Quiescent ∧ s.client.mCallbacksMask = {.simpleLocationInfo} ∧
      s.daemon.map (·.handler.mSubscriptionMask) = some ∅) (by decide +kernel)
  obtain ⟨c, hc, hsame⟩ := hall _ hist s hrun hquiet
  rw [Option.mem_def.mp hc, Option.map_some, hsame, hclient] at hdaemon
  exact absurd hdaemon (by decide)

end System

end MataDevice.ClientApi
