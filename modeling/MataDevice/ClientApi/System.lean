import MataDevice.ClientApi.LocationClientApi
import MataDevice.Lib.History

/-!
# A client and the daemon

The client and the HAL daemon exchange messages over a connection that keeps their order. The calls
of the program post messages to the task of the client, one after the other; what comes from the
daemon is posted there as well, possibly in between. A daemon that restarts knows no client. What was
on its way to it is lost, and so is what a client sends that is not registered.

The daemon is looked at through a `View`: the options of its sessions and the mask, without ids and
answers. What it will look like when it has handled what is on its way, `System.ahead`, is what the
client can count on, since nothing but a restart comes in between.
-/

namespace MataDevice.ClientApi

open List
open MataDevice.HalDaemon (CallbackBit CallbacksMask LocationOptions BatchingOptions Message
  locationSessionAllInfoMask)
open MataDevice.Tracking (GnssSuplMode)
open MataDevice.Batching (BatchingMode)

/-! ## The daemon -/

/-- The sessions the daemon runs for a client, and the mask of the client. -/
structure View where
  tracking : Option LocationOptions
  batching : Option BatchingOptions
  mask : CallbacksMask
  deriving DecidableEq

namespace View

def new : View := ⟨none, none, ∅⟩

variable (mode : GnssSuplMode) (v : View)

/-- A start is ignored while there is a session, an update while there is none. -/
def handle : Message → View
  | .startTracking locOptions =>
    { v with tracking := some (v.tracking.getD { locOptions with mode := mode }.supported) }
  | .stopTracking => { v with tracking := none, mask := v.mask \ locationSessionAllInfoMask }
  | .updateTrackingOptions locOptions =>
    { v with tracking := v.tracking.map fun _ ↦ { locOptions with mode := mode }.supported }
  | .updateSubscription mask => { v with mask := mask }
  | .startBatching interval distance batchingMode =>
    { v with batching := some (v.batching.getD ⟨interval, distance, .standalone, batchingMode⟩) }
  | .stopBatching => { v with batching := none, mask := ∅ }
  | .updateBatchingOptions interval distance batchingMode =>
    { v with batching := v.batching.map fun _ ↦ ⟨interval, distance, .standalone, batchingMode⟩ }

end View

/-- At most one session, under the id that the handler has. -/
def SoundSession {α : Type} (id : UInt32) (sessions : List (UInt32 × α)) : Prop :=
  sessions.map Prod.fst = if id = 0 then [] else [id]

/-- The handler knows the sessions that `LocationAPI` runs for its client. -/
structure Sound (c : HalDaemon.Client) : Prop where
  api : c.handler.mLocationApi = true
  tracking : SoundSession c.handler.mSessionId c.api.tracking
  batching : SoundSession c.handler.mBatchingId c.api.batching

def viewOf (c : HalDaemon.Client) : View where
  tracking := c.api.tracking.head?.map Prod.snd
  batching := c.api.batching.head?.map Prod.snd
  mask := c.handler.mSubscriptionMask

theorem sound_new : Sound (.new true) := ⟨rfl, rfl, rfl⟩

section Daemon

variable {c : HalDaemon.Client} {mode : GnssSuplMode} {id : UInt32} {α : Type}
  {sessions : List (UInt32 × α)}

theorem SoundSession.eq_nil (h : SoundSession 0 sessions) : sessions = [] := by
  simpa [SoundSession] using h

theorem SoundSession.exists_of_ne (h : SoundSession id sessions) (hid : id ≠ 0) :
    ∃ options, sessions = [(id, options)] := by
  rw [SoundSession, if_neg hid, map_eq_singleton_iff] at h
  obtain ⟨⟨id', options⟩, rfl, rfl⟩ := h
  exact ⟨options, rfl⟩

theorem soundSession_singleton {options : α} (hid : id ≠ 0) :
    SoundSession id [(id, options)] := by
  simp [SoundSession, hid]

/-- The daemon looks after a message as the view says, and stays sound. -/
def Follows (mode : GnssSuplMode) (c c' : HalDaemon.Client) (msg : Message) : Prop :=
  Sound c' ∧ viewOf c' = (viewOf c).handle mode msg

theorem Sound.startTracking (h : Sound c) (hid : id ≠ 0) (locOptions : LocationOptions) :
    Follows mode c (c.startTracking mode locOptions id) (.startTracking locOptions) := by
  by_cases h0 : c.handler.mSessionId = 0
  · have hnil : c.api.tracking = [] := (h0 ▸ h.tracking).eq_nil
    rw [HalDaemon.Client.startTracking_of_started h0 h.api hid]
    refine ⟨⟨h.api, ?_, h.batching⟩, ?_⟩
    · simp only [hnil, nil_append]
      exact soundSession_singleton hid
    · simp [viewOf, View.handle, hnil]
  · obtain ⟨options, hone⟩ := h.tracking.exists_of_ne h0
    rw [HalDaemon.Client.startTracking_of_running h0]
    exact ⟨⟨h.api, h.tracking, h.batching⟩, by
      simp [viewOf, View.handle, HalDaemon.Client.push, HalDaemon.Client.setTracking,
        HalDaemon.LocHalDaemonClientHandler.push, hone]⟩

theorem Sound.stopTracking (h : Sound c) : Follows mode c c.stopTracking .stopTracking := by
  by_cases h0 : c.handler.mSessionId = 0
  · have hnil : c.api.tracking = [] := (h0 ▸ h.tracking).eq_nil
    rw [HalDaemon.Client.stopTracking_of_not_running fun hrun ↦ hrun.1 h0]
    exact ⟨⟨h.api, h.tracking, h.batching⟩, by simp [viewOf, View.handle, hnil]⟩
  · obtain ⟨options, hone⟩ := h.tracking.exists_of_ne h0
    rw [HalDaemon.Client.stopTracking_of_running ⟨h0, h.api⟩]
    exact ⟨⟨h.api, by simp [SoundSession, hone], h.batching⟩, by simp [viewOf, View.handle, hone]⟩

theorem Sound.updateTrackingOptions (h : Sound c) (locOptions : LocationOptions) :
    Follows mode c (c.updateTrackingOptions mode locOptions)
      (.updateTrackingOptions locOptions) := by
  by_cases h0 : c.handler.mSessionId = 0
  · have hnil : c.api.tracking = [] := (h0 ▸ h.tracking).eq_nil
    rw [HalDaemon.Client.updateTrackingOptions_of_not_running fun hrun ↦ hrun.1 h0]
    exact ⟨⟨h.api, h.tracking, h.batching⟩, by
      simp [viewOf, View.handle, HalDaemon.Client.push, HalDaemon.LocHalDaemonClientHandler.push,
        hnil]⟩
  · obtain ⟨options, hone⟩ := h.tracking.exists_of_ne h0
    rw [HalDaemon.Client.updateTrackingOptions_of_running ⟨h0, h.api⟩]
    exact ⟨⟨h.api, by simp [SoundSession, hone, h0], h.batching⟩, by
      simp [viewOf, View.handle, hone]⟩

theorem Sound.startBatching (h : Sound c) (hid : id ≠ 0) (interval distance : UInt32)
    (batchingMode : BatchingMode) :
    Follows mode c (c.startBatching interval distance batchingMode id)
      (.startBatching interval distance batchingMode) := by
  by_cases h0 : c.handler.mBatchingId = 0
  · have hnil : c.api.batching = [] := (h0 ▸ h.batching).eq_nil
    rw [HalDaemon.Client.startBatching_of_started h0 h.api hid]
    refine ⟨⟨h.api, h.tracking, ?_⟩, ?_⟩
    · simp only [hnil, nil_append]
      exact soundSession_singleton hid
    · simp [viewOf, View.handle, hnil, HalDaemon.LocHalDaemonClientHandler.batchOptions]
  · obtain ⟨options, hone⟩ := h.batching.exists_of_ne h0
    rw [HalDaemon.Client.startBatching_of_running h0]
    exact ⟨⟨h.api, h.tracking, h.batching⟩, by
      simp [viewOf, View.handle, HalDaemon.Client.push, HalDaemon.Client.setBatching,
        HalDaemon.LocHalDaemonClientHandler.push, hone]⟩

theorem Sound.stopBatching (h : Sound c) : Follows mode c c.stopBatching .stopBatching := by
  by_cases h0 : c.handler.mBatchingId = 0
  · have hnil : c.api.batching = [] := (h0 ▸ h.batching).eq_nil
    rw [HalDaemon.Client.stopBatching_of_not_running fun hrun ↦ hrun.1 h0]
    exact ⟨⟨h.api, h.tracking, h.batching⟩, by simp [viewOf, View.handle, hnil]⟩
  · obtain ⟨options, hone⟩ := h.batching.exists_of_ne h0
    rw [HalDaemon.Client.stopBatching_of_running ⟨h0, h.api⟩]
    exact ⟨⟨h.api, h.tracking, by simp [SoundSession, hone]⟩, by simp [viewOf, View.handle, hone]⟩

theorem Sound.updateBatchingOptions (h : Sound c) (interval distance : UInt32)
    (batchingMode : BatchingMode) :
    Follows mode c (c.updateBatchingOptions interval distance batchingMode)
      (.updateBatchingOptions interval distance batchingMode) := by
  by_cases h0 : c.handler.mBatchingId = 0
  · have hnil : c.api.batching = [] := (h0 ▸ h.batching).eq_nil
    rw [HalDaemon.Client.updateBatchingOptions_of_not_running fun hrun ↦ hrun.1 h0]
    exact ⟨⟨h.api, h.tracking, h.batching⟩, by
      simp [viewOf, View.handle, HalDaemon.Client.push, HalDaemon.LocHalDaemonClientHandler.push,
        hnil]⟩
  · obtain ⟨options, hone⟩ := h.batching.exists_of_ne h0
    rw [HalDaemon.Client.updateBatchingOptions_of_running ⟨h0, h.api⟩]
    exact ⟨⟨h.api, h.tracking, by simp [SoundSession, hone, h0]⟩, by
      simp [viewOf, View.handle, hone, HalDaemon.LocHalDaemonClientHandler.batchOptions]⟩

/-- If `LocationAPI` starts what it is told to start, the daemon does what the view does. -/
theorem Sound.handle (h : Sound c) (mode : GnssSuplMode) (hid : id ≠ 0) (msg : Message) :
    Follows mode c (c.handle mode id msg) msg := by
  cases msg with
  | startTracking locOptions => exact h.startTracking hid locOptions
  | stopTracking => exact h.stopTracking
  | updateTrackingOptions locOptions => exact h.updateTrackingOptions locOptions
  | updateSubscription mask =>
    rw [HalDaemon.Client.handle, HalDaemon.Client.updateSubscription_eq]
    exact ⟨⟨h.api, h.tracking, h.batching⟩, rfl⟩
  | startBatching interval distance batchingMode =>
    exact h.startBatching hid interval distance batchingMode
  | stopBatching => exact h.stopBatching
  | updateBatchingOptions interval distance batchingMode =>
    exact h.updateBatchingOptions interval distance batchingMode

end Daemon

/-! ## The system -/

/-- The program, the client with its task, the daemon, and what is on its way between the two. -/
structure System where
  client : LocationClientApiImpl
  /-- what the call that the program is in has still to post -/
  posting : List LocMsg
  msgs : List LocMsg
  toDaemon : List ToDaemon
  daemon : Option HalDaemon.Client
  toClient : List Indication
  mPositionMode : GnssSuplMode
  deriving DecidableEq

inductive Event
  | call (call : Call)
  /-- The call posts its next message. -/
  | post
  /-- The task takes its next message. -/
  | proc
  /-- The daemon handles its next message; `id` is what `LocationAPI` returns if a session is
  started. -/
  | deliver (id : UInt32)
  /-- The next message of the daemon is received and posted. -/
  | onReceive
  /-- The daemon sends its capabilities to a client that it knows. -/
  | capabilities
  | restart
  deriving DecidableEq, Repr

/-- The daemon handles a message of the client, which it may not know. -/
def daemonStep (mode : GnssSuplMode) (id : UInt32) (daemon : Option HalDaemon.Client) :
    ToDaemon → Option HalDaemon.Client
  | .clientRegister => some (daemon.getD (.new true))
  | .request msg => daemon.map (·.handle mode id msg)

def viewStep (mode : GnssSuplMode) (view : Option View) : ToDaemon → Option View
  | .clientRegister => some (view.getD .new)
  | .request msg => view.map (·.handle mode msg)

namespace System

/-- The listener of a new client is ready and lets it register. -/
def init (mode : GnssSuplMode) : System := ⟨.new, [], [.clientRegister], [], none, [], mode⟩

/-- A client that has just been registered. -/
def registered (mode : GnssSuplMode) : System :=
  ⟨{ LocationClientApiImpl.new with mHalRegistered := true }, [], [], [], some (.new true), [], mode⟩

variable (s : System)

/-- The system after a handler of the task. -/
def afterProc (msgs : List LocMsg) (r : LocationClientApiImpl.Result) : System :=
  { s with client := r.1, msgs := msgs ++ r.2.2, toDaemon := s.toDaemon ++ r.2.1 }

/-- The program makes one call after the other. -/
def step : Event → Option (System × List Empty)
  | .call call => if s.posting = [] then some ({ s with posting := call.msgs }, []) else none
  | .post =>
    match s.posting with
    | [] => none
    | msg :: posting => some ({ s with posting := posting, msgs := s.msgs ++ [msg] }, [])
  | .proc =>
    match s.msgs with
    | [] => none
    | msg :: msgs => some (s.afterProc msgs (s.client.proc msg), [])
  | .deliver id =>
    match s.toDaemon with
    | [] => none
    | msg :: toDaemon =>
      if id = 0 then none
      else some ({ s with
        toDaemon := toDaemon
        daemon := daemonStep s.mPositionMode id s.daemon msg }, [])
  | .onReceive =>
    match s.toClient with
    | [] => none
    | ind :: toClient => some ({ s with toClient := toClient, msgs := s.msgs ++ [.onReceive ind] }, [])
  | .capabilities =>
    if s.daemon.isSome then some ({ s with toClient := s.toClient ++ [.capabilities] }, []) else none
  | .restart =>
    some ({ s with daemon := none, toDaemon := [], toClient := s.toClient ++ [.halReady] }, [])

/-- All messages have been processed on both sides. -/
def Quiescent : Prop := s.posting = [] ∧ s.msgs = [] ∧ s.toDaemon = [] ∧ s.toClient = []

instance : Decidable s.Quiescent := inferInstanceAs (Decidable (_ ∧ _))

/-- The daemon as it will be when it has handled what is on its way. -/
def ahead : Option View :=
  s.toDaemon.foldl (viewStep s.mPositionMode) (s.daemon.map viewOf)

/-- The daemon, if there is a client in it, is sound. -/
def SoundDaemon : Prop := ∀ c ∈ s.daemon, Sound c

variable {s} {s' : System} {e : Event} {outs : List Empty}

theorem Quiescent.ahead_eq (h : s.Quiescent) : s.ahead = s.daemon.map viewOf := by
  rw [ahead, h.2.2.1, foldl_nil]

/-- What a handler sends is handled after what was on its way before. -/
theorem ahead_afterProc (msgs : List LocMsg) (r : LocationClientApiImpl.Result) :
    (s.afterProc msgs r).ahead = r.2.1.foldl (viewStep s.mPositionMode) s.ahead := by
  rw [ahead, afterProc, foldl_append]
  rfl

theorem SoundDaemon.daemonStep (h : s.SoundDaemon) {id : UInt32} (hid : id ≠ 0) (msg : ToDaemon) :
    (∀ c ∈ ClientApi.daemonStep s.mPositionMode id s.daemon msg, Sound c) ∧
      (ClientApi.daemonStep s.mPositionMode id s.daemon msg).map viewOf =
        viewStep s.mPositionMode (s.daemon.map viewOf) msg := by
  cases hd : s.daemon with
  | none =>
    cases msg with
    | clientRegister => exact ⟨fun c hc ↦ Option.some_inj.mp hc ▸ sound_new, rfl⟩
    | request msg => exact ⟨(fun c hc ↦ by cases hc), rfl⟩
  | some c =>
    have hsound : Sound c := h c hd
    cases msg with
    | clientRegister => exact ⟨fun c' hc' ↦ Option.some_inj.mp hc' ▸ hsound, rfl⟩
    | request msg =>
      obtain ⟨hsound', hview⟩ := hsound.handle s.mPositionMode hid msg
      exact ⟨fun c' hc' ↦ Option.some_inj.mp hc' ▸ hsound', congrArg some hview⟩

/-- What a step can do. -/
inductive Moves (s : System) : Event → System → Prop
  | call (call : Call) (h : s.posting = []) : Moves s (.call call) { s with posting := call.msgs }
  | post {msg : LocMsg} {posting : List LocMsg} (h : s.posting = msg :: posting) :
    Moves s .post { s with posting := posting, msgs := s.msgs ++ [msg] }
  | proc {msg : LocMsg} {msgs : List LocMsg} (h : s.msgs = msg :: msgs) :
    Moves s .proc (s.afterProc msgs (s.client.proc msg))
  | deliver {id : UInt32} {msg : ToDaemon} {toDaemon : List ToDaemon}
    (h : s.toDaemon = msg :: toDaemon) (hid : id ≠ 0) :
    Moves s (.deliver id)
      { s with toDaemon := toDaemon, daemon := ClientApi.daemonStep s.mPositionMode id s.daemon msg }
  | onReceive {ind : Indication} {toClient : List Indication} (h : s.toClient = ind :: toClient) :
    Moves s .onReceive { s with toClient := toClient, msgs := s.msgs ++ [.onReceive ind] }
  | capabilities (h : s.daemon.isSome = true) :
    Moves s .capabilities { s with toClient := s.toClient ++ [.capabilities] }
  | restart :
    Moves s .restart
      { s with daemon := none, toDaemon := [], toClient := s.toClient ++ [.halReady] }

theorem moves_of_step (hs : s.step e = some (s', outs)) : s.Moves e s' := by
  cases e with
  | call call =>
    rw [step] at hs
    split at hs
    · next h =>
      obtain ⟨rfl, -⟩ := some_pair_inj hs
      exact .call call h
    · cases hs
  | post =>
    rw [step] at hs
    split at hs
    · cases hs
    · next h =>
      obtain ⟨rfl, -⟩ := some_pair_inj hs
      exact .post h
  | proc =>
    rw [step] at hs
    split at hs
    · cases hs
    · next h =>
      obtain ⟨rfl, -⟩ := some_pair_inj hs
      exact .proc h
  | deliver id =>
    rw [step] at hs
    split at hs
    · cases hs
    · next h =>
      split at hs
      · cases hs
      · next hid =>
        obtain ⟨rfl, -⟩ := some_pair_inj hs
        exact .deliver h hid
  | onReceive =>
    rw [step] at hs
    split at hs
    · cases hs
    · next h =>
      obtain ⟨rfl, -⟩ := some_pair_inj hs
      exact .onReceive h
  | capabilities =>
    rw [step] at hs
    split at hs
    · next h =>
      obtain ⟨rfl, -⟩ := some_pair_inj hs
      exact .capabilities h
    · cases hs
  | restart =>
    obtain ⟨rfl, -⟩ := some_pair_inj hs
    exact .restart

theorem SoundDaemon.moves (h : s.SoundDaemon) (hm : s.Moves e s') : s'.SoundDaemon := by
  cases hm with
  | call | post | proc | onReceive | capabilities => exact h
  | @deliver _ msg _ _ hid => exact (h.daemonStep hid msg).1
  | restart => exact fun c hc ↦ by cases hc

/-- The daemon handles its messages as it was to be expected. -/
theorem SoundDaemon.ahead_deliver (h : s.SoundDaemon) {id : UInt32} {msg : ToDaemon}
    {toDaemon : List ToDaemon} (hto : s.toDaemon = msg :: toDaemon) (hid : id ≠ 0) :
    ({ s with
      toDaemon := toDaemon
      daemon := ClientApi.daemonStep s.mPositionMode id s.daemon msg } : System).ahead =
        s.ahead := by
  rw [ahead, ahead, hto, foldl_cons, ← (h.daemonStep hid msg).2]

/-! ## A client that stays registered -/

/-- The daemon neither restarts nor reports its capabilities. -/
def Calm (_ : System) : Event → Prop
  | .restart | .capabilities => False
  | .call _ | .post | .proc | .deliver _ | .onReceive => True

instance (s : System) : ∀ e, Decidable (s.Calm e)
  | .restart | .capabilities => inferInstanceAs (Decidable False)
  | .call _ | .post | .proc | .deliver _ | .onReceive => inferInstanceAs (Decidable True)

end System

/-- The message was posted by a call, not by the listener. -/
def LocMsg.OfCall : LocMsg → Prop
  | .onReceive _ => False
  | _ => True

theorem Call.ofCall_of_mem_msgs {call : Call} {msg : LocMsg} (h : msg ∈ call.msgs) :
    msg.OfCall := by
  have hall : ∀ msg ∈ call.msgs, msg.OfCall := by
    cases call <;> simp [Call.msgs, sessionMsgs, LocMsg.OfCall]
  exact hall msg h

namespace LocationClientApiImpl

variable {c : LocationClientApiImpl} {msg : LocMsg}

theorem ofCall_of_mem_updateBatchingOptions {options : BatchingOptions}
    (h : msg ∈ c.updateBatchingOptions options) : msg.OfCall := by
  rw [updateBatchingOptions] at h
  split at h
  · rw [mem_singleton.mp h]
    trivial
  · cases h

/-- What a call posts does not touch the registration, and posts nothing of the listener. -/
theorem proc_of_ofCall (h : msg.OfCall) :
    (c.proc msg).1.mHalRegistered = c.mHalRegistered ∧
      ∀ msg' ∈ (c.proc msg).2.2, msg'.OfCall := by
  cases msg with
  | onReceive ind => exact h.elim
  | updateCallbackFunctions | updateBatchingOptions | updateLocationSystemInfoListener |
    clientRegister => exact ⟨rfl, fun msg' hmsg ↦ by cases hmsg⟩
  | updateCallbacks callbacks =>
    rw [proc, updateCallbacks]
    split <;> exact ⟨rfl, fun msg' hmsg ↦ by cases hmsg⟩
  | stopTracking =>
    rw [proc, stopTracking]
    split <;> exact ⟨rfl, fun msg' hmsg ↦ by cases hmsg⟩
  | stopBatching =>
    rw [proc, stopBatching]
    split <;> exact ⟨rfl, fun msg' hmsg ↦ by cases hmsg⟩
  | startTracking option =>
    rw [proc, startTracking]
    split
    · exact ⟨rfl, fun msg' hmsg ↦ by cases hmsg⟩
    · split
      · exact ⟨rfl, fun msg' hmsg ↦ by cases hmsg⟩
      · split <;> exact ⟨rfl, fun msg' hmsg ↦ by cases hmsg⟩
  | startBatching options =>
    rw [proc, startBatching]
    split
    · exact ⟨rfl, fun msg' hmsg ↦ by cases hmsg⟩
    · split
      · exact ⟨rfl, fun msg' hmsg ↦ by cases hmsg⟩
      · exact ⟨rfl, fun msg' hmsg ↦ ofCall_of_mem_updateBatchingOptions hmsg⟩

end LocationClientApiImpl

namespace System

variable {s s' : System} {e : Event}

/-- Client and daemon know each other, and nothing comes that changes it. -/
structure Connected (s : System) : Prop where
  sound : s.SoundDaemon
  client : s.client.mHalRegistered = true
  daemon : s.ahead.isSome = true
  silent : s.toClient = []
  ofCall : ∀ msg ∈ s.msgs ++ s.posting, msg.OfCall

theorem connected_registered (mode : GnssSuplMode) : (registered mode).Connected :=
  ⟨fun _ hc ↦ Option.some_inj.mp hc ▸ sound_new, rfl, rfl, rfl, by simp [registered]⟩

theorem isSome_daemonStep {daemon : Option HalDaemon.Client} (h : daemon.isSome = true)
    (mode : GnssSuplMode) (id : UInt32) (msg : ToDaemon) :
    (daemonStep mode id daemon msg).isSome = true := by
  cases msg with
  | clientRegister => rfl
  | request msg => rwa [daemonStep, Option.isSome_map]

theorem isSome_foldl_viewStep {mode : GnssSuplMode} {view : Option View} (h : view.isSome = true)
    (sent : List ToDaemon) : (sent.foldl (viewStep mode) view).isSome = true := by
  induction sent generalizing view with
  | nil => exact h
  | cons msg sent ih =>
    refine ih ?_
    cases msg with
    | clientRegister => rfl
    | request msg => rwa [viewStep, Option.isSome_map]

theorem Connected.moves (h : s.Connected) (hcalm : s.Calm e) (hm : s.Moves e s') :
    s'.Connected := by
  have hsound := h.sound.moves hm
  cases hm with
  | call call hposting =>
    refine ⟨hsound, h.client, h.daemon, h.silent, fun msg hmsg ↦ ?_⟩
    rcases mem_append.mp hmsg with hmsg | hmsg
    · exact h.ofCall msg (mem_append_left _ hmsg)
    · exact Call.ofCall_of_mem_msgs hmsg
  | @post msg posting hposting =>
    refine ⟨hsound, h.client, h.daemon, h.silent, fun msg hmsg ↦ h.ofCall msg ?_⟩
    rw [hposting]
    simpa using hmsg
  | @proc msg msgs hmsgs =>
    obtain ⟨hreg, hposted⟩ := LocationClientApiImpl.proc_of_ofCall (c := s.client)
      (h.ofCall msg (by simp [hmsgs]))
    refine ⟨hsound, hreg.trans h.client, ?_, h.silent, fun msg' hmsg' ↦ ?_⟩
    · rw [ahead_afterProc]
      exact isSome_foldl_viewStep h.daemon _
    · simp only [afterProc, append_assoc, mem_append] at hmsg'
      rcases hmsg' with hmsg' | hmsg' | hmsg'
      · exact h.ofCall msg' (by simp [hmsgs, hmsg'])
      · exact hposted msg' hmsg'
      · exact h.ofCall msg' (by simp [hmsg'])
  | deliver hto hid =>
    refine ⟨hsound, h.client, ?_, h.silent, h.ofCall⟩
    rw [h.sound.ahead_deliver hto hid]
    exact h.daemon
  | onReceive hto =>
    rw [h.silent] at hto
    cases hto
  | capabilities | restart => exact hcalm.elim

theorem Connected.of_run {mode : GnssSuplMode} {hist : List (Item Event Empty)}
    (h : Run step Calm (registered mode) hist s) : s.Connected :=
  h.invariant (I := fun _ s ↦ s.Connected) (connected_registered mode)
    fun hI hg hs ↦ hI.moves hg (moves_of_step hs)

end System

end MataDevice.ClientApi
