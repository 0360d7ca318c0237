import MataDevice.Batching.Adapter
import Mathlib.Data.Finset.Basic

/-!
# The client handlers of the HAL daemon

The HAL daemon, `LocationApiService`, has a `LocHalDaemonClientHandler` for each of its clients. The
handler runs at most one tracking session and at most one batching session of `LocationAPI` for its
client, and it remembers in `mPendingMessages` which requests wait for an answer.

What the daemon does with a message of a client is written here for one client: its handler together
with its `LocationAPI` object. Of the latter there are the sessions that run, each with the options
it was given last, and the calls that have not been answered. Starting a session returns its id, or
zero if there is nothing that could run it; in that case there will be no answer either.
-/

namespace MataDevice.HalDaemon

open MataDevice.Tracking (LocationError GnssSuplMode)
open MataDevice.Batching (BatchingMode)

/-! ## Data types -/

/-- The message ids of the requests that are answered by a generic response. -/
inductive ELocMsgID
  | startTracking
  | stopTracking
  | updateTrackingOptions
  | startBatching
  | stopBatching
  | updateBatchingOptions
  deriving DecidableEq, Repr

/-- The bits of a subscription mask. -/
inductive CallbackBit
  | distanceBasedTracking
  | gnssLocationInfo
  | gnssSv
  | gnssNmea
  | gnssData
  | systemInfo
  | batching
  | batchingStatus
  | geofenceBreach
  | engineLocationsInfo
  | simpleLocationInfo
  | gnssMeas
  deriving DecidableEq, Repr

/-- A mask is the set of its bits. -/
abbrev CallbacksMask := Finset CallbackBit

/-- `LOCATION_SESSON_ALL_INFO_MASK`: what is tied to a position session. -/
def locationSessionAllInfoMask : CallbacksMask :=
  {.distanceBasedTracking, .gnssLocationInfo, .gnssSv, .gnssNmea, .gnssData, .gnssMeas,
    .engineLocationsInfo, .simpleLocationInfo}

structure LocationOptions where
  minInterval : UInt32
  minDistance : UInt32
  mode : GnssSuplMode
  locReqEngTypeMask : UInt32
  deriving DecidableEq, Repr

/-- The options that the constructor without arguments makes. -/
def LocationOptions.init : LocationOptions := ⟨0, 0, .standalone, 0⟩

structure BatchingOptions where
  minInterval : UInt32
  minDistance : UInt32
  mode : GnssSuplMode
  batchingMode : BatchingMode
  deriving DecidableEq, Repr

def BatchingOptions.init : BatchingOptions := ⟨0, 0, .standalone, .routine⟩

/-- The interval that the engine supports for an interval, in milliseconds. -/
def getSupportedTbf (tbfMsec : UInt32) : UInt32 :=
  if tbfMsec < 200 then 100
  else if tbfMsec < 500 then 200
  else if tbfMsec < 1000 then 500
  else if tbfMsec > 0xffffffff - 999 then 0xffffffff / 1000 * 1000
  else (tbfMsec + 999) / 1000 * 1000

/-- The options with the interval that the engine supports. -/
def LocationOptions.supported (options : LocationOptions) : LocationOptions :=
  { options with minInterval := getSupportedTbf options.minInterval }

/-! ## The calls to `LocationAPI` -/

/-- A session of a `LocationAPI` object. -/
inductive Session
  | tracking (id : UInt32)
  | batching (id : UInt32)
  deriving DecidableEq, Repr

/-- The calls; those that start a session are followed by the id that they return. -/
inductive Call
  | startTracking (options : LocationOptions) (id : UInt32)
  | stopTracking (id : UInt32)
  | updateTrackingOptions (id : UInt32) (options : LocationOptions)
  | startBatching (options : BatchingOptions) (id : UInt32)
  | stopBatching (id : UInt32)
  | updateBatchingOptions (id : UInt32) (options : BatchingOptions)
  | updateCallbacks (mask : CallbacksMask)
  deriving DecidableEq

/-- A `LocationAPI` object: its sessions with their options, and the calls that it has not answered
yet, the oldest one first. -/
structure LocationAPI where
  tracking : List (UInt32 × LocationOptions)
  batching : List (UInt32 × BatchingOptions)
  awaiting : List (Session × ELocMsgID)
  deriving DecidableEq

namespace LocationAPI

def createInstance : LocationAPI := ⟨[], [], []⟩

variable (api : LocationAPI)

def perform : Call → LocationAPI
  | .startTracking options id =>
    if id = 0 then api
    else { api with
      tracking := api.tracking ++ [(id, options)]
      awaiting := api.awaiting ++ [(.tracking id, .startTracking)] }
  | .stopTracking id =>
    { api with
      tracking := api.tracking.filter (·.1 ≠ id)
      awaiting := api.awaiting ++ [(.tracking id, .stopTracking)] }
  | .updateTrackingOptions id options =>
    { api with
      tracking := api.tracking.map fun e ↦ if e.1 = id then (id, options) else e
      awaiting := api.awaiting ++ [(.tracking id, .updateTrackingOptions)] }
  | .startBatching options id =>
    if id = 0 then api
    else { api with
      batching := api.batching ++ [(id, options)]
      awaiting := api.awaiting ++ [(.batching id, .startBatching)] }
  | .stopBatching id =>
    { api with
      batching := api.batching.filter (·.1 ≠ id)
      awaiting := api.awaiting ++ [(.batching id, .stopBatching)] }
  | .updateBatchingOptions id options =>
    { api with
      batching := api.batching.map fun e ↦ if e.1 = id then (id, options) else e
      awaiting := api.awaiting ++ [(.batching id, .updateBatchingOptions)] }
  | .updateCallbacks _ => api

/-- The call at `i` can be answered: the answers of a session come in the order of its calls. -/
def answers (i : ℕ) : Option ELocMsgID :=
  api.awaiting[i]?.bind fun call ↦
    if call.1 ∈ (api.awaiting.take i).map Prod.fst then none else some call.2

def answer (i : ℕ) : LocationAPI := { api with awaiting := api.awaiting.eraseIdx i }

end LocationAPI

/-! ## The handler -/

structure LocHalDaemonClientHandler where
  mTracking : Bool
  mBatching : Bool
  mBatchingMode : BatchingMode
  mPendingMessages : List ELocMsgID
  mSessionId : UInt32
  mBatchingId : UInt32
  /-- whether there is a `LocationAPI` object -/
  mLocationApi : Bool
  mOptions : LocationOptions
  mBatchOptions : BatchingOptions
  mSubscriptionMask : CallbacksMask
  deriving DecidableEq

namespace LocHalDaemonClientHandler

/-- The constructor; only clients of the location client API have a `LocationAPI` object. -/
def new (locationApi : Bool) : LocHalDaemonClientHandler where
  mTracking := false
  mBatching := false
  mBatchingMode := .noAutoReport
  mPendingMessages := []
  mSessionId := 0
  mBatchingId := 0
  mLocationApi := locationApi
  mOptions := .init
  mBatchOptions := .init
  mSubscriptionMask := ∅

variable (h : LocHalDaemonClientHandler)

def push (id : ELocMsgID) : LocHalDaemonClientHandler :=
  { h with mPendingMessages := h.mPendingMessages ++ [id] }

def updateSubscription (mask : CallbacksMask) : LocHalDaemonClientHandler × List Call :=
  ({ h with mSubscriptionMask := mask }, if h.mLocationApi then [.updateCallbacks mask] else [])

def unsubscribeLocationSessionCb : LocHalDaemonClientHandler × List Call :=
  h.updateSubscription (h.mSubscriptionMask \ locationSessionAllInfoMask)

/-- The overload of `startTracking` without options, which goes on with those of before. -/
def restartTracking (id : UInt32) : LocHalDaemonClientHandler × List Call :=
  if h.mSessionId = 0 ∧ h.mLocationApi then
    ({ h with mSessionId := id }, [.startTracking h.mOptions id])
  else (h, [])

def startTracking (locOptions : LocationOptions) (id : UInt32) :
    LocHalDaemonClientHandler × List Call :=
  if h.mSessionId = 0 ∧ h.mLocationApi then
    ({ h with mOptions := locOptions.supported, mSessionId := id },
      [.startTracking locOptions.supported id])
  else (h, [])

def stopTracking : LocHalDaemonClientHandler × List Call :=
  if h.mSessionId ≠ 0 ∧ h.mLocationApi then
    ({ h with mSessionId := 0 }, [.stopTracking h.mSessionId])
  else (h, [])

/-- The options are saved as they came, with an interval that need not be supported. -/
def updateTrackingOptions (locOptions : LocationOptions) : LocHalDaemonClientHandler × List Call :=
  if h.mSessionId ≠ 0 ∧ h.mLocationApi then
    ({ h with mOptions := locOptions },
      [.updateTrackingOptions h.mSessionId locOptions.supported])
  else (h, [])

/-- The options that `startBatching` and `updateBatchingOptions` make of their arguments. -/
def batchOptions (minInterval minDistance : UInt32) (batchMode : BatchingMode) : BatchingOptions :=
  ⟨minInterval, minDistance, .standalone, batchMode⟩

def startBatching (options : BatchingOptions) (id : UInt32) :
    LocHalDaemonClientHandler × List Call :=
  if h.mBatchingId = 0 ∧ h.mLocationApi then
    ({ h with mBatchOptions := options, mBatchingId := id }, [.startBatching options id])
  else (h, [])

def stopBatching : LocHalDaemonClientHandler × List Call :=
  if h.mBatchingId ≠ 0 ∧ h.mLocationApi then
    ({ h with mBatchingId := 0 }, [.stopBatching h.mBatchingId])
  else (h, [])

def updateBatchingOptions (options : BatchingOptions) : LocHalDaemonClientHandler × List Call :=
  if h.mBatchingId ≠ 0 ∧ h.mLocationApi then
    ({ h with mBatchOptions := options }, [.updateBatchingOptions h.mBatchingId options])
  else (h, [])

end LocHalDaemonClientHandler

/-! ## The messages of a client -/

/-- A handler with its `LocationAPI` object. -/
structure Client where
  handler : LocHalDaemonClientHandler
  api : LocationAPI
  deriving DecidableEq

inductive Message
  | startTracking (locOptions : LocationOptions)
  | stopTracking
  | updateTrackingOptions (locOptions : LocationOptions)
  | updateSubscription (mask : CallbacksMask)
  | startBatching (intervalInMs distanceInMeters : UInt32) (batchingMode : BatchingMode)
  | stopBatching
  | updateBatchingOptions (intervalInMs distanceInMeters : UInt32) (batchingMode : BatchingMode)
  deriving DecidableEq

namespace Client

def new (locationApi : Bool) : Client := ⟨.new locationApi, .createInstance⟩

variable (c : Client)

/-- The calls of the handler reach the `LocationAPI` object. -/
def perform (r : LocHalDaemonClientHandler × List Call) : Client :=
  ⟨r.1, r.2.foldl LocationAPI.perform c.api⟩

def push (id : ELocMsgID) : Client := { c with handler := c.handler.push id }

def setTracking (tracking : Bool) : Client :=
  { c with handler := { c.handler with mTracking := tracking } }

def setBatching (batching : Bool) (mode : BatchingMode) : Client :=
  { c with handler := { c.handler with mBatching := batching, mBatchingMode := mode } }

section Messages

variable (mPositionMode : GnssSuplMode)

/-- Nothing is pushed if there is no session afterwards. -/
def startTracking (locOptions : LocationOptions) (id : UInt32) : Client :=
  let c := c.perform (c.handler.startTracking { locOptions with mode := mPositionMode } id)
  if c.handler.mSessionId = 0 then c else (c.setTracking true).push .startTracking

def stopTracking : Client :=
  let c := c.setTracking false
  let c := c.perform c.handler.unsubscribeLocationSessionCb
  let c := c.perform c.handler.stopTracking
  c.push .stopTracking

def updateTrackingOptions (locOptions : LocationOptions) : Client :=
  (c.perform (c.handler.updateTrackingOptions { locOptions with mode := mPositionMode })).push
    .updateTrackingOptions

def updateSubscription (mask : CallbacksMask) : Client :=
  c.perform (c.handler.updateSubscription mask)

def startBatching (intervalInMs distanceInMeters : UInt32) (batchingMode : BatchingMode)
    (id : UInt32) : Client :=
  let options := LocHalDaemonClientHandler.batchOptions intervalInMs distanceInMeters batchingMode
  let c := c.perform (c.handler.startBatching options id)
  if c.handler.mBatchingId = 0 then c
  else (c.setBatching true batchingMode).push .startBatching

/-- All subscriptions end here, not only those of the batching session. -/
def stopBatching : Client :=
  let c := c.setBatching false .noAutoReport
  let c := c.perform (c.handler.updateSubscription ∅)
  let c := c.perform c.handler.stopBatching
  c.push .stopBatching

def updateBatchingOptions (intervalInMs distanceInMeters : UInt32) (batchingMode : BatchingMode) :
    Client :=
  let options := LocHalDaemonClientHandler.batchOptions intervalInMs distanceInMeters batchingMode
  (c.perform (c.handler.updateBatchingOptions options)).push .updateBatchingOptions

/-- What the service does with a message of the client. `id` is what `LocationAPI` returns if a
session is started. -/
def handle (id : UInt32) : Message → Client
  | .startTracking locOptions => c.startTracking mPositionMode locOptions id
  | .stopTracking => c.stopTracking
  | .updateTrackingOptions locOptions => c.updateTrackingOptions mPositionMode locOptions
  | .updateSubscription mask => c.updateSubscription mask
  | .startBatching intervalInMs distanceInMeters batchingMode =>
    c.startBatching intervalInMs distanceInMeters batchingMode id
  | .stopBatching => c.stopBatching
  | .updateBatchingOptions intervalInMs distanceInMeters batchingMode =>
    c.updateBatchingOptions intervalInMs distanceInMeters batchingMode

end Messages

/-- The part of `suspendAllTrackingSessions` for the client. -/
def suspend : Client :=
  if c.handler.mTracking then (c.perform c.handler.stopTracking).push .stopTracking else c

/-- The part of `resumeAllTrackingSessions` for the client, and whether the loop goes on. -/
def resume (id : UInt32) : Client × Bool :=
  if c.handler.mTracking then
    let c := c.perform (c.handler.restartTracking id)
    if c.handler.mSessionId = 0 then (c, false) else (c.push .startTracking, true)
  else (c, true)

/-- The pop of `onResponseCb`, and the id that it finds. -/
def popPending : Client × Option ELocMsgID :=
  ({ c with handler := { c.handler with mPendingMessages := c.handler.mPendingMessages.tail } },
    c.handler.mPendingMessages.head?)

end Client

/-! ## What a message does

A message that finds nothing to do changes no session; it is pushed all the same, save for a start
that leaves no session behind.
-/

namespace LocHalDaemonClientHandler

variable (h : LocHalDaemonClientHandler)

/-- The handler has a tracking session that it can stop or update. -/
def HasTracking : Prop := h.mSessionId ≠ 0 ∧ h.mLocationApi = true

/-- The handler has a batching session that it can stop or update. -/
def HasBatching : Prop := h.mBatchingId ≠ 0 ∧ h.mLocationApi = true

instance : Decidable h.HasTracking := inferInstanceAs (Decidable (_ ∧ _))

instance : Decidable h.HasBatching := inferInstanceAs (Decidable (_ ∧ _))

end LocHalDaemonClientHandler

namespace Client

variable {c : Client} {mode : GnssSuplMode} {locOptions : LocationOptions} {id : UInt32}
  {interval distance : UInt32} {batchingMode : BatchingMode}

@[simp] theorem updateSubscription_eq (mask : CallbacksMask) :
    c.updateSubscription mask =
      { c with handler := { c.handler with mSubscriptionMask := mask } } := by
  rw [updateSubscription, perform, LocHalDaemonClientHandler.updateSubscription]
  split <;> rfl

theorem startTracking_of_running (h : c.handler.mSessionId ≠ 0) :
    c.startTracking mode locOptions id = (c.setTracking true).push .startTracking := by
  simp [startTracking, LocHalDaemonClientHandler.startTracking, perform, h]

theorem startTracking_of_started (h : c.handler.mSessionId = 0)
    (hapi : c.handler.mLocationApi = true) (hid : id ≠ 0) :
    c.startTracking mode locOptions id =
      let options := { locOptions with mode := mode }.supported
      ⟨{ c.handler with
          mOptions := options
          mSessionId := id
          mTracking := true
          mPendingMessages := c.handler.mPendingMessages ++ [.startTracking] },
        { c.api with
          tracking := c.api.tracking ++ [(id, options)]
          awaiting := c.api.awaiting ++ [(.tracking id, .startTracking)] }⟩ := by
  simp [startTracking, LocHalDaemonClientHandler.startTracking, perform, LocationAPI.perform,
    setTracking, push, LocHalDaemonClientHandler.push, h, hapi, hid]

/-- A session that cannot be started leaves nothing behind but its options. -/
theorem startTracking_of_failed (mode : GnssSuplMode) (locOptions : LocationOptions)
    (h : c.handler.mSessionId = 0) (hfail : c.handler.mLocationApi = false ∨ id = 0) : ∃ options,
    c.startTracking mode locOptions id =
      { c with handler := { c.handler with mOptions := options } } := by
  rcases Bool.eq_false_or_eq_true c.handler.mLocationApi with hapi | hapi
  · obtain rfl : id = 0 := hfail.resolve_left (by simp [hapi])
    refine ⟨{ locOptions with mode := mode }.supported, ?_⟩
    simp [startTracking, LocHalDaemonClientHandler.startTracking, perform, LocationAPI.perform, h,
      hapi]
  · have hnot : ¬(c.handler.mSessionId = 0 ∧ c.handler.mLocationApi = true) := by simp [hapi]
    refine ⟨c.handler.mOptions, ?_⟩
    rw [startTracking, LocHalDaemonClientHandler.startTracking, if_neg hnot]
    exact if_pos h

theorem stopTracking_of_running (h : c.handler.HasTracking) :
    c.stopTracking =
      ⟨{ c.handler with
          mTracking := false
          mSessionId := 0
          mSubscriptionMask := c.handler.mSubscriptionMask \ locationSessionAllInfoMask
          mPendingMessages := c.handler.mPendingMessages ++ [.stopTracking] },
        { c.api with
          tracking := c.api.tracking.filter (·.1 ≠ c.handler.mSessionId)
          awaiting := c.api.awaiting ++ [(.tracking c.handler.mSessionId, .stopTracking)] }⟩ := by
  simp [stopTracking, LocHalDaemonClientHandler.unsubscribeLocationSessionCb,
    LocHalDaemonClientHandler.updateSubscription, LocHalDaemonClientHandler.stopTracking, perform,
    LocationAPI.perform, setTracking, push, LocHalDaemonClientHandler.push, h.1, h.2]

theorem stopTracking_of_not_running (h : ¬c.handler.HasTracking) :
    c.stopTracking =
      { c with handler := { c.handler with
          mTracking := false
          mSubscriptionMask := c.handler.mSubscriptionMask \ locationSessionAllInfoMask
          mPendingMessages := c.handler.mPendingMessages ++ [.stopTracking] } } := by
  have hnot : ¬(c.handler.mSessionId ≠ 0 ∧ c.handler.mLocationApi = true) := h
  rcases Bool.eq_false_or_eq_true c.handler.mLocationApi with hapi | hapi
  · have hid : c.handler.mSessionId = 0 := by tauto
    simp [stopTracking, LocHalDaemonClientHandler.unsubscribeLocationSessionCb,
      LocHalDaemonClientHandler.updateSubscription, LocHalDaemonClientHandler.stopTracking, perform,
      LocationAPI.perform, setTracking, push, LocHalDaemonClientHandler.push, hid, hapi]
  · simp [stopTracking, LocHalDaemonClientHandler.unsubscribeLocationSessionCb,
      LocHalDaemonClientHandler.updateSubscription, LocHalDaemonClientHandler.stopTracking, perform,
      setTracking, push, LocHalDaemonClientHandler.push, hapi]

theorem updateTrackingOptions_of_running (h : c.handler.HasTracking) :
    c.updateTrackingOptions mode locOptions =
      let options := { locOptions with mode := mode }
      ⟨{ c.handler with
          mOptions := options
          mPendingMessages := c.handler.mPendingMessages ++ [.updateTrackingOptions] },
        { c.api with
          tracking := c.api.tracking.map fun e ↦
            if e.1 = c.handler.mSessionId then (c.handler.mSessionId, options.supported) else e
          awaiting := c.api.awaiting ++
            [(.tracking c.handler.mSessionId, .updateTrackingOptions)] }⟩ := by
  simp [updateTrackingOptions, LocHalDaemonClientHandler.updateTrackingOptions, perform,
    LocationAPI.perform, push, LocHalDaemonClientHandler.push, h.1, h.2]

theorem updateTrackingOptions_of_not_running (h : ¬c.handler.HasTracking) :
    c.updateTrackingOptions mode locOptions = c.push .updateTrackingOptions := by
  have hnot : ¬(c.handler.mSessionId ≠ 0 ∧ c.handler.mLocationApi = true) := h
  rw [updateTrackingOptions, LocHalDaemonClientHandler.updateTrackingOptions, if_neg hnot]
  rfl

theorem startBatching_of_running (h : c.handler.mBatchingId ≠ 0) :
    c.startBatching interval distance batchingMode id =
      (c.setBatching true batchingMode).push .startBatching := by
  simp [startBatching, LocHalDaemonClientHandler.startBatching, perform, h]

theorem startBatching_of_started (h : c.handler.mBatchingId = 0)
    (hapi : c.handler.mLocationApi = true) (hid : id ≠ 0) :
    c.startBatching interval distance batchingMode id =
      let options := LocHalDaemonClientHandler.batchOptions interval distance batchingMode
      ⟨{ c.handler with
          mBatchOptions := options
          mBatchingId := id
          mBatching := true
          mBatchingMode := batchingMode
          mPendingMessages := c.handler.mPendingMessages ++ [.startBatching] },
        { c.api with
          batching := c.api.batching ++ [(id, options)]
          awaiting := c.api.awaiting ++ [(.batching id, .startBatching)] }⟩ := by
  simp [startBatching, LocHalDaemonClientHandler.startBatching, perform, LocationAPI.perform,
    setBatching, push, LocHalDaemonClientHandler.push, h, hapi, hid]

theorem startBatching_of_failed (interval distance : UInt32) (batchingMode : BatchingMode)
    (h : c.handler.mBatchingId = 0) (hfail : c.handler.mLocationApi = false ∨ id = 0) : ∃ options,
    c.startBatching interval distance batchingMode id =
      { c with handler := { c.handler with mBatchOptions := options } } := by
  rcases Bool.eq_false_or_eq_true c.handler.mLocationApi with hapi | hapi
  · obtain rfl : id = 0 := hfail.resolve_left (by simp [hapi])
    refine ⟨LocHalDaemonClientHandler.batchOptions interval distance batchingMode, ?_⟩
    simp [startBatching, LocHalDaemonClientHandler.startBatching, perform, LocationAPI.perform, h,
      hapi]
  · have hnot : ¬(c.handler.mBatchingId = 0 ∧ c.handler.mLocationApi = true) := by simp [hapi]
    refine ⟨c.handler.mBatchOptions, ?_⟩
    rw [startBatching, LocHalDaemonClientHandler.startBatching, if_neg hnot]
    exact if_pos h

theorem stopBatching_of_running (h : c.handler.HasBatching) :
    c.stopBatching =
      ⟨{ c.handler with
          mBatching := false
          mBatchingMode := .noAutoReport
          mBatchingId := 0
          mSubscriptionMask := ∅
          mPendingMessages := c.handler.mPendingMessages ++ [.stopBatching] },
        { c.api with
          batching := c.api.batching.filter (·.1 ≠ c.handler.mBatchingId)
          awaiting := c.api.awaiting ++ [(.batching c.handler.mBatchingId, .stopBatching)] }⟩ := by
  simp [stopBatching, LocHalDaemonClientHandler.updateSubscription,
    LocHalDaemonClientHandler.stopBatching, perform, LocationAPI.perform, setBatching, push,
    LocHalDaemonClientHandler.push, h.1, h.2]

theorem stopBatching_of_not_running (h : ¬c.handler.HasBatching) :
    c.stopBatching =
      { c with handler := { c.handler with
          mBatching := false
          mBatchingMode := .noAutoReport
          mSubscriptionMask := ∅
          mPendingMessages := c.handler.mPendingMessages ++ [.stopBatching] } } := by
  have hnot : ¬(c.handler.mBatchingId ≠ 0 ∧ c.handler.mLocationApi = true) := h
  rcases Bool.eq_false_or_eq_true c.handler.mLocationApi with hapi | hapi
  · have hid : c.handler.mBatchingId = 0 := by tauto
    simp [stopBatching, LocHalDaemonClientHandler.updateSubscription,
      LocHalDaemonClientHandler.stopBatching, perform, LocationAPI.perform, setBatching, push,
      LocHalDaemonClientHandler.push, hid, hapi]
  · simp [stopBatching, LocHalDaemonClientHandler.updateSubscription,
      LocHalDaemonClientHandler.stopBatching, perform, setBatching, push,
      LocHalDaemonClientHandler.push, hapi]

theorem updateBatchingOptions_of_running (h : c.handler.HasBatching) :
    c.updateBatchingOptions interval distance batchingMode =
      let options := LocHalDaemonClientHandler.batchOptions interval distance batchingMode
      ⟨{ c.handler with
          mBatchOptions := options
          mPendingMessages := c.handler.mPendingMessages ++ [.updateBatchingOptions] },
        { c.api with
          batching := c.api.batching.map fun e ↦
            if e.1 = c.handler.mBatchingId then (c.handler.mBatchingId, options) else e
          awaiting := c.api.awaiting ++
            [(.batching c.handler.mBatchingId, .updateBatchingOptions)] }⟩ := by
  simp [updateBatchingOptions, LocHalDaemonClientHandler.updateBatchingOptions, perform,
    LocationAPI.perform, push, LocHalDaemonClientHandler.push, h.1, h.2]

theorem updateBatchingOptions_of_not_running (h : ¬c.handler.HasBatching) :
    c.updateBatchingOptions interval distance batchingMode = c.push .updateBatchingOptions := by
  have hnot : ¬(c.handler.mBatchingId ≠ 0 ∧ c.handler.mLocationApi = true) := h
  rw [updateBatchingOptions, LocHalDaemonClientHandler.updateBatchingOptions, if_neg hnot]
  rfl

theorem suspend_of_not_tracking (h : c.handler.mTracking = false) : c.suspend = c := by
  simp [suspend, h]

theorem suspend_of_running (h : c.handler.mTracking = true) (hrun : c.handler.HasTracking) :
    c.suspend =
      ⟨{ c.handler with
          mSessionId := 0
          mPendingMessages := c.handler.mPendingMessages ++ [.stopTracking] },
        { c.api with
          tracking := c.api.tracking.filter (·.1 ≠ c.handler.mSessionId)
          awaiting := c.api.awaiting ++ [(.tracking c.handler.mSessionId, .stopTracking)] }⟩ := by
  simp [suspend, LocHalDaemonClientHandler.stopTracking, perform, LocationAPI.perform, push,
    LocHalDaemonClientHandler.push, h, hrun.1, hrun.2]

theorem suspend_of_not_running (h : c.handler.mTracking = true) (hrun : ¬c.handler.HasTracking) :
    c.suspend = c.push .stopTracking := by
  have hnot : ¬(c.handler.mSessionId ≠ 0 ∧ c.handler.mLocationApi = true) := hrun
  rw [suspend, if_pos h, LocHalDaemonClientHandler.stopTracking, if_neg hnot]
  rfl

theorem resume_of_not_tracking (h : c.handler.mTracking = false) : c.resume id = (c, true) := by
  simp [resume, h]

theorem resume_of_running (h : c.handler.mTracking = true) (hrun : c.handler.mSessionId ≠ 0) :
    c.resume id = (c.push .startTracking, true) := by
  simp [resume, LocHalDaemonClientHandler.restartTracking, perform, h, hrun]

theorem resume_of_started (h : c.handler.mTracking = true) (h0 : c.handler.mSessionId = 0)
    (hapi : c.handler.mLocationApi = true) (hid : id ≠ 0) :
    c.resume id =
      (⟨{ c.handler with
          mSessionId := id
          mPendingMessages := c.handler.mPendingMessages ++ [.startTracking] },
        { c.api with
          tracking := c.api.tracking ++ [(id, c.handler.mOptions)]
          awaiting := c.api.awaiting ++ [(.tracking id, .startTracking)] }⟩, true) := by
  simp [resume, LocHalDaemonClientHandler.restartTracking, perform, LocationAPI.perform, push,
    LocHalDaemonClientHandler.push, h, h0, hapi, hid]

theorem resume_of_failed (h : c.handler.mTracking = true) (h0 : c.handler.mSessionId = 0)
    (hfail : c.handler.mLocationApi = false ∨ id = 0) : c.resume id = (c, false) := by
  rcases Bool.eq_false_or_eq_true c.handler.mLocationApi with hapi | hapi
  · obtain rfl : id = 0 := hfail.resolve_left (by simp [hapi])
    have hyes : c.handler.mSessionId = 0 ∧ c.handler.mLocationApi = true := ⟨h0, hapi⟩
    have hsame : { c.handler with mSessionId := 0 } = c.handler := by rw [← h0]
    rw [resume, if_pos h, LocHalDaemonClientHandler.restartTracking, if_pos hyes, hsame]
    exact if_pos h0
  · have hnot : ¬(c.handler.mSessionId = 0 ∧ c.handler.mLocationApi = true) := by simp [hapi]
    rw [resume, if_pos h, LocHalDaemonClientHandler.restartTracking, if_neg hnot]
    exact if_pos h0

end Client

end MataDevice.HalDaemon
