import MataDevice.HalDaemon.ClientHandler

/-!
# The location client API

A program uses `LocationClientApi` to start and stop a position session and a batching session with
the HAL daemon, and to subscribe to reports. Each call posts messages to the message task of
`LocationClientApiImpl`; their handlers keep a copy of the session and of the subscription mask, and
send requests to the daemon. A session with neither an interval nor a distance is a passive one: it
listens to what others cause, and the daemon does not get to know about it.

When the daemon has restarted it says so with a HAL ready message, and the client registers again. A
capabilities message completes the registration, but may also come at other times.

Of the callbacks only those are here that decide about the mask. The geofences of `addGeofences`
itself change neither sessions nor masks and are left out.
-/

namespace MataDevice.ClientApi

open MataDevice.HalDaemon (CallbackBit CallbacksMask LocationOptions BatchingOptions Message
  locationSessionAllInfoMask)
open MataDevice.Tracking (GnssSuplMode)
open MataDevice.Batching (BatchingMode)

/-! ## Messages -/

/-- The callbacks of `LocationCallbacks`, by whether they are set. -/
structure LocationCallbacks where
  trackingCb : Bool := false
  gnssLocationInfoCb : Bool := false
  engineLocationsInfoCb : Bool := false
  gnssSvCb : Bool := false
  gnssNmeaCb : Bool := false
  gnssDataCb : Bool := false
  gnssMeasurementsCb : Bool := false
  batchingCb : Bool := false
  batchingStatusCb : Bool := false
  geofenceBreachCb : Bool := false
  deriving DecidableEq, Repr

/-- What the daemon sends. -/
inductive Indication
  | capabilities
  | halReady
  deriving DecidableEq, Repr

/-- What the client sends to the daemon. -/
inductive ToDaemon
  | clientRegister
  | request (msg : Message)
  deriving DecidableEq

/-- The messages of the message task. -/
inductive LocMsg
  /-- Of the functions only `mLocationCb` is read by other messages. -/
  | updateCallbackFunctions (locationCb : Bool)
  | updateCallbacks (callbacks : LocationCallbacks)
  | startTracking (option : LocationOptions)
  | stopTracking
  | startBatching (batchOptions : BatchingOptions)
  | stopBatching
  | updateBatchingOptions (batchOptions : BatchingOptions)
  | updateLocationSystemInfoListener (sysInfoCb : Bool)
  | clientRegister
  | onReceive (ind : Indication)
  deriving DecidableEq

structure LocationClientApiImpl where
  mHalRegistered : Bool
  /-- whether the id is valid; it is that of the client then -/
  mSessionId : Bool
  mBatchingId : Bool
  mLocationOptions : LocationOptions
  mBatchingOptions : BatchingOptions
  mCallbacksMask : CallbacksMask
  mLocationCb : Bool
  mLocationSysInfoCb : Bool
  deriving DecidableEq

/-- Neither an interval nor a distance is set. -/
def isPassive (option : LocationOptions) : Bool := option.minInterval = 0 ∧ option.minDistance = 0

/-- The bit, if the callback is set. -/
def bitIf (set : Bool) (bit : CallbackBit) : CallbacksMask := if set then {bit} else ∅

namespace LocationClientApiImpl

def new : LocationClientApiImpl where
  mHalRegistered := false
  mSessionId := false
  mBatchingId := false
  mLocationOptions := .init
  mBatchingOptions := .init
  mCallbacksMask := ∅
  mLocationCb := false
  mLocationSysInfoCb := false

/-- The client, what it sends and what it posts to its own task. -/
abbrev Result := LocationClientApiImpl × List ToDaemon × List LocMsg

variable (c : LocationClientApiImpl)

/-! ## The handlers of the messages -/

def callBacksMask (callbacks : LocationCallbacks) : CallbacksMask :=
  bitIf callbacks.trackingCb .distanceBasedTracking ∪
  bitIf callbacks.gnssLocationInfoCb
    (if c.mLocationCb then .simpleLocationInfo else .gnssLocationInfo) ∪
  bitIf callbacks.engineLocationsInfoCb .engineLocationsInfo ∪
  bitIf callbacks.gnssSvCb .gnssSv ∪
  bitIf callbacks.gnssNmeaCb .gnssNmea ∪
  bitIf callbacks.gnssDataCb .gnssData ∪
  bitIf callbacks.gnssMeasurementsCb .gnssMeas ∪
  bitIf c.mLocationSysInfoCb .systemInfo ∪
  bitIf callbacks.batchingCb .batching ∪
  bitIf callbacks.batchingStatusCb .batchingStatus ∪
  bitIf callbacks.geofenceBreachCb .geofenceBreach

/-- Only a mask that has changed is sent. -/
def updateCallbacks (callbacks : LocationCallbacks) : Result :=
  let mask := c.callBacksMask callbacks
  if c.mCallbacksMask ≠ mask then
    ({ c with mCallbacksMask := mask },
      if c.mHalRegistered then [.request (.updateSubscription mask)] else [], [])
  else (c, [], [])

def updateTrackingOptionsSync (option : LocationOptions) : Result :=
  ({ c with mLocationOptions := option },
    [.request (
      if isPassive option ∧ ¬isPassive c.mLocationOptions then .stopTracking
      else if ¬isPassive option ∧ isPassive c.mLocationOptions then .startTracking option
      else .updateTrackingOptions option)], [])

def isOptionUpdated (option : LocationOptions) : Bool :=
  c.mLocationOptions.minInterval ≠ option.minInterval ∨
    c.mLocationOptions.minDistance ≠ option.minDistance ∨
    c.mLocationOptions.locReqEngTypeMask ≠ option.locReqEngTypeMask

/-- Options that are not updated are as passive as before. -/
theorem isPassive_of_not_isOptionUpdated {c : LocationClientApiImpl} {option : LocationOptions}
    (h : c.isOptionUpdated option = false) : isPassive option = isPassive c.mLocationOptions := by
  simp only [isOptionUpdated, ne_eq, decide_eq_false_iff_not, not_or, not_not] at h
  rw [isPassive, isPassive, h.1, h.2.1]

def startTracking (option : LocationOptions) : Result :=
  if ¬c.mHalRegistered then
    ({ c with mLocationOptions := option, mSessionId := true }, [], [])
  else if ¬c.mSessionId then
    ({ c with mLocationOptions := option, mSessionId := true },
      if isPassive option then [] else [.request (.startTracking option)], [])
  else if c.isOptionUpdated option then c.updateTrackingOptionsSync option
  else (c, [], [])

def stopTracking : Result :=
  if c.mSessionId then
    ({ c with
        mLocationOptions := { c.mLocationOptions with minInterval := 0, minDistance := 0 }
        mCallbacksMask := bitIf c.mLocationSysInfoCb .systemInfo
        mSessionId := false },
      if c.mHalRegistered ∧ ¬isPassive c.mLocationOptions then [.request .stopTracking] else [], [])
  else (c, [], [])

/-- `updateBatchingOptions` posts a message if the options are other ones. -/
def updateBatchingOptions (batchOptions : BatchingOptions) : List LocMsg :=
  if c.mBatchingOptions.minInterval ≠ batchOptions.minInterval ∨
      c.mBatchingOptions.minDistance ≠ batchOptions.minDistance ∨
      c.mBatchingOptions.batchingMode ≠ batchOptions.batchingMode then
    [.updateBatchingOptions batchOptions]
  else []

/-- The options are saved first. With a position session they are then compared with themselves. -/
def startBatching (batchOptions : BatchingOptions) : Result :=
  let c := { c with mBatchingOptions := batchOptions }
  if ¬c.mHalRegistered then (c, [], [])
  else if ¬c.mSessionId then
    ({ c with mBatchingId := true },
      [.request (.startBatching batchOptions.minInterval batchOptions.minDistance
        batchOptions.batchingMode)], [])
  else (c, [], c.updateBatchingOptions batchOptions)

def stopBatching : Result :=
  if c.mBatchingId then
    ({ c with mBatchingOptions := .init, mBatchingId := false }, [.request .stopBatching], [])
  else (c, [], [])

def procUpdateBatchingOptions (batchOptions : BatchingOptions) : Result :=
  ({ c with mBatchingOptions := batchOptions },
    [.request (.updateBatchingOptions batchOptions.minInterval batchOptions.minDistance
      batchOptions.batchingMode)], [])

def updateLocationSystemInfoListener (sysInfoCb : Bool) : Result :=
  let mask :=
    if sysInfoCb ∧ ¬c.mLocationSysInfoCb then c.mCallbacksMask ∪ {.systemInfo}
    else if ¬sysInfoCb ∧ c.mLocationSysInfoCb then c.mCallbacksMask \ {.systemInfo}
    else c.mCallbacksMask
  let needIpc := sysInfoCb ≠ c.mLocationSysInfoCb
  ({ c with mCallbacksMask := mask, mLocationSysInfoCb := sysInfoCb },
    if needIpc ∧ c.mHalRegistered then [.request (.updateSubscription mask)] else [], [])

/-- A session is forgotten, and a message posted that starts it again. -/
def capabilitesCallback : Result :=
  ({ c with mHalRegistered := true, mSessionId := false },
    if c.mCallbacksMask ≠ ∅ then [.request (.updateSubscription c.mCallbacksMask)] else [],
    if c.mSessionId then [.startTracking c.mLocationOptions] else [])

def onReceive : Indication → Result
  | .capabilities => c.capabilitesCallback
  | .halReady => ({ c with mHalRegistered := false }, [], [.clientRegister])

def proc : LocMsg → Result
  | .updateCallbackFunctions locationCb => ({ c with mLocationCb := locationCb }, [], [])
  | .updateCallbacks callbacks => c.updateCallbacks callbacks
  | .startTracking option => c.startTracking option
  | .stopTracking => c.stopTracking
  | .startBatching batchOptions => c.startBatching batchOptions
  | .stopBatching => c.stopBatching
  | .updateBatchingOptions batchOptions => c.procUpdateBatchingOptions batchOptions
  | .updateLocationSystemInfoListener sysInfoCb => c.updateLocationSystemInfoListener sysInfoCb
  | .clientRegister => (c, [.clientRegister], [])
  | .onReceive ind => c.onReceive ind

end LocationClientApiImpl

/-! ## The calls -/

/-- The report callbacks of the second and the third overload of `startPositionSession`, by whether
they are set; `location` is the one for the locations of GNSS or of the engines. -/
structure ReportCbs where
  location : Bool
  gnssSv : Bool
  gnssNmea : Bool
  gnssData : Bool
  gnssMeasurements : Bool
  deriving DecidableEq, Repr

inductive Call
  | startPositionSession (intervalInMs distanceInMeters : UInt32)
  | startGnssPositionSession (intervalInMs : UInt32) (cbs : ReportCbs)
  | startEnginePositionSession (intervalInMs locEngReqMask : UInt32) (cbs : ReportCbs)
  | stopPositionSession
  | startTripBatchingSession (minInterval tripDistance : UInt32)
  | startRoutineBatchingSession (minInterval minDistance : UInt32)
  | stopBatchingSession
  | addGeofences
  | updateLocationSystemInfoListener (sysInfoCb : Bool)
  deriving DecidableEq, Repr

/-- The messages of a call that starts a session. -/
def sessionMsgs (locationCb : Bool) (callbacks : LocationCallbacks) (start : LocMsg) :
    List LocMsg :=
  [.updateCallbackFunctions locationCb, .updateCallbacks callbacks, start]

/-- The callbacks of the reports besides the locations. -/
def ReportCbs.callbacks (cbs : ReportCbs) : LocationCallbacks where
  gnssSvCb := cbs.gnssSv
  gnssNmeaCb := cbs.gnssNmea
  gnssDataCb := cbs.gnssData
  gnssMeasurementsCb := cbs.gnssMeasurements

/-- What a call posts, one after the other. -/
def Call.msgs : Call → List LocMsg
  | .startPositionSession intervalInMs distanceInMeters =>
    sessionMsgs true
      { trackingCb := distanceInMeters ≠ 0, gnssLocationInfoCb := distanceInMeters = 0 }
      (.startTracking ⟨intervalInMs, distanceInMeters, .standalone, 0⟩)
  | .startGnssPositionSession intervalInMs cbs =>
    sessionMsgs false { cbs.callbacks with gnssLocationInfoCb := cbs.location }
      (.startTracking ⟨intervalInMs, 0, .standalone, 0⟩)
  | .startEnginePositionSession intervalInMs locEngReqMask cbs =>
    sessionMsgs false { cbs.callbacks with engineLocationsInfoCb := cbs.location }
      (.startTracking ⟨intervalInMs, 0, .standalone, locEngReqMask⟩)
  | .stopPositionSession => [.stopTracking]
  | .startTripBatchingSession minInterval tripDistance =>
    sessionMsgs false { batchingCb := true, batchingStatusCb := true }
      (.startBatching ⟨minInterval, tripDistance, .standalone, .trip⟩)
  | .startRoutineBatchingSession minInterval minDistance =>
    sessionMsgs false { batchingCb := true }
      (.startBatching ⟨minInterval, minDistance, .standalone, .routine⟩)
  | .stopBatchingSession => [.stopBatching]
  | .addGeofences =>
    [.updateCallbackFunctions false, .updateCallbacks { geofenceBreachCb := true }]
  | .updateLocationSystemInfoListener sysInfoCb => [.updateLocationSystemInfoListener sysInfoCb]

end MataDevice.ClientApi
