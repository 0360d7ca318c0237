import MataDevice.Lib.OrderedMap
import Mathlib.Tactic

/-!
# Tracking sessions of the GNSS adapter

Clients of `GnssAdapter` start, update and stop tracking sessions. The engine knows any number of
distance based sessions but only one time based one, so that the adapter runs it with options made
up from those of all time based sessions: it *multiplexes* them. Most requests to the engine,
`LocApi`, carry a `LocApiResponse`, a callback for the answer; the callbacks of the source are
lambdas, and here they are the constructors of `Callback` with what each lambda captures.

Every function returns the adapter it leaves behind and the calls it made, in their order. The
engine hub, the NMEA and DGNSS bookkeeping and the power state callback only look on and are left
out.
-/

namespace MataDevice.Tracking

/-! ## Data types -/

/-- A client, by its address. -/
abbrev LocationAPI := ℕ

inductive LocationError
  | success
  | generalFailure
  | callbackMissing
  | invalidParameter
  | idExists
  | idUnknown
  | alreadyStarted
  | geofencesAtMax
  | notSupported
  | timeout
  | gnssDisabled
  deriving DecidableEq, Repr

inductive EngineLockState
  | invalid
  | enabled
  | disabled
  deriving DecidableEq, Repr

inductive GnssSuplMode
  | standalone
  | msb
  | msa
  deriving DecidableEq, Repr

/-- The power modes from the most to the least demanding one, after the value for none. -/
inductive GnssPowerMode
  | invalid
  | m1
  | m2
  | m3
  | m4
  | m5
  deriving DecidableEq, Repr

def GnssPowerMode.val : GnssPowerMode → ℕ
  | .invalid => 0
  | .m1 => 1
  | .m2 => 2
  | .m3 => 3
  | .m4 => 4
  | .m5 => 5

theorem GnssPowerMode.val_injective : Function.Injective GnssPowerMode.val := by
  intro p q h
  cases p <;> cases q <;> first | rfl | cases h

instance : LinearOrder GnssPowerMode := LinearOrder.lift' _ GnssPowerMode.val_injective

structure LocationSessionKey where
  client : LocationAPI
  id : ℕ
  deriving DecidableEq, Repr

/-- The order of the session maps: by id, then by client. -/
def LocationSessionKey.rank (key : LocationSessionKey) : ℕ ×ₗ ℕ := toLex (key.id, key.client)

theorem LocationSessionKey.rank_injective : Function.Injective LocationSessionKey.rank := by
  rintro ⟨c, i⟩ ⟨c', i'⟩ h
  obtain ⟨rfl, rfl⟩ := Prod.mk.inj (congrArg ofLex h)
  rfl

instance : LinearOrder LocationSessionKey :=
  LinearOrder.lift' _ LocationSessionKey.rank_injective

structure TrackingOptions where
  size : ℕ
  minInterval : ℕ
  minDistance : ℕ
  mode : GnssSuplMode
  locReqEngTypeMask : ℕ
  powerMode : GnssPowerMode
  tbm : ℕ
  deriving DecidableEq, Repr

/-- Options after `memset`; a size of zero says that they have not been set yet. -/
def TrackingOptions.zero : TrackingOptions := ⟨0, 0, 0, .standalone, 0, .invalid, 0⟩

/-- `sizeof(TrackingOptions)`. -/
def sizeofTrackingOptions : ℕ := 28

def TrackingOptions.setLocationOptions (self options : TrackingOptions) : TrackingOptions :=
  { self with
    size := sizeofTrackingOptions
    minInterval := options.minInterval
    minDistance := options.minDistance
    mode := options.mode
    locReqEngTypeMask := options.locReqEngTypeMask }

def minTrackingInterval : ℕ := 100

def trackingTbmThresholdMillis : ℕ := 480000

/-- An interval below the smallest one is raised to it. -/
def TrackingOptions.raiseInterval (options : TrackingOptions) : TrackingOptions :=
  if options.minInterval < minTrackingInterval then
    { options with minInterval := minTrackingInterval }
  else options

/-- With too long a time between measurements M4 falls back to M2. -/
def TrackingOptions.fallBackToM2 (options : TrackingOptions) : TrackingOptions :=
  if options.powerMode = .m4 ∧ options.tbm > trackingTbmThresholdMillis then
    { options with powerMode := .m2 }
  else options

/-- Which callbacks a client has set, as far as tracking looks at them. -/
structure LocationCallbacks where
  responseCb : Bool
  trackingCb : Bool
  gnssLocationInfoCb : Bool
  engineLocationsInfoCb : Bool
  gnssMeasurementsCb : Bool
  gnssDataCb : Bool
  gnssSvCb : Bool
  gnssNmeaCb : Bool
  deriving DecidableEq, Repr

/-- What is done with the engine's answer to a request. -/
inductive Callback
  /-- of `MsgStartTracking`, after the start of a distance based session -/
  | startedDistance (key : LocationSessionKey)
  /-- of `startTimeBasedTracking` -/
  | startedTime (key : LocationSessionKey)
  /-- of `updateTracking` -/
  | updatedTime (key : LocationSessionKey) (oldOptions : TrackingOptions)
  /-- of `stopTracking` -/
  | stoppedTime (key : LocationSessionKey)
  /-- of `MsgUpdateTracking`, after the stop of a session that becomes time based -/
  | switchToTime (key : LocationSessionKey) (options : TrackingOptions)
  /-- of `MsgUpdateTracking`, after the stop of a session that is to be restarted -/
  | restartDistance (key : LocationSessionKey) (options : TrackingOptions)
  /-- of `MsgUpdateTracking`, after that restart -/
  | restartedDistance (key : LocationSessionKey) (options : TrackingOptions)
  /-- of `MsgStopTracking` -/
  | stoppedDistance (key : LocationSessionKey)
  /-- the empty lambda -/
  | ignore
  deriving DecidableEq, Repr

/-- The messages of the tracking commands and the engine's answers, which are messages too. -/
inductive LocMsg
  | startTracking (key : LocationSessionKey) (options : TrackingOptions)
  | updateTracking (key : LocationSessionKey) (options : TrackingOptions)
  | stopTracking (key : LocationSessionKey)
  | locApiResponse (callback : Callback) (err : LocationError)
  deriving DecidableEq, Repr

/-- Calls of the engine and of a client. -/
inductive Call
  | startTimeBasedTracking (options : TrackingOptions) (response : Option Callback)
  | stopFix (response : Option Callback)
  | startDistanceBasedTracking (sessionId : ℕ) (options : TrackingOptions)
    (response : Option Callback)
  | stopDistanceBasedTracking (sessionId : ℕ) (response : Option Callback)
  | responseCb (client : LocationAPI) (err : LocationError) (sessionId : ℕ)
  deriving DecidableEq, Repr

abbrev TrackingOptionsMap := OrderedMap LocationSessionKey TrackingOptions

structure GnssAdapter where
  mClientData : LocationAPI → Option LocationCallbacks
  mTimeBasedTrackingSessions : TrackingOptionsMap
  mDistanceBasedTrackingSessions : TrackingOptionsMap
  mPendingMsgs : List LocMsg
  mIsEngineCapabilitiesKnown : Bool
  mNHzNeeded : Bool
  mSPEAlreadyRunningAtHighestInterval : Bool
  /-- `ContextBase::isMessageSupported(LOC_API_ADAPTER_MESSAGE_DISTANCE_BASE_TRACKING)` -/
  distanceBaseTrackingSupported : Bool
  /-- `LocApiBase::mEngineLockState` -/
  mEngineLockState : EngineLockState

/-! ## The loops over the sessions -/

/-- The options of the first session with the smallest interval so far. -/
def keepShortest (acc options : TrackingOptions) : TrackingOptions :=
  if acc.size = 0 ∨ options.minInterval < acc.minInterval then options else acc

/-- The smallest power mode so far. -/
def keepSmallest (acc powerMode : GnssPowerMode) : GnssPowerMode :=
  if acc = .invalid ∨ powerMode < acc then powerMode else acc

/-- The options of the first session with the smallest power mode so far. -/
def keepHighestPower (acc options : TrackingOptions) : TrackingOptions :=
  if acc.size = 0 ∨ options.powerMode ≠ .invalid ∧ options.powerMode < acc.powerMode then options
  else acc

/-- One round of the loops of a start, an update and a stop. -/
def multiplexStep (acc : TrackingOptions × GnssPowerMode) (options : TrackingOptions) :
    TrackingOptions × GnssPowerMode :=
  (keepShortest acc.1 options, keepSmallest acc.2 options.powerMode)

def multiplex (sessions : List TrackingOptions) : TrackingOptions × GnssPowerMode :=
  sessions.foldl multiplexStep (TrackingOptions.zero, .invalid)

/-- How a start and an update lower the options of the other sessions to their own, and whether they
did. -/
def lower (options : TrackingOptions) (multiplexed : TrackingOptions × GnssPowerMode) :
    Bool × TrackingOptions :=
  let multiplexedOptions :=
    if options.minInterval < multiplexed.1.minInterval then
      { multiplexed.1 with minInterval := options.minInterval }
    else multiplexed.1
  (options.minInterval < multiplexed.1.minInterval ∨ options.powerMode < multiplexed.2,
    if options.powerMode < multiplexed.2 then
      { multiplexedOptions with powerMode := options.powerMode }
    else multiplexedOptions)

/-- One round of the loop of a restart. -/
def restartStep (acc : TrackingOptions × TrackingOptions) (options : TrackingOptions) :
    TrackingOptions × TrackingOptions :=
  (keepShortest acc.1 options, keepHighestPower acc.2 options)

namespace GnssAdapter

variable (a : GnssAdapter) (key : LocationSessionKey)

def reportResponse (err : LocationError) : List Call :=
  if (a.mClientData key.client).any LocationCallbacks.responseCb then
    [.responseCb key.client err key.id]
  else []

def isTimeBasedTrackingSession : Bool := (a.mTimeBasedTrackingSessions.find? key).isSome

def isDistanceBasedTrackingSession : Bool := (a.mDistanceBasedTrackingSessions.find? key).isSome

def hasCallbacksToStartTracking : Bool :=
  (a.mClientData key.client).any fun data ↦
    data.trackingCb || data.gnssLocationInfoCb || data.engineLocationsInfoCb ||
      data.gnssMeasurementsCb || data.gnssDataCb || data.gnssSvCb || data.gnssNmeaCb

def saveTrackingSession (options : TrackingOptions) : GnssAdapter :=
  if options.minDistance > 0 ∧ a.distanceBaseTrackingSupported then
    { a with
      mDistanceBasedTrackingSessions := a.mDistanceBasedTrackingSessions.insert key options }
  else { a with mTimeBasedTrackingSessions := a.mTimeBasedTrackingSessions.insert key options }

def eraseTrackingSession : GnssAdapter :=
  if a.isTimeBasedTrackingSession key then
    { a with mTimeBasedTrackingSessions := a.mTimeBasedTrackingSessions.erase key }
  else { a with mDistanceBasedTrackingSessions := a.mDistanceBasedTrackingSessions.erase key }

/-- Whether the engine already runs at the smallest interval, with the options to start it with. -/
def checkAndSetSPEToRunforNHz (out : TrackingOptions) : Bool × GnssAdapter × TrackingOptions :=
  if !a.mNHzNeeded then (false, a, out)
  else if a.mSPEAlreadyRunningAtHighestInterval then (true, a, out)
  else if out.minInterval > minTrackingInterval then
    (false, { a with mSPEAlreadyRunningAtHighestInterval := true },
      { out with minInterval := minTrackingInterval })
  else (false, a, out)

/-! ## Time based sessions -/

/-- `startTimeBasedTracking` and `updateTracking`, which differ in their callbacks. -/
def runTimeBasedTracking (options : TrackingOptions) (callback : Callback) :
    GnssAdapter × List Call :=
  let (isRunning, a, tempOptions) := a.checkAndSetSPEToRunforNHz options
  if !isRunning then (a, [.startTimeBasedTracking tempOptions (some callback)])
  else (a, a.reportResponse key .success)

def startTimeBasedTracking (options : TrackingOptions) : GnssAdapter × List Call :=
  a.runTimeBasedTracking key options (.startedTime key)

def updateTracking (updatedOptions oldOptions : TrackingOptions) : GnssAdapter × List Call :=
  a.runTimeBasedTracking key updatedOptions (.updatedTime key oldOptions)

def stopTracking : GnssAdapter × List Call :=
  ({ a with mSPEAlreadyRunningAtHighestInterval := false }, [.stopFix (some (.stoppedTime key))])

/-- The first component says whether the client is to be answered at once. -/
def startTimeBasedTrackingMultiplex (options : TrackingOptions) : Bool × GnssAdapter × List Call :=
  if a.mTimeBasedTrackingSessions.isEmpty then (false, a.startTimeBasedTracking key options)
  else
    let (updateOptions, multiplexedOptions) :=
      lower options (multiplex a.mTimeBasedTrackingSessions.values)
    if updateOptions then (false, a.startTimeBasedTracking key multiplexedOptions)
    else (true, a, [])

/-- The sessions other than `key`, which is not looked up when it is skipped. -/
def otherSessions : List TrackingOptions := (a.mTimeBasedTrackingSessions.erase key).values

def updateTrackingMultiplex (options : TrackingOptions) : Bool × GnssAdapter × List Call :=
  match a.mTimeBasedTrackingSessions.find? key with
  | none => (true, a, [])
  | some oldOptions =>
    if oldOptions.minInterval ≠ options.minInterval ∨ oldOptions.powerMode ≠ options.powerMode then
      let (updateOptions, multiplexedOptions) := lower options (multiplex (a.otherSessions key))
      if a.mTimeBasedTrackingSessions.size = 1 then
        (false, a.updateTracking key options oldOptions)
      else if updateOptions then (false, a.updateTracking key multiplexedOptions oldOptions)
      else (true, a, [])
    else (true, a, [])

def stopTimeBasedTrackingMultiplex : Bool × GnssAdapter × List Call :=
  if a.mTimeBasedTrackingSessions.size = 1 then (false, a.stopTracking key)
  else
    match a.mTimeBasedTrackingSessions.find? key with
    | none => (true, a, [])
    | some options =>
      let (multiplexedOptions, multiplexedPowerMode) := multiplex (a.otherSessions key)
      if options.minInterval < multiplexedOptions.minInterval ∨
          options.powerMode < multiplexedPowerMode then
        (false, a.startTimeBasedTracking key
          { multiplexedOptions with powerMode := multiplexedPowerMode })
      else (true, a, [])

/-- What follows a multiplexing: the session is saved or erased, and the client is answered if there
is no answer of the engine to wait for. -/
def thenReport (multiplexed : Bool × GnssAdapter × List Call) (edit : GnssAdapter → GnssAdapter) :
    GnssAdapter × List Call :=
  let (reportToClientWithNoWait, a, calls) := multiplexed
  let a := edit a
  (a, calls ++ if reportToClientWithNoWait then a.reportResponse key .success else [])

/-! ## The messages -/

/-- Keep a message until the engine's capabilities are known. -/
def postpone (msg : LocMsg) : GnssAdapter × List Call :=
  ({ a with mPendingMsgs := a.mPendingMsgs ++ [msg] }, [])

/-- Start a time based session, or turn a session into one. -/
def startTimeBasedSession (options : TrackingOptions) : GnssAdapter × List Call :=
  thenReport key (a.startTimeBasedTrackingMultiplex key options) (·.saveTrackingSession key options)

/-- `MsgStartTracking::proc`. An error of the first two checks is not reported. -/
def startTrackingProc (options : TrackingOptions) : GnssAdapter × List Call :=
  if !a.mIsEngineCapabilitiesKnown ∧ options.minDistance > 0 then
    a.postpone (.startTracking key options)
  else if !a.hasCallbacksToStartTracking key then (a, [])
  else if options.size = 0 then (a, [])
  else
    let options := options.raiseInterval
    if options.minDistance > 0 ∧ a.distanceBaseTrackingSupported then
      (a.saveTrackingSession key options,
        [.startDistanceBasedTracking key.id options (some (.startedDistance key))])
    else a.startTimeBasedSession key options.fallBackToM2

/-- A time based session becomes distance based. -/
def switchToDistance (options : TrackingOptions) : GnssAdapter × List Call :=
  let (a, calls) :=
    thenReport key (a.stopTimeBasedTrackingMultiplex key) (·.eraseTrackingSession key)
  (a.saveTrackingSession key options,
    calls ++ [.startDistanceBasedTracking key.id options (some .ignore)])

/-- `MsgUpdateTracking::proc`. -/
def updateTrackingProc (options : TrackingOptions) : GnssAdapter × List Call :=
  if !a.mIsEngineCapabilitiesKnown ∧ options.minDistance > 0 then
    a.postpone (.updateTracking key options)
  else
    let isTimeBased := a.isTimeBasedTrackingSession key
    let isDistanceBased := a.isDistanceBasedTrackingSession key
    if !isTimeBased ∧ !isDistanceBased then (a, a.reportResponse key .idUnknown)
    else if options.size = 0 then (a, a.reportResponse key .invalidParameter)
    else
      let options := options.fallBackToM2.raiseInterval
      if isTimeBased ∧ options.minDistance > 0 then a.switchToDistance key options
      else if isDistanceBased ∧ options.minDistance = 0 then
        (a.eraseTrackingSession key,
          [.stopDistanceBasedTracking key.id (some (.switchToTime key options))])
      else if isTimeBased then
        thenReport key (a.updateTrackingMultiplex key options)
          (·.saveTrackingSession key options)
      else (a, [.stopDistanceBasedTracking key.id (some (.restartDistance key options))])

/-- `MsgStopTracking::proc`. -/
def stopTrackingProc : GnssAdapter × List Call :=
  if a.isTimeBasedTrackingSession key then
    thenReport key (a.stopTimeBasedTrackingMultiplex key) (·.eraseTrackingSession key)
  else if a.isDistanceBasedTrackingSession key then
    (a, [.stopDistanceBasedTracking key.id (some (.stoppedDistance key))])
  else (a, a.reportResponse key .idUnknown)

/-- `LocApiResponse::proc`, the lambdas. -/
def locApiResponseProc (err : LocationError) : Callback → GnssAdapter × List Call
  | .startedDistance key | .startedTime key =>
    (if a.mEngineLockState = .enabled ∧ err ≠ .success then a.eraseTrackingSession key else a,
      a.reportResponse key err)
  | .updatedTime key oldOptions =>
    -- restore the old options
    (if a.mEngineLockState = .enabled ∧ err ≠ .success then a.saveTrackingSession key oldOptions
      else a, a.reportResponse key err)
  | .stoppedTime key => (a, a.reportResponse key err)
  | .switchToTime key options => a.startTimeBasedSession key options
  | .restartDistance key options =>
    if err = .success then
      (a, [.startDistanceBasedTracking key.id options (some (.restartedDistance key options))])
    else (a, [])
  | .restartedDistance key options =>
    (if a.mEngineLockState = .disabled ∨ err = .success then a.saveTrackingSession key options
      else a, a.reportResponse key err)
  | .stoppedDistance key =>
    (if a.mEngineLockState = .disabled ∨ err = .success then a.eraseTrackingSession key else a,
      a.reportResponse key err)
  | .ignore => (a, [])

def proc : LocMsg → GnssAdapter × List Call
  | .startTracking key options => a.startTrackingProc key options
  | .updateTracking key options => a.updateTrackingProc key options
  | .stopTracking key => a.stopTrackingProc key
  | .locApiResponse callback err => a.locApiResponseProc err callback

/-! ## Restart -/

def checkAndRestartTimeBasedSession : GnssAdapter × List Call :=
  if !a.mTimeBasedTrackingSessions.isEmpty then
    let (smallestIntervalOptions, highestPowerTrackingOptions) :=
      a.mTimeBasedTrackingSessions.values.foldl restartStep
        (TrackingOptions.zero, TrackingOptions.zero)
    let (isRunning, a, options) := a.checkAndSetSPEToRunforNHz
      (highestPowerTrackingOptions.setLocationOptions smallestIntervalOptions)
    (a, if !isRunning then [.startTimeBasedTracking options none] else [])
  else (a, [])

def restartSessions : GnssAdapter × List Call :=
  let (a, calls) :=
    { a with mSPEAlreadyRunningAtHighestInterval := false }.checkAndRestartTimeBasedSession
  (a, calls ++ a.mDistanceBasedTrackingSessions.entries.map fun e ↦
    .startDistanceBasedTracking e.1.id e.2 (some .ignore))

end GnssAdapter

end MataDevice.Tracking
