import MataDevice.Tracking.Adapter

/-!
# Batching sessions of the batching adapter

Clients of `BatchingAdapter` start, update and stop batching sessions. Routine sessions and sessions
without automatic reports are known to the engine by their ids. Of outdoor trips the engine knows
one batch only, with a distance after which it reports and an interval between fixes, so that the
adapter *multiplexes* the trip sessions: it keeps a status for each of them, runs the batch with the
smallest distance and the smallest interval, and restarts it when a trip that starts, stops or is
completed makes others necessary.

The callbacks of requests to the engine are lambdas in the source; here they are the constructors of
`Callback` with what each lambda captures. Every function returns the adapter it leaves behind and
the calls it made, in their order.
-/

namespace MataDevice.Batching

open MataDevice.Tracking (LocationAPI LocationError EngineLockState GnssSuplMode LocationSessionKey)

/-! ## Data types -/

inductive BatchingMode
  | routine
  | trip
  | noAutoReport
  /-- A value of the C type that the enumeration does not name. -/
  | other (value : ℕ)
  deriving DecidableEq, Repr

structure BatchingOptions where
  size : ℕ
  minInterval : UInt32
  minDistance : UInt32
  mode : GnssSuplMode
  locReqEngTypeMask : ℕ
  batchingMode : BatchingMode
  deriving DecidableEq, Repr

/-- The options that the constructor without arguments makes. -/
def BatchingOptions.init : BatchingOptions := ⟨0, 0, 0, .standalone, 0, .routine⟩

structure TripSessionStatus where
  accumulatedDistanceOngoingBatch : UInt32
  accumulatedDistanceThisTrip : UInt32
  accumulatedDistanceOnTripRestart : UInt32
  tripDistance : UInt32
  tripTBFInterval : UInt32
  deriving DecidableEq, Repr

namespace TripSessionStatus

variable (status : TripSessionStatus)

/-- The fields relative to a batch that begins anew. -/
def rebase : TripSessionStatus :=
  { status with
    accumulatedDistanceOngoingBatch := 0
    accumulatedDistanceOnTripRestart := status.accumulatedDistanceThisTrip }

/-- The distance of the trip, when `accumulatedDistance` of the ongoing batch is covered. -/
def accumulate (accumulatedDistance : UInt32) : TripSessionStatus :=
  { status with
    accumulatedDistanceThisTrip := status.accumulatedDistanceOnTripRestart +
      (accumulatedDistance - status.accumulatedDistanceOngoingBatch) }

def completed : Bool := status.tripDistance ≤ status.accumulatedDistanceThisTrip

end TripSessionStatus

/-- Which callbacks a client has set, as far as batching looks at them. -/
structure LocationCallbacks where
  responseCb : Bool
  batchingCb : Bool
  batchingStatusCb : Bool
  deriving DecidableEq, Repr

/-- What is done with the engine's answer to a request. -/
inductive Callback
  /-- of `startBatching`; `pendingMsg` says whether the message is kept for a GNSS that
  is disabled -/
  | startedBatching (key : LocationSessionKey) (options : BatchingOptions) (pendingMsg : Bool)
  /-- of `stopBatching` -/
  | stoppedBatching (key : LocationSessionKey) (flpOptions : BatchingOptions) (restartNeeded : Bool)
    (batchOptions : BatchingOptions)
  /-- of `MsgGetBatchedLocations` -/
  | gotBatchedLocations (key : LocationSessionKey)
  /-- of `startTripBatchingMultiplex`, after the start of the first trip -/
  | startedTrip (key : LocationSessionKey) (options : BatchingOptions)
  /-- of `startTripBatchingMultiplex`, with the distance of the ongoing batch -/
  | queriedForStart (key : LocationSessionKey) (options : BatchingOptions)
  /-- of `startTripBatchingMultiplex`, after the restart of the ongoing batch -/
  | restartedForStart (key : LocationSessionKey)
  /-- of `stopTripBatchingMultiplex`, after the stop of the last trip -/
  | stoppedTrip (key : LocationSessionKey) (restartNeeded : Bool) (batchOptions : BatchingOptions)
  /-- of `restartTripBatching`, with the distance of the ongoing batch -/
  | queriedForRestart (queryAccumulatedDistance : Bool) (minRemainingDistance : UInt32)
    (minTBFInterval : UInt32) (accDist : UInt32)
  /-- of `restartTripBatching`, after the restart of the ongoing batch -/
  | restartedTrips (accumulatedDistance : UInt32) (ongoingTripDistance : UInt32)
    (ongoingTripInterval : UInt32)
  /-- the empty lambda -/
  | ignore
  deriving DecidableEq, Repr

/-- The messages of the commands and events, and the engine's answers, which are messages too. -/
inductive LocMsg
  | startBatching (key : LocationSessionKey) (options : BatchingOptions)
  | updateBatching (key : LocationSessionKey) (options : BatchingOptions)
  | stopBatching (key : LocationSessionKey)
  | getBatchedLocations (key : LocationSessionKey) (count : ℕ)
  | reportCompletedTrips (accumulatedDistance : UInt32)
  /-- `accumulatedDistance` is the data of an answer to `queryAccumulatedTripDistance`. -/
  | locApiResponse (callback : Callback) (err : LocationError) (accumulatedDistance : UInt32)
  deriving DecidableEq, Repr

/-- Calls of the engine and of a client. -/
inductive Call
  | startBatching (sessionId : ℕ) (options : BatchingOptions) (accuracy timeout : UInt32)
    (response : Callback)
  | stopBatching (sessionId : ℕ) (response : Callback)
  | getBatchedLocations (count : ℕ) (response : Callback)
  | getBatchedTripLocations (count : ℕ) (accumulatedDistance : UInt32) (response : Callback)
  | startOutdoorTripBatching (tripDistance tripTbf timeout : UInt32) (response : Callback)
  | reStartOutdoorTripBatching (ongoingTripDistance ongoingTripInterval timeout : UInt32)
    (response : Callback)
  | stopOutdoorTripBatching (deallocBatchBuffer : Bool) (response : Callback)
  | queryAccumulatedTripDistance (response : Callback)
  | responseCb (client : LocationAPI) (err : LocationError) (sessionId : ℕ)
  | tripCompletedCb (client : LocationAPI) (completedTripsList : List ℕ)
  deriving DecidableEq, Repr

structure BatchingAdapter where
  mClientData : OrderedMap LocationAPI LocationCallbacks
  mBatchingSessions : OrderedMap LocationSessionKey BatchingOptions
  mTripSessions : OrderedMap ℕ TripSessionStatus
  mOngoingTripDistance : UInt32
  mOngoingTripTBFInterval : UInt32
  mTripWithOngoingTBFDropped : Bool
  mTripWithOngoingTripDistanceDropped : Bool
  mBatchingTimeout : UInt32
  mBatchingAccuracy : UInt32
  mPendingMsgs : List LocMsg
  mPendingGnssEnabledMsgs : List LocMsg
  mIsEngineCapabilitiesKnown : Bool
  /-- `LOC_API_ADAPTER_BIT_BATCH_FULL` of `mEvtMask` -/
  batchFullBit : Bool
  /-- `ContextBase::isMessageSupported(LOC_API_ADAPTER_MESSAGE_DISTANCE_BASE_LOCATION_BATCHING)` -/
  distanceBaseLocationBatchingSupported : Bool
  /-- `LocApiBase::mEngineLockState` -/
  mEngineLockState : EngineLockState

namespace BatchingAdapter

variable (a : BatchingAdapter) (key : LocationSessionKey)

/-! ## Sessions -/

def hasBatchingCallback (client : LocationAPI) : Bool :=
  (a.mClientData.find? client).any LocationCallbacks.batchingCb

def isBatchingSession : Bool := (a.mBatchingSessions.find? key).isSome

def isTripSession (sessionId : ℕ) : Bool := (a.mTripSessions.find? sessionId).isSome

def saveBatchingSession (options : BatchingOptions) : BatchingAdapter :=
  { a with mBatchingSessions := a.mBatchingSessions.insert key options }

def eraseBatchingSession : BatchingAdapter :=
  { a with mBatchingSessions := a.mBatchingSessions.erase key }

def reportResponse (err : LocationError) : List Call :=
  if (a.mClientData.find? key.client).any LocationCallbacks.responseCb then
    [.responseCb key.client err key.id]
  else []

/-- `reportBatchStatusChange` with `BATCHING_STATUS_TRIP_COMPLETED`. -/
def reportBatchStatusChange (completedTripsList : List ℕ) : List Call :=
  a.mClientData.entries.filterMap fun e ↦
    if e.2.batchingStatusCb then some (.tripCompletedCb e.1 completedTripsList) else none

def autoReportBatchingSessionsCount : ℕ :=
  a.mBatchingSessions.values.countP (fun o ↦ o.batchingMode ≠ .noAutoReport) + a.mTripSessions.size

/-- `updateEvtMask` for `LOC_API_ADAPTER_BIT_BATCH_FULL`. -/
def updateEvtMask (enabled : Bool) : BatchingAdapter := { a with batchFullBit := enabled }

/-! ## Starting -/

def startBatching (options : BatchingOptions) (pendingMsg : Bool) : BatchingAdapter × List Call :=
  let a :=
    if options.batchingMode ≠ .noAutoReport ∧ a.autoReportBatchingSessionsCount = 0 then
      a.updateEvtMask true
    else a
  -- assume start will be OK, remove session if not
  (a.saveBatchingSession key options,
    [.startBatching key.id options a.mBatchingAccuracy a.mBatchingTimeout
      (.startedBatching key options pendingMsg)])

/-- The status of a trip that begins while `accumulatedDistance` of the ongoing batch is covered. -/
def newTripSession (options : BatchingOptions) (accumulatedDistance : UInt32) :
    TripSessionStatus :=
  ⟨accumulatedDistance, 0, 0, options.minDistance, options.minInterval⟩

def startTripBatchingMultiplex (options : BatchingOptions) : BatchingAdapter × List Call :=
  if a.mTripSessions.size = 0 then
    let a := if a.autoReportBatchingSessionsCount = 0 then a.updateEvtMask true else a
    let a := a.saveBatchingSession key options
    ({ a with mTripSessions := a.mTripSessions.insert key.id (newTripSession options 0) },
      [.startOutdoorTripBatching options.minDistance options.minInterval a.mBatchingTimeout
        (.startedTrip key options)])
  else (a, [.queryAccumulatedTripDistance (.queriedForStart key options)])

/-- What both stops do for an update, once the session has been stopped. -/
def restart (options : BatchingOptions) : BatchingAdapter × List Call :=
  match options.batchingMode with
  | .routine | .noAutoReport => a.startBatching key options false
  | .trip => a.startTripBatchingMultiplex key options
  | .other _ => (a, [])

/-! ## The ongoing batch -/

/-- One round of the loop of `restartTripBatching`. -/
def minRemaining (acc : UInt32 × UInt32) (status : TripSessionStatus) : UInt32 × UInt32 :=
  let remaining := status.tripDistance - status.accumulatedDistanceThisTrip
  (if acc.1 = 0 ∨ acc.1 > remaining then remaining else acc.1,
    if acc.2 = 0 ∨ acc.2 > status.tripTBFInterval then status.tripTBFInterval else acc.2)

def restartTripBatching (queryAccumulatedDistance : Bool) (accDist : UInt32) :
    BatchingAdapter × List Call :=
  if a.mTripSessions.size = 0 then
    let a := { a with mOngoingTripDistance := 0, mOngoingTripTBFInterval := 0 }
    (if a.autoReportBatchingSessionsCount = 0 then a.updateEvtMask false else a,
      [.stopOutdoorTripBatching true .ignore])
  else
    let min := a.mTripSessions.values.foldl minRemaining (0, 0)
    (a, [.queryAccumulatedTripDistance
      (.queriedForRestart queryAccumulatedDistance min.1 min.2 accDist)])

/-- The distance and the interval of the batch that a trip started with `options` needs, if they
are others than those of the ongoing batch. -/
def batchForStart (options : BatchingOptions) (err : LocationError) (accumulatedDistance : UInt32) :
    Option (UInt32 × UInt32) :=
  let shorter : Bool := a.mOngoingTripTBFInterval > options.minInterval
  let ongoingTripInterval := if shorter then options.minInterval else a.mOngoingTripTBFInterval
  if err ≠ .success then
    -- unable to query the distance, assume that none of the ongoing batch is covered
    if options.minDistance < a.mOngoingTripDistance then
      some (options.minDistance, ongoingTripInterval)
    else if shorter then some (a.mOngoingTripDistance, ongoingTripInterval)
    else none
  else
    let remaining := a.mOngoingTripDistance - accumulatedDistance
    if options.minDistance < remaining then some (options.minDistance, ongoingTripInterval)
    else if shorter then some (remaining, ongoingTripInterval)
    else none

/-- The callback of `startTripBatchingMultiplex` for the distance of the ongoing batch. -/
def queriedForStart (options : BatchingOptions) (err : LocationError)
    (accumulatedDistance : UInt32) : BatchingAdapter × List Call :=
  let batch := a.batchForStart options err accumulatedDistance
  let a :=
    if err = .success then
      { a with mTripSessions :=
          a.mTripSessions.insert key.id (newTripSession options accumulatedDistance) }
    else a
  match batch with
  | some (ongoingTripDistance, ongoingTripInterval) =>
    ({ a with
        mOngoingTripDistance := ongoingTripDistance
        mOngoingTripTBFInterval := ongoingTripInterval
        mTripSessions := a.mTripSessions.mapValues TripSessionStatus.rebase },
      [.reStartOutdoorTripBatching ongoingTripDistance ongoingTripInterval a.mBatchingTimeout
        (.restartedForStart key)])
  | none => (a, a.reportResponse key .success)

/-- The distance and the interval of the batch that is left after a trip has gone, if they are
others than those of the ongoing batch. -/
def batchForRestart (minRemainingDistance minTBFInterval accumulatedDistance : UInt32) :
    Option (UInt32 × UInt32) :=
  let remaining := a.mOngoingTripDistance - accumulatedDistance
  let shorter : Bool :=
    if !a.mTripWithOngoingTripDistanceDropped ∧ remaining ≠ 0 then minRemainingDistance < remaining
    else minRemainingDistance ≠ 0
  let denser : Bool := minTBFInterval < a.mOngoingTripTBFInterval ∨
    minTBFInterval ≠ a.mOngoingTripTBFInterval ∧ a.mTripWithOngoingTBFDropped
  if shorter ∨ denser then
    some (if shorter then minRemainingDistance else a.mOngoingTripDistance,
      if denser then minTBFInterval else a.mOngoingTripTBFInterval)
  else none

/-- The callback of `restartTripBatching` for the distance of the ongoing batch. -/
def queriedForRestart (minRemainingDistance minTBFInterval accumulatedDistance : UInt32) :
    BatchingAdapter × List Call :=
  match a.batchForRestart minRemainingDistance minTBFInterval accumulatedDistance with
  | some (ongoingTripDistance, ongoingTripInterval) =>
    (a, [.reStartOutdoorTripBatching ongoingTripDistance ongoingTripInterval a.mBatchingTimeout
      (.restartedTrips accumulatedDistance ongoingTripDistance ongoingTripInterval)])
  | none => (a, [])

/-- The callback of `restartTripBatching` for the restart. -/
def restartedTrips (err : LocationError)
    (accumulatedDistance ongoingTripDistance ongoingTripInterval : UInt32) : BatchingAdapter :=
  if err = .success then
    { a with
      mTripSessions := a.mTripSessions.mapValues fun status ↦
        (status.accumulate accumulatedDistance).rebase
      mOngoingTripDistance := ongoingTripDistance
      mOngoingTripTBFInterval := ongoingTripInterval }
  else a

/-! ## Stopping -/

def stopBatching (restartNeeded : Bool) (batchOptions : BatchingOptions) :
    BatchingAdapter × List Call :=
  match a.mBatchingSessions.find? key with
  | none => (a, [])
  | some flpOptions =>
    -- assume stop will be OK, restore session if not
    (a.eraseBatchingSession key,
      [.stopBatching key.id (.stoppedBatching key flpOptions restartNeeded batchOptions)])

/-- A trip goes: what is noted of it. -/
def noteDropped (status : TripSessionStatus) : BatchingAdapter :=
  { a with
    mTripWithOngoingTBFDropped :=
      a.mTripWithOngoingTBFDropped || status.tripTBFInterval == a.mOngoingTripTBFInterval
    mTripWithOngoingTripDistanceDropped :=
      a.mTripWithOngoingTripDistanceDropped || status.tripDistance == a.mOngoingTripDistance }

/-- `stopTripBatchingMultiplexCommon`. The status of the trip is read through the iterator that
`find` returns, whether it has found the trip or not; there is no result without the trip. -/
def stopTripBatchingMultiplexCommon (err : LocationError) (restartNeeded : Bool)
    (batchOptions : BatchingOptions) : Option (BatchingAdapter × List Call) :=
  match a.mTripSessions.find? key.id with
  | none => none
  | some tripSess =>
    let a := a.noteDropped tripSess
    let a := { a with mTripSessions := a.mTripSessions.erase key.id }
    let left :=
      if a.mTripSessions.size = 0 then
        ({ a with mOngoingTripDistance := 0, mOngoingTripTBFInterval := 0 }, [])
      else a.restartTripBatching true 0
    let restarted :=
      if restartNeeded then (left.1.eraseBatchingSession key).restart key batchOptions
      else (left.1, [])
    some (restarted.1, left.2 ++ restarted.2 ++ restarted.1.reportResponse key err)

def stopTripBatchingMultiplex (restartNeeded : Bool) (batchOptions : BatchingOptions) :
    Option (BatchingAdapter × List Call) :=
  if a.mTripSessions.size = 1 then
    some (a, [.stopOutdoorTripBatching true (.stoppedTrip key restartNeeded batchOptions)])
  else a.stopTripBatchingMultiplexCommon key .success restartNeeded batchOptions

/-! ## Processing of messages -/

/-- What `MsgStartBatching` finds wrong. -/
def startError (options : BatchingOptions) : LocationError :=
  if !a.hasBatchingCallback key.client then .callbackMissing
  else if options.size = 0 then .invalidParameter
  else if !a.distanceBaseLocationBatchingSupported then .notSupported
  else .success

/-- `MsgStartBatching::proc`. -/
def startBatchingProc (options : BatchingOptions) : BatchingAdapter × List Call :=
  if !a.mIsEngineCapabilitiesKnown then
    ({ a with mPendingMsgs := a.mPendingMsgs ++ [.startBatching key options] }, [])
  else if a.startError key options = .success then
    match options.batchingMode with
    | .routine | .noAutoReport => a.startBatching key options true
    | .trip => a.startTripBatchingMultiplex key options
    | .other _ => (a, a.reportResponse key .invalidParameter)
  else (a, [])

/-- What `MsgUpdateBatching` finds wrong. -/
def updateError (options : BatchingOptions) : LocationError :=
  if !a.isBatchingSession key then .idUnknown
  else if options.size = 0 then .invalidParameter
  else
    match options.batchingMode with
    | .routine | .trip | .noAutoReport => .success
    -- `batchingMode > BATCHING_MODE_NO_AUTO_REPORT`
    | .other _ => .invalidParameter

/-- `MsgUpdateBatching::proc`. -/
def updateBatchingProc (options : BatchingOptions) : Option (BatchingAdapter × List Call) :=
  if !a.mIsEngineCapabilitiesKnown then
    some ({ a with mPendingMsgs := a.mPendingMsgs ++ [.updateBatching key options] }, [])
  else if a.updateError key options = .success then
    if !a.isTripSession key.id then some (a.stopBatching key true options)
    else a.stopTripBatchingMultiplex key true options
  else some (a, [])

/-- What `MsgStopBatching` finds wrong. -/
def stopError : LocationError := if !a.isBatchingSession key then .idUnknown else .success

/-- `MsgStopBatching::proc`. -/
def stopBatchingProc : Option (BatchingAdapter × List Call) :=
  if !a.mIsEngineCapabilitiesKnown then
    some ({ a with mPendingMsgs := a.mPendingMsgs ++ [.stopBatching key] }, [])
  else if a.stopError key = .success then
    if a.isTripSession key.id then a.stopTripBatchingMultiplex key false .init
    else some (a.stopBatching key false .init)
  else some (a, [])

/-- What `MsgGetBatchedLocations` finds wrong. -/
def getError : LocationError :=
  if !a.hasBatchingCallback key.client then .callbackMissing
  else if !a.isBatchingSession key then .idUnknown
  else .success

/-- `MsgGetBatchedLocations::proc`. -/
def getBatchedLocationsProc (count : ℕ) : BatchingAdapter × List Call :=
  if !a.mIsEngineCapabilitiesKnown then
    ({ a with mPendingMsgs := a.mPendingMsgs ++ [.getBatchedLocations key count] }, [])
  else if a.getError key = .success then
    if a.isTripSession key.id then
      (a, [.getBatchedTripLocations count 0 (.gotBatchedLocations key)])
    else (a, [.getBatchedLocations count (.gotBatchedLocations key)])
  else (a, a.reportResponse key (a.getError key))

/-- `MsgReportCompletedTrips::proc`. The source reads the fields of a completed trip after it has
erased it; here they are read as they were. -/
def reportCompletedTripsProc (accumulatedDistance : UInt32) : BatchingAdapter × List Call :=
  let trips := a.mTripSessions.mapValues (·.accumulate accumulatedDistance)
  let completed := trips.filter fun e ↦ e.2.completed
  let a := completed.values.foldl noteDropped
    { a with mTripSessions := trips.filter fun e ↦ !e.2.completed }
  let completedTripsList := completed.entries.map Prod.fst
  if completedTripsList = [] then (a, [])
  else
    let restarted := a.restartTripBatching false accumulatedDistance
    (restarted.1, a.reportBatchStatusChange completedTripsList ++ restarted.2)

/-- The callbacks. -/
def locApiResponseProc (err : LocationError) (accumulatedDistance : UInt32) :
    Callback → Option (BatchingAdapter × List Call)
  | .startedBatching key options pendingMsg =>
    let a :=
      if a.mEngineLockState = .enabled ∧ err ≠ .success then a.eraseBatchingSession key else a
    let a :=
      if err ≠ .success ∧ options.batchingMode ≠ .noAutoReport ∧
          a.autoReportBatchingSessionsCount = 0 then
        a.updateEvtMask false
      else a
    let a :=
      if err = .gnssDisabled ∧ pendingMsg then
        { a with
          mPendingGnssEnabledMsgs := a.mPendingGnssEnabledMsgs ++ [.startBatching key options] }
      else a
    some (a, a.reportResponse key err)
  | .stoppedBatching key flpOptions restartNeeded batchOptions =>
    if a.mEngineLockState = .enabled ∧ err ≠ .success then
      let a := a.saveBatchingSession key batchOptions
      some (a, a.reportResponse key err)
    else
      let a :=
        if a.autoReportBatchingSessionsCount = 0 ∧ flpOptions.batchingMode ≠ .noAutoReport then
          a.updateEvtMask false
        else a
      let restarted := if restartNeeded then a.restart key batchOptions else (a, [])
      some (restarted.1, restarted.2 ++ restarted.1.reportResponse key err)
  | .gotBatchedLocations key => some (a, a.reportResponse key err)
  | .startedTrip key options =>
    let a :=
      if a.mEngineLockState = .disabled ∨ err = .success then
        { a with
          mOngoingTripDistance := options.minDistance
          mOngoingTripTBFInterval := options.minInterval }
      else
        let a := a.eraseBatchingSession key
        let a := { a with mTripSessions := a.mTripSessions.erase key.id }
        if a.autoReportBatchingSessionsCount = 0 then a.updateEvtMask false else a
    some (a, a.reportResponse key err)
  | .queriedForStart key options => some (a.queriedForStart key options err accumulatedDistance)
  | .restartedForStart key => some (a, a.reportResponse key err)
  | .stoppedTrip key restartNeeded batchOptions =>
    let a :=
      if err = .success ∧ a.autoReportBatchingSessionsCount = 1 then a.updateEvtMask false else a
    a.stopTripBatchingMultiplexCommon key err restartNeeded batchOptions
  | .queriedForRestart queryAccumulatedDistance minRemainingDistance minTBFInterval accDist =>
    some (a.queriedForRestart minRemainingDistance minTBFInterval
      (if queryAccumulatedDistance then accumulatedDistance else accDist))
  | .restartedTrips accumulatedDistance ongoingTripDistance ongoingTripInterval =>
    some (a.restartedTrips err accumulatedDistance ongoingTripDistance ongoingTripInterval, [])
  | .ignore => some (a, [])

/-- What processing a message does; nothing where the source goes through an iterator that points
nowhere. -/
def proc : LocMsg → Option (BatchingAdapter × List Call)
  | .startBatching key options => some (a.startBatchingProc key options)
  | .updateBatching key options => a.updateBatchingProc key options
  | .stopBatching key => a.stopBatchingProc key
  | .getBatchedLocations key count => some (a.getBatchedLocationsProc key count)
  | .reportCompletedTrips accumulatedDistance =>
    some (a.reportCompletedTripsProc accumulatedDistance)
  | .locApiResponse callback err accumulatedDistance =>
    a.locApiResponseProc err accumulatedDistance callback

end BatchingAdapter

end MataDevice.Batching
