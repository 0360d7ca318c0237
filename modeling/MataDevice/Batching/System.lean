import MataDevice.Batching.Adapter
import MataDevice.Tracking.System

/-!
# The batching adapter at work

The batching commands of the clients, the message queue of the adapter, the engine and the way that
is travelled, as one system. A command puts a message into the queue; messages are processed one at
a time in their order. The engine answers the requests at any time and in any order, with success or
an error and with any data, and an answer is a message again. It reports the distance of the ongoing
batch of outdoor trips at any time.

To tell which command a call is made for, commands are numbered, and a message, a request and a call
are kept together with the number of the command they go back to. To tell how far a trip has got,
there is an odometer: a message is stamped with its reading, and the system remembers the readings
at which the engine began the ongoing batch and at which each trip was started. The adapter knows of
none of this.
-/

namespace MataDevice.Batching

open MataDevice.Tracking (LocationAPI LocationError EngineLockState LocationSessionKey Owned
  generateSessionId)
open Option (some_inj)

/-- The callback that comes with a request. -/
def Call.response : Call → Option Callback
  | .startBatching _ _ _ _ response | .stopBatching _ response | .getBatchedLocations _ response
  | .getBatchedTripLocations _ _ response | .startOutdoorTripBatching _ _ _ response
  | .reStartOutdoorTripBatching _ _ _ response | .stopOutdoorTripBatching _ response
  | .queryAccumulatedTripDistance response => some response
  | .responseCb .. | .tripCompletedCb .. => none

/-- The trip that the request for which this is the callback makes the engine begin a batch for. -/
def Callback.startsTrip : Callback → Option ℕ
  | .startedTrip key _ => some key.id
  | _ => none

/-- The trip for which the engine is asked to begin a batch. -/
def Call.startsTrip (c : Call) : Option ℕ := c.response.bind Callback.startsTrip

/-- The trip that a message makes the adapter enter into the table of an ongoing batch. -/
def LocMsg.joinsTrip : LocMsg → Option ℕ
  | .locApiResponse (.queriedForStart key _) .success _ => some key.id
  | _ => none

/-- Whether the request for which this is the callback makes the engine begin a batch. -/
def Callback.beginsBatch : Callback → Bool
  | .startedTrip .. | .restartedForStart _ | .restartedTrips .. => true
  | _ => false

/-- A message in the queue. -/
structure Envelope where
  /-- The command that the message goes back to. -/
  owner : Option ℕ
  /-- The reading of the odometer when the message was sent. -/
  sentAt : ℕ
  msg : LocMsg
  deriving DecidableEq, Repr

structure BatchingSystem where
  adapter : BatchingAdapter
  mSessionIdCounter : ℕ
  queue : List Envelope
  /-- The callbacks of the requests that the engine has not answered yet. -/
  awaiting : List (Owned Callback)
  /-- The sessions of the commands given so far; the number of a command is its place. -/
  commands : List LocationSessionKey
  odometer : ℕ
  /-- The reading at which the engine began the ongoing batch. -/
  batchStart : ℕ
  /-- The reading at which a trip was started; it goes on as long as the engine has not begun the
  batch of the trip. -/
  tripStart : ℕ → ℕ

inductive Event
  | startBatchingCommand (client : LocationAPI) (options : BatchingOptions)
  | updateBatchingOptionsCommand (client : LocationAPI) (id : ℕ) (options : BatchingOptions)
  | stopBatchingCommand (client : LocationAPI) (id : ℕ)
  | getBatchedLocationsCommand (client : LocationAPI) (id : ℕ) (count : ℕ)
  | reportCompletedTripsEvent (accumulatedDistance : UInt32)
  /-- The message task processes the next message. -/
  | proc
  /-- The engine answers one of the requests that wait. -/
  | returnToSender (i : ℕ) (err : LocationError) (accumulatedDistance : UInt32)
  | setEngineLockState (state : EngineLockState)
  | travel (distance : ℕ)
  deriving DecidableEq, Repr

/-- Whether a client can be answered. -/
def BatchingAdapter.Registered (a : BatchingAdapter) (client : LocationAPI) : Prop :=
  (a.mClientData.find? client).any LocationCallbacks.responseCb = true

instance (a : BatchingAdapter) (client : LocationAPI) : Decidable (a.Registered client) :=
  inferInstanceAs (Decidable (_ = _))

namespace BatchingSystem

variable (s : BatchingSystem)

/-- The engine has not begun the batch of the trip yet. -/
def StartAwaited (id : ℕ) : Prop := some id ∈ s.awaiting.map fun x ↦ x.2.startsTrip

instance (id : ℕ) : Decidable (s.StartAwaited id) := inferInstanceAs (Decidable (_ ∈ _))

/-- Put a message into the queue. -/
def sendMsg (owner : Option ℕ) (msg : LocMsg) : BatchingSystem :=
  { s with queue := s.queue ++ [⟨owner, s.odometer, msg⟩] }

/-- A command of a client. `LocationAPI::createInstance` makes no client without `responseCb`, and
registers every client with the adapter before it returns it. -/
def give (key : LocationSessionKey) (msg : LocMsg) :
    Option (BatchingSystem × List (Owned Call)) :=
  if s.adapter.Registered key.client then
    some ({ s.sendMsg (some s.commands.length) msg with commands := s.commands ++ [key] }, [])
  else none

/-- Take over what the adapter did for a message. -/
def perform (e : Envelope) (result : BatchingAdapter × List Call) :
    BatchingSystem × List (Owned Call) :=
  ({ s with
      adapter := result.1
      awaiting := s.awaiting ++ result.2.filterMap fun c ↦ c.response.map (e.owner, ·)
      tripStart := fun id ↦
        if id ∈ result.2.filterMap Call.startsTrip then s.odometer
        else if e.msg.joinsTrip = some id then e.sentAt
        else s.tripStart id },
    result.2.map (e.owner, ·))

/-- The engine has done what a request asks for, if the answer is a success, and answers it. -/
def answer (owner : Option ℕ) (callback : Callback) (err : LocationError)
    (accumulatedDistance : UInt32) : BatchingSystem :=
  { s.sendMsg owner (.locApiResponse callback err accumulatedDistance) with
    batchStart := if callback.beginsBatch ∧ err = .success then s.odometer else s.batchStart }

def step : Event → Option (BatchingSystem × List (Owned Call))
  | .startBatchingCommand client options =>
    let id := generateSessionId s.mSessionIdCounter
    { s with mSessionIdCounter := id }.give ⟨client, id⟩ (.startBatching ⟨client, id⟩ options)
  | .updateBatchingOptionsCommand client id options =>
    s.give ⟨client, id⟩ (.updateBatching ⟨client, id⟩ options)
  | .stopBatchingCommand client id => s.give ⟨client, id⟩ (.stopBatching ⟨client, id⟩)
  | .getBatchedLocationsCommand client id count =>
    s.give ⟨client, id⟩ (.getBatchedLocations ⟨client, id⟩ count)
  | .reportCompletedTripsEvent accumulatedDistance =>
    some (s.sendMsg none (.reportCompletedTrips accumulatedDistance), [])
  | .proc =>
    match s.queue with
    | [] => none
    | e :: queue => (s.adapter.proc e.msg).map fun result ↦ { s with queue := queue }.perform e result
  | .returnToSender i err accumulatedDistance =>
    match s.awaiting[i]? with
    | none => none
    | some (owner, callback) =>
      some ({ s with awaiting := s.awaiting.eraseIdx i }.answer owner callback err
        accumulatedDistance, [])
  | .setEngineLockState state =>
    some ({ s with adapter := { s.adapter with mEngineLockState := state } }, [])
  | .travel distance =>
    some ({ s with
      odometer := s.odometer + distance
      tripStart := fun id ↦
        if s.StartAwaited id then s.odometer + distance else s.tripStart id }, [])

/-- The adapter before the first command. -/
def initial (adapter : BatchingAdapter) : BatchingSystem where
  adapter := { adapter with
    mBatchingSessions := .empty
    mTripSessions := .empty
    mOngoingTripDistance := 0
    mOngoingTripTBFInterval := 0
    mTripWithOngoingTBFDropped := false
    mTripWithOngoingTripDistanceDropped := false
    mPendingMsgs := []
    mPendingGnssEnabledMsgs := []
    batchFullBit := false }
  mSessionIdCounter := 1
  queue := []
  awaiting := []
  commands := []
  odometer := 0
  batchStart := 0
  tripStart := fun _ ↦ 0

/-- All messages are processed and all requests answered. -/
def Quiet : Prop := s.queue = [] ∧ s.awaiting = []

instance : Decidable s.Quiet := inferInstanceAs (Decidable (_ ∧ _))

end BatchingSystem

/-- Two clients, one with all callbacks and one that can only be answered; the engine is enabled. -/
def sampleAdapter : BatchingAdapter where
  mClientData :=
    (OrderedMap.empty.insert 1 ⟨true, true, true⟩).insert 2 ⟨true, false, false⟩
  mBatchingSessions := .empty
  mTripSessions := .empty
  mOngoingTripDistance := 0
  mOngoingTripTBFInterval := 0
  mTripWithOngoingTBFDropped := false
  mTripWithOngoingTripDistanceDropped := false
  mBatchingTimeout := 60
  mBatchingAccuracy := 1
  mPendingMsgs := []
  mPendingGnssEnabledMsgs := []
  mIsEngineCapabilitiesKnown := true
  batchFullBit := false
  distanceBaseLocationBatchingSupported := true
  mEngineLockState := .enabled

/-- Options with an interval, a distance and a mode. -/
def sampleOptions (minInterval minDistance : UInt32) (batchingMode : BatchingMode) :
    BatchingOptions :=
  ⟨24, minInterval, minDistance, .standalone, 0, batchingMode⟩

/-! ## What processing leaves alone -/

namespace BatchingAdapter

variable (a : BatchingAdapter) (key : LocationSessionKey) (options : BatchingOptions)

/-- The part of the adapter that no message changes. -/
def config : OrderedMap LocationAPI LocationCallbacks × Bool × Bool × EngineLockState :=
  (a.mClientData, a.mIsEngineCapabilitiesKnown, a.distanceBaseLocationBatchingSupported,
    a.mEngineLockState)

variable {a} in
theorem Registered.of_config {a' : BatchingAdapter} {client : LocationAPI} (h : a.Registered client)
    (hc : a'.config = a.config) : a'.Registered client := by
  have hdata : a'.mClientData = a.mClientData := congrArg Prod.fst hc
  rwa [Registered, hdata]

theorem config_ite {p : Prop} [Decidable p] {b c : BatchingAdapter} (hb : b.config = a.config)
    (hc : c.config = a.config) : (if p then b else c).config = a.config := by
  split
  · exact hb
  · exact hc

@[simp] theorem config_updateEvtMask (enabled : Bool) :
    (a.updateEvtMask enabled).config = a.config := rfl

@[simp] theorem config_saveBatchingSession :
    (a.saveBatchingSession key options).config = a.config := rfl

@[simp] theorem config_eraseBatchingSession : (a.eraseBatchingSession key).config = a.config := rfl

@[simp] theorem config_noteDropped (status : TripSessionStatus) :
    (a.noteDropped status).config = a.config := rfl

@[simp] theorem config_startBatching (pendingMsg : Bool) :
    (a.startBatching key options pendingMsg).1.config = a.config := by
  rw [startBatching]
  exact config_ite a rfl rfl

@[simp] theorem config_startTripBatchingMultiplex :
    (a.startTripBatchingMultiplex key options).1.config = a.config := by
  rw [startTripBatchingMultiplex]
  split
  · exact config_ite a rfl rfl
  · rfl

@[simp] theorem config_restart : (a.restart key options).1.config = a.config := by
  rw [restart]
  split <;> simp

@[simp] theorem config_restartTripBatching (queryAccumulatedDistance : Bool) (accDist : UInt32) :
    (a.restartTripBatching queryAccumulatedDistance accDist).1.config = a.config := by
  rw [restartTripBatching]
  split
  · exact config_ite a rfl rfl
  · rfl

@[simp] theorem config_queriedForStart (err : LocationError) (accumulatedDistance : UInt32) :
    (a.queriedForStart key options err accumulatedDistance).1.config = a.config := by
  rw [queriedForStart]
  split <;> exact config_ite a rfl rfl

@[simp] theorem config_queriedForRestart (minRemainingDistance minTBFInterval dist : UInt32) :
    (a.queriedForRestart minRemainingDistance minTBFInterval dist).1.config = a.config := by
  rw [queriedForRestart]
  split <;> rfl

@[simp] theorem config_restartedTrips (err : LocationError) (dist tripDistance interval : UInt32) :
    (a.restartedTrips err dist tripDistance interval).config = a.config := by
  rw [restartedTrips]
  exact config_ite a rfl rfl

@[simp] theorem config_stopBatching (restartNeeded : Bool) :
    (a.stopBatching key restartNeeded options).1.config = a.config := by
  rw [stopBatching]
  split <;> rfl

@[simp] theorem config_foldl_noteDropped (l : List TripSessionStatus) :
    (l.foldl noteDropped a).config = a.config := by
  induction l generalizing a with
  | nil => rfl
  | cons status l ih => exact (ih _).trans (a.config_noteDropped status)

variable {a key options}

variable {result : BatchingAdapter × List Call}

theorem config_stopTripBatchingMultiplexCommon {err : LocationError} {restartNeeded : Bool}
    (h : a.stopTripBatchingMultiplexCommon key err restartNeeded options = some result) :
    result.1.config = a.config := by
  rw [stopTripBatchingMultiplexCommon] at h
  split at h
  · cases h
  · obtain rfl := some_inj.mp h
    dsimp only
    split_ifs <;> simp <;> rfl

theorem config_stopTripBatchingMultiplex {restartNeeded : Bool}
    (h : a.stopTripBatchingMultiplex key restartNeeded options = some result) :
    result.1.config = a.config := by
  rw [stopTripBatchingMultiplex] at h
  split at h
  · obtain rfl := some_inj.mp h
    rfl
  · exact config_stopTripBatchingMultiplexCommon h

theorem config_startBatchingProc : (a.startBatchingProc key options).1.config = a.config := by
  rw [startBatchingProc]
  split
  · rfl
  split
  · split <;> simp
  · rfl

theorem config_updateBatchingProc
    (h : a.updateBatchingProc key options = some result) : result.1.config = a.config := by
  rw [updateBatchingProc] at h
  split at h
  · obtain rfl := some_inj.mp h
    rfl
  split at h
  · split at h
    · obtain rfl := some_inj.mp h
      simp
    · exact config_stopTripBatchingMultiplex h
  · obtain rfl := some_inj.mp h
    rfl

theorem config_stopBatchingProc
    (h : a.stopBatchingProc key = some result) : result.1.config = a.config := by
  rw [stopBatchingProc] at h
  split at h
  · obtain rfl := some_inj.mp h
    rfl
  split at h
  · split at h
    · exact config_stopTripBatchingMultiplex h
    · obtain rfl := some_inj.mp h
      simp
  · obtain rfl := some_inj.mp h
    rfl

theorem config_getBatchedLocationsProc (count : ℕ) :
    (a.getBatchedLocationsProc key count).1.config = a.config := by
  rw [getBatchedLocationsProc]
  repeat' split
  all_goals rfl

theorem config_reportCompletedTripsProc (accumulatedDistance : UInt32) :
    (a.reportCompletedTripsProc accumulatedDistance).1.config = a.config := by
  rw [reportCompletedTripsProc]
  dsimp only
  split
  · simp only [config_foldl_noteDropped]
    rfl
  · simp only [config_restartTripBatching, config_foldl_noteDropped]
    rfl

theorem config_locApiResponseProc {err : LocationError} {accumulatedDistance : UInt32}
    {callback : Callback}
    (h : a.locApiResponseProc err accumulatedDistance callback = some result) :
    result.1.config = a.config := by
  cases callback with
  | stoppedTrip key restartNeeded batchOptions =>
    exact (config_stopTripBatchingMultiplexCommon h).trans (config_ite a rfl rfl)
  | stoppedBatching key flpOptions restartNeeded batchOptions =>
    rw [locApiResponseProc] at h
    split at h
    · obtain rfl := some_inj.mp h
      rfl
    · obtain rfl := some_inj.mp h
      dsimp only
      split_ifs <;> simp
  | startedBatching key options pendingMsg | startedTrip key options =>
    obtain rfl := some_inj.mp h
    dsimp only
    split_ifs <;> rfl
  | gotBatchedLocations key | restartedForStart key | ignore =>
    obtain rfl := some_inj.mp h
    rfl
  | queriedForStart key options
  | queriedForRestart queryAccumulatedDistance minRemainingDistance minTBFInterval accDist
  | restartedTrips accumulatedDistance ongoingTripDistance ongoingTripInterval =>
    obtain rfl := some_inj.mp h
    simp

theorem config_proc {msg : LocMsg} (h : a.proc msg = some result) : result.1.config = a.config := by
  cases msg with
  | startBatching key options =>
    obtain rfl := some_inj.mp h
    exact config_startBatchingProc
  | updateBatching key options => exact config_updateBatchingProc h
  | stopBatching key => exact config_stopBatchingProc h
  | getBatchedLocations key count =>
    obtain rfl := some_inj.mp h
    exact config_getBatchedLocationsProc count
  | reportCompletedTrips accumulatedDistance =>
    obtain rfl := some_inj.mp h
    exact config_reportCompletedTripsProc accumulatedDistance
  | locApiResponse callback err accumulatedDistance => exact config_locApiResponseProc h

/-! ## Checks -/

theorem isBatchingSession_of_stopError (h : a.stopError key = .success) :
    a.isBatchingSession key = true := by
  by_contra hnot
  simp [stopError, hnot] at h

theorem isBatchingSession_of_updateError (h : a.updateError key options = .success) :
    a.isBatchingSession key = true := by
  rw [updateError] at h
  split at h
  · cases h
  · next hsession => simpa using hsession

end BatchingAdapter

end MataDevice.Batching
