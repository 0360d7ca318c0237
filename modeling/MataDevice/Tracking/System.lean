import MataDevice.Lib.History
import MataDevice.Tracking.Adapter

/-!
# The adapter at work

The tracking commands of the clients, the message queue of the adapter and the engine, as one
system. A command puts a message into the queue; messages are processed one at a time in their
order. The requests to the engine that carry a callback wait for their answers; the engine gives
them at any time and in any order, and an answer is a message again. At any time the engine can be
locked and unlocked, the need for an NHz session can change, and sessions can be restarted.

To tell which command a call is made for, commands are numbered. A message, a request and a call are
kept together with the number of the command they go back to; the adapter itself does not know of
it.
-/

namespace MataDevice.Tracking

/-- The callback that comes with a request. -/
def Call.response : Call → Option Callback
  | .startTimeBasedTracking _ response | .stopFix response
  | .startDistanceBasedTracking _ _ response | .stopDistanceBasedTracking _ response => response
  | .responseCb .. => none

/-- `LocAdapterBase::generateSessionId`, which leaves this value in the counter. -/
def generateSessionId (mSessionIdCounter : ℕ) : ℕ :=
  if mSessionIdCounter + 1 = 0xFFFFFFFF then 1 else mSessionIdCounter + 1

/-- Something that is done for a command, or for none. -/
abbrev Owned (α : Type) := Option ℕ × α

structure TrackingSystem where
  adapter : GnssAdapter
  mSessionIdCounter : ℕ
  queue : List (Owned LocMsg)
  /-- The callbacks of the requests that the engine has not answered yet. -/
  awaiting : List (Owned Callback)
  /-- The sessions of the commands given so far; the number of a command is its place. -/
  commands : List LocationSessionKey

inductive Event
  | startTrackingCommand (client : LocationAPI) (options : TrackingOptions)
  | updateTrackingOptionsCommand (client : LocationAPI) (id : ℕ) (options : TrackingOptions)
  | stopTrackingCommand (client : LocationAPI) (id : ℕ)
  /-- The message task processes the next message. -/
  | proc
  /-- The engine answers one of the requests that wait. -/
  | returnToSender (i : ℕ) (err : LocationError)
  | setEngineLockState (state : EngineLockState)
  | setNHzNeeded (needed : Bool)
  | restartSessions
  deriving DecidableEq, Repr

namespace GnssAdapter

/-- Whether a client can be answered. -/
def Registered (a : GnssAdapter) (client : LocationAPI) : Prop :=
  (a.mClientData client).any LocationCallbacks.responseCb = true

instance (a : GnssAdapter) (client : LocationAPI) : Decidable (a.Registered client) :=
  inferInstanceAs (Decidable (_ = _))

end GnssAdapter

namespace TrackingSystem

variable (s : TrackingSystem)

/-- A command of a client. `LocationAPI::createInstance` makes no client without `responseCb`, and
registers every client with the adapter before it returns it. -/
def give (key : LocationSessionKey) (msg : LocMsg) : Option (TrackingSystem × List (Owned Call)) :=
  if s.adapter.Registered key.client then
    some ({ s with
      queue := s.queue ++ [(some s.commands.length, msg)]
      commands := s.commands ++ [key] }, [])
  else none

/-- Take over what the adapter did on behalf of a command. -/
def perform (owner : Option ℕ) (result : GnssAdapter × List Call) :
    TrackingSystem × List (Owned Call) :=
  ({ s with
      adapter := result.1
      awaiting := s.awaiting ++ result.2.filterMap fun c ↦ c.response.map (owner, ·) },
    result.2.map (owner, ·))

def step : Event → Option (TrackingSystem × List (Owned Call))
  | .startTrackingCommand client options =>
    let id := generateSessionId s.mSessionIdCounter
    { s with mSessionIdCounter := id }.give ⟨client, id⟩ (.startTracking ⟨client, id⟩ options)
  | .updateTrackingOptionsCommand client id options =>
    s.give ⟨client, id⟩ (.updateTracking ⟨client, id⟩ options)
  | .stopTrackingCommand client id => s.give ⟨client, id⟩ (.stopTracking ⟨client, id⟩)
  | .proc =>
    match s.queue with
    | [] => none
    | (owner, msg) :: queue =>
      some ({ s with queue := queue }.perform owner (s.adapter.proc msg))
  | .returnToSender i err =>
    match s.awaiting[i]? with
    | none => none
    | some (owner, callback) =>
      some ({ s with
        queue := s.queue ++ [(owner, .locApiResponse callback err)]
        awaiting := s.awaiting.eraseIdx i }, [])
  | .setEngineLockState state =>
    some ({ s with adapter := { s.adapter with mEngineLockState := state } }, [])
  | .setNHzNeeded needed =>
    some ({ s with adapter := { s.adapter with mNHzNeeded := needed } }, [])
  | .restartSessions => some (s.perform none s.adapter.restartSessions)

/-- The adapter before the first command. -/
def initial (adapter : GnssAdapter) : TrackingSystem where
  adapter := { adapter with
    mTimeBasedTrackingSessions := .empty
    mDistanceBasedTrackingSessions := .empty
    mPendingMsgs := []
    mSPEAlreadyRunningAtHighestInterval := false }
  mSessionIdCounter := 1
  queue := []
  awaiting := []
  commands := []

/-- All messages are processed and all requests answered. -/
def Quiet : Prop := s.queue = [] ∧ s.awaiting = []

instance : Decidable s.Quiet := inferInstanceAs (Decidable (_ ∧ _))

end TrackingSystem

/-- The calls of a history. -/
def callsOf (hist : List (Item Event (Owned Call))) : List (Owned Call) :=
  hist.filterMap fun
    | .event _ => none
    | .out c => some c

theorem callsOf_append_entry (hist : List (Item Event (Owned Call))) (e : Event)
    (outs : List (Owned Call)) : callsOf (hist ++ entry e outs) = callsOf hist ++ outs := by
  simp only [callsOf, entry, List.filterMap_append, List.filterMap_cons, List.filterMap_map]
  exact congrArg _ List.filterMap_some

/-! ## What processing leaves alone -/

namespace GnssAdapter

variable (a : GnssAdapter) (key : LocationSessionKey) (options : TrackingOptions)

/-- The part of the adapter that no message changes. -/
def config : (LocationAPI → Option LocationCallbacks) × Bool × Bool × Bool × EngineLockState :=
  (a.mClientData, a.mIsEngineCapabilitiesKnown, a.mNHzNeeded, a.distanceBaseTrackingSupported,
    a.mEngineLockState)

variable {a} in
theorem Registered.of_config {a' : GnssAdapter} {client : LocationAPI} (h : a.Registered client)
    (hc : a'.config = a.config) : a'.Registered client := by
  have hdata : a'.mClientData = a.mClientData := congrArg Prod.fst hc
  rwa [Registered, hdata]

@[simp] theorem config_saveTrackingSession :
    (a.saveTrackingSession key options).config = a.config := by
  rw [saveTrackingSession]
  split <;> rfl

@[simp] theorem config_eraseTrackingSession : (a.eraseTrackingSession key).config = a.config := by
  rw [eraseTrackingSession]
  split <;> rfl

@[simp] theorem config_checkAndSetSPEToRunforNHz :
    (a.checkAndSetSPEToRunforNHz options).2.1.config = a.config := by
  rw [checkAndSetSPEToRunforNHz]
  repeat' split
  all_goals rfl

@[simp] theorem config_runTimeBasedTracking (callback : Callback) :
    (a.runTimeBasedTracking key options callback).1.config = a.config := by
  have h := a.config_checkAndSetSPEToRunforNHz options
  rw [runTimeBasedTracking]
  split
  next heq =>
    rw [heq] at h
    split <;> exact h

@[simp] theorem config_startTimeBasedTracking :
    (a.startTimeBasedTracking key options).1.config = a.config :=
  a.config_runTimeBasedTracking key options _

@[simp] theorem config_updateTracking (oldOptions : TrackingOptions) :
    (a.updateTracking key options oldOptions).1.config = a.config :=
  a.config_runTimeBasedTracking key options _

@[simp] theorem config_startTimeBasedTrackingMultiplex :
    (a.startTimeBasedTrackingMultiplex key options).2.1.config = a.config := by
  rw [startTimeBasedTrackingMultiplex]
  repeat' split
  all_goals simp

@[simp] theorem config_updateTrackingMultiplex :
    (a.updateTrackingMultiplex key options).2.1.config = a.config := by
  rw [updateTrackingMultiplex]
  repeat' split
  all_goals simp

@[simp] theorem config_stopTimeBasedTrackingMultiplex :
    (a.stopTimeBasedTrackingMultiplex key).2.1.config = a.config := by
  rw [stopTimeBasedTrackingMultiplex]
  repeat' split
  · rfl
  all_goals simp

@[simp] theorem thenReport_fst (multiplexed : Bool × GnssAdapter × List Call)
    (edit : GnssAdapter → GnssAdapter) :
    (thenReport key multiplexed edit).1 = edit multiplexed.2.1 := rfl

theorem config_proc (msg : LocMsg) : (a.proc msg).1.config = a.config := by
  cases msg with
  | startTracking key options =>
    simp only [proc, startTrackingProc, startTimeBasedSession]
    repeat' split
    all_goals first | rfl | simp
  | updateTracking key options =>
    simp only [proc, updateTrackingProc, switchToDistance]
    repeat' split
    all_goals first | rfl | simp
  | stopTracking key =>
    simp only [proc, stopTrackingProc]
    repeat' split
    all_goals first | rfl | simp
  | locApiResponse callback err =>
    cases callback <;> simp only [proc, locApiResponseProc, startTimeBasedSession] <;>
      (try split) <;> first | rfl | simp

theorem config_restartSessions : a.restartSessions.1.config = a.config := by
  simp only [restartSessions, checkAndRestartTimeBasedSession]
  split
  · exact config_checkAndSetSPEToRunforNHz _ _
  · rfl

end GnssAdapter

/-! ## A sample -/

/-- An adapter with two clients: client 1 has all callbacks, client 2 none to start tracking. -/
def sampleAdapter : GnssAdapter where
  mClientData
    | 1 => some ⟨true, true, true, true, true, true, true, true⟩
    | 2 => some ⟨true, false, false, false, false, false, false, false⟩
    | _ => none
  mTimeBasedTrackingSessions := .empty
  mDistanceBasedTrackingSessions := .empty
  mPendingMsgs := []
  mIsEngineCapabilitiesKnown := true
  mNHzNeeded := false
  mSPEAlreadyRunningAtHighestInterval := false
  distanceBaseTrackingSupported := true
  mEngineLockState := .enabled

/-- Options with an interval, a distance and a power mode. -/
def sampleOptions (minInterval minDistance : ℕ) (powerMode : GnssPowerMode) : TrackingOptions :=
  ⟨sizeofTrackingOptions, minInterval, minDistance, .standalone, 0, powerMode, 0⟩

end MataDevice.Tracking
