import MataDevice.Batching.Adapter
import MataDevice.Client.Tables
import MataDevice.Lib.History

/-!
# The client of the location API

`LocationAPIClientBase` gives the sessions and the geofences of the framework their own ids. It
calls `LocationAPI`, which returns a new session for everything that is started and later answers
each call with the session it was about.

For each call the client pushes a request object into a queue, and the answer takes it from there.
All sessions of the client share one queue, from which the answers take the objects in the order in
which they were pushed. An update that switches between tracking and batching stops the session and
starts a new one; it pushes one object for the new session and none for the old one.

The run of a client includes `LocationAPI`: the sessions that it has given out, and the calls that
it has not answered yet. The answers to the calls of one session come in the order of the calls.
-/

namespace MataDevice.Client

open MataDevice.Tracking (LocationError TrackingOptions)
open MataDevice.Batching (BatchingMode BatchingOptions)

/-! ## Data types -/

/-- `SESSION_MODE`; the client is called with any number. -/
inductive SessionMode
  | none
  | onFull
  | onFix
  | onTripCompleted
  | other (value : ℕ)
  deriving DecidableEq, Repr

structure SessionEntity where
  id : ℕ
  trackingSession : ℕ
  batchingSession : ℕ
  sessionMode : SessionMode
  deriving DecidableEq, Repr

/-- An entity after `memset`. -/
def SessionEntity.zero : SessionEntity := ⟨0, 0, 0, .none⟩

/-- `REQUEST_TYPE` -/
inductive RequestType
  | tracking
  | session
  | geofence
  | niResponse
  deriving DecidableEq, Repr

/-- The classes of requests. -/
inductive RequestKind
  | startTracking
  | stopTracking
  | updateTrackingOptions
  | startBatching
  | stopBatching
  | updateBatchingOptions
  | getBatchedLocations
  | addGeofences
  | removeGeofences
  | modifyGeofences
  | pauseGeofences
  | resumeGeofences
  deriving DecidableEq, Repr

/-- A request object; the objects are numbered in the order in which they are made. -/
structure Request where
  kind : RequestKind
  number : ℕ
  deriving DecidableEq, Repr

/-- The calls of `LocationAPI`. -/
inductive ApiCall
  | startTracking (options : TrackingOptions)
  | stopTracking (session : ℕ)
  | updateTrackingOptions (session : ℕ) (options : TrackingOptions)
  | startBatching (options : BatchingOptions)
  | stopBatching (session : ℕ)
  | updateBatchingOptions (session : ℕ) (options : BatchingOptions)
  | getBatchedLocations (session : ℕ) (count : ℕ)
  | addGeofences (breachTypeMasks : List ℕ)
  | removeGeofences (sessions : List ℕ)
  | modifyGeofences (sessions : List ℕ) (breachTypeMasks : List ℕ)
  | pauseGeofences (sessions : List ℕ)
  | resumeGeofences (sessions : List ℕ)
  deriving DecidableEq, Repr

/-- A call that has not been answered, with the request object that was pushed for it. -/
structure Awaited where
  session : ℕ
  request : Option Request
  deriving DecidableEq, Repr

structure LocationAPIClientBase where
  /-- whether there is a `LocationAPI` -/
  mLocationAPI : Bool
  mRequestQueues : RequestType → RequestQueue Request
  /-- with the `GeofenceBreachTypeMask` of each geofence -/
  mGeofenceBiDict : BiDict ℕ
  mSessionBiDict : BiDict SessionEntity
  /-- How many request objects have been made. -/
  requests : ℕ
  /-- The sessions that `LocationAPI` has given out. -/
  issued : List ℕ
  /-- The calls about sessions that `LocationAPI` has not answered, in their order. -/
  awaiting : List Awaited

inductive Output
  | api (call : ApiCall)
  | returned (error : LocationError)
  /-- An answer for a session that is known or not, with the object that was pushed for the call and
  the one that the answer is delivered to. -/
  | answered (session : ℕ) (known : Bool) (expected delivered : Option Request)
  /-- The client's callback for a kind of requests. -/
  | callback (kind : RequestKind) (error : LocationError)
  /-- The callback for trips that are completed. -/
  | onBatchingStatusCb (listOfCompletedTrips : List ℕ)
  deriving DecidableEq, Repr

/-- The calls about sessions, with the session that `LocationAPI` returns if it is started, and the
answer to the `i`-th of the calls that wait. -/
inductive SessionEvent
  | locAPIStartSession (id : ℕ) (sessionMode : SessionMode) (options : TrackingOptions)
    (session : ℕ)
  | locAPIStopSession (id : ℕ)
  | locAPIUpdateSessionOptions (id : ℕ) (sessionMode : SessionMode) (options : TrackingOptions)
    (session : ℕ)
  | locAPIGetBatchedLocations (id : ℕ) (count : ℕ)
  | onResponseCb (i : ℕ) (error : LocationError)
  deriving DecidableEq, Repr

/-- Everything that changes one of the dictionaries; geofences are given by their ids with their
masks. -/
inductive Event
  | session (e : SessionEvent)
  | batchingStatusCb (tripCompleted : Bool) (tripCompletedList : List ℕ)
  /-- `sessions` are those that `LocationAPI` returns, if it does. -/
  | locAPIAddGeofences (geofences : List (ℕ × ℕ)) (sessions : Option (List ℕ))
  | locAPIRemoveGeofences (ids : List ℕ)
  | locAPIModifyGeofences (geofences : List (ℕ × ℕ))
  | locAPIPauseGeofences (ids : List ℕ)
  /-- with a mask for each id, or with none at all -/
  | locAPIResumeGeofences (geofences : List (ℕ × Option ℕ))
  | locAPIRemoveAllGeofences
  deriving DecidableEq, Repr

/-! ## The requests -/

namespace LocationAPIClientBase

section Requests

variable (c : LocationAPIClientBase)

def modifyQueue (type : RequestType) (f : RequestQueue Request → RequestQueue Request) :
    LocationAPIClientBase :=
  { c with mRequestQueues := Function.update c.mRequestQueues type (f (c.mRequestQueues type)) }

/-- The object that is made next. -/
def newRequest (kind : RequestKind) : Request := ⟨kind, c.requests⟩

/-- `mRequestQueues[type].push(new ...)` -/
def pushRequest (type : RequestType) (kind : RequestKind) : LocationAPIClientBase :=
  { c.modifyQueue type fun q ↦ q.push (c.newRequest kind) with requests := c.requests + 1 }

/-- A call about a session is handed to `LocationAPI`. -/
def await (session : ℕ) (request : Option Request) : LocationAPIClientBase :=
  { c with awaiting := c.awaiting ++ [⟨session, request⟩] }

/-- `LocationAPI` gives out a session. -/
def issue (session : ℕ) : LocationAPIClientBase := { c with issued := session :: c.issued }

def removeSession (session : ℕ) : LocationAPIClientBase :=
  if c.mSessionBiDict.hasSession session then
    { c with mSessionBiDict := c.mSessionBiDict.rmBySession session }
  else c

/-- `mRequestQueues[type].pop()` -/
def popRequest (type : RequestType) : Option Request × LocationAPIClientBase :=
  ((c.mRequestQueues type).pop.1, c.modifyQueue type fun q ↦ q.pop.2)

/-- The loop of `getRequestBySession`, which leaves out the queues of sessions and geofences. -/
def getRequestOfQueue (session : ℕ) : Option Request × LocationAPIClientBase :=
  if (c.mRequestQueues .tracking).mSession = session then c.popRequest .tracking
  else if (c.mRequestQueues .niResponse).mSession = session then c.popRequest .niResponse
  else (none, c)

def getRequestBySession (session : ℕ) : Option Request × LocationAPIClientBase :=
  match c.getRequestOfQueue session with
  | (some request, c) => (some request, c)
  | (none, c) => if c.mSessionBiDict.hasSession session then c.popRequest .session else (none, c)

end Requests

end LocationAPIClientBase

/-- Whether an answer to a request takes the session out of the dictionary. -/
def RequestKind.removes (kind : RequestKind) (error : LocationError) : Bool :=
  match kind with
  | .startTracking | .startBatching => error ≠ .success
  | .stopTracking | .stopBatching => error = .success
  | _ => false

/-- `onResponse` of a request. -/
def LocationAPIClientBase.onResponse (c : LocationAPIClientBase) (request : Request)
    (error : LocationError) (id : ℕ) : LocationAPIClientBase × List Output :=
  match request.kind with
  | .addGeofences | .removeGeofences | .modifyGeofences | .pauseGeofences | .resumeGeofences => (c, [])
  | kind => (if kind.removes error then c.removeSession id else c, [.callback kind error])

/-! ## Sessions -/

def batchingModeOf : SessionMode → BatchingMode
  | .onFull => .routine
  | .onTripCompleted => .trip
  | _ => .noAutoReport

/-- `BatchingOptions` with the mode only; 24 is its size. -/
def batchOptionsOf (sessionMode : SessionMode) : BatchingOptions :=
  { BatchingOptions.init with size := 24, batchingMode := batchingModeOf sessionMode }

/-- `BatchingOptions` with the location options filled in. -/
def batchOptionsWith (sessionMode : SessionMode) (options : TrackingOptions) : BatchingOptions :=
  { batchOptionsOf sessionMode with
    minDistance := .ofNat options.minDistance
    minInterval := .ofNat options.minInterval
    mode := options.mode }

namespace LocationAPIClientBase

section Sessions

variable (c : LocationAPIClientBase)

def locAPIStartSession (id : ℕ) (sessionMode : SessionMode) (options : TrackingOptions)
    (session : ℕ) : LocationAPIClientBase × List Output :=
  if !c.mLocationAPI then (c, [.returned .generalFailure])
  else if c.mSessionBiDict.hasId id then (c, [.returned .alreadyStarted])
  else if sessionMode = .onFix then
    let c' := ((c.issue session).await session (some (c.newRequest .startTracking))).pushRequest
      .session .startTracking
    ({ c' with mSessionBiDict := c.mSessionBiDict.set id session ⟨id, session, 0, sessionMode⟩ },
      [.api (.startTracking options), .returned .success])
  else
    let c' := (((c.issue session).await session (some (c.newRequest .startBatching))).modifyQueue
      .session fun q ↦ q.setSession session).pushRequest .session .startBatching
    ({ c' with mSessionBiDict := c.mSessionBiDict.set id session ⟨id, 0, session, sessionMode⟩ },
      [.api (.startBatching (batchOptionsWith sessionMode options)), .returned .success])

def locAPIStopSession (id : ℕ) : LocationAPIClientBase × List Output :=
  if !c.mLocationAPI then (c, [.returned .generalFailure])
  else if c.mSessionBiDict.hasId id then
    let (entity, dict) := c.mSessionBiDict.getExtById .zero id
    let c := { c with mSessionBiDict := dict }
    if entity.sessionMode = .onFix then
      ((c.await entity.trackingSession (some (c.newRequest .stopTracking))).pushRequest .session
        .stopTracking, [.api (.stopTracking entity.trackingSession), .returned .success])
    else
      ((c.await entity.batchingSession (some (c.newRequest .stopBatching))).pushRequest .session
        .stopBatching, [.api (.stopBatching entity.batchingSession), .returned .success])
  else (c, [.returned .idUnknown])

/-- The old values are removed from the dictionary before the new ones are set. -/
def rebind (id : ℕ) (entity : SessionEntity) (session : ℕ) : LocationAPIClientBase :=
  { c with mSessionBiDict := (c.mSessionBiDict.rmById id).set id session entity }

def locAPIUpdateSessionOptions (id : ℕ) (sessionMode : SessionMode) (options : TrackingOptions)
    (session : ℕ) : LocationAPIClientBase × List Output :=
  if !c.mLocationAPI then (c, [.returned .generalFailure])
  else if c.mSessionBiDict.hasId id then
    let (entity, dict) := c.mSessionBiDict.getExtById .zero id
    let c := { c with mSessionBiDict := dict }
    if sessionMode = .onFix then
      let request := some (c.newRequest .updateTrackingOptions)
      let c := c.pushRequest .session .updateTrackingOptions
      if entity.sessionMode = .onFix then
        ((c.await entity.trackingSession request).rebind id
          { entity with sessionMode := sessionMode } entity.trackingSession,
          [.api (.updateTrackingOptions entity.trackingSession options), .returned .success])
      else
        -- the answer to the stop finds the session removed, so that there is no object for it
        ((((c.await entity.batchingSession none).modifyQueue .session
            fun q ↦ q.setSession 0).issue session).await session request |>.rebind id
          { entity with
            trackingSession := session
            batchingSession := 0
            sessionMode := sessionMode } session,
          [.api (.stopBatching entity.batchingSession), .api (.startTracking options),
            .returned .success])
    else
      let request := some (c.newRequest .updateBatchingOptions)
      let c := c.pushRequest .session .updateBatchingOptions
      if entity.sessionMode = .onFix then
        ((((c.await entity.trackingSession none).issue session).await session request).modifyQueue
            .session (fun q ↦ q.setSession session) |>.rebind id
          { entity with
            trackingSession := 0
            batchingSession := session
            sessionMode := sessionMode } session,
          [.api (.stopTracking entity.trackingSession),
            .api (.startBatching (batchOptionsWith sessionMode options)), .returned .success])
      else
        ((c.await entity.batchingSession request).rebind id
          { entity with sessionMode := sessionMode } entity.batchingSession,
          [.api (.updateBatchingOptions entity.batchingSession (batchOptionsOf sessionMode)),
            .returned .success])
  else (c, [.returned .idUnknown])

def locAPIGetBatchedLocations (id count : ℕ) : LocationAPIClientBase × List Output :=
  if !c.mLocationAPI then (c, [.returned .generalFailure])
  else if c.mSessionBiDict.hasId id then
    let (entity, dict) := c.mSessionBiDict.getExtById .zero id
    let c := { c with mSessionBiDict := dict }
    if entity.sessionMode ≠ .onFix then
      ((c.await entity.batchingSession (some (c.newRequest .getBatchedLocations))).pushRequest
        .session .getBatchedLocations,
        [.api (.getBatchedLocations entity.batchingSession count), .returned .success])
    else (c, [.returned .notSupported])
  else (c, [.returned .idUnknown])

/-- `onResponseCb` for the call that is answered. -/
def onResponseCb (call : Awaited) (error : LocationError) : LocationAPIClientBase × List Output :=
  let (request, c') := c.getRequestBySession call.session
  let answer := Output.answered call.session (c.mSessionBiDict.hasSession call.session) call.request
    request
  match request with
  | none => (c', [answer])
  | some request =>
    let result := c'.onResponse request error call.session
    (result.1, answer :: result.2)

/-- A session that `LocationAPI` may give out. -/
def Fresh (session : ℕ) : Prop := session ≠ 0 ∧ session ∉ c.issued

instance (session : ℕ) : Decidable (c.Fresh session) := inferInstanceAs (Decidable (_ ∧ _))

def sessionStep : SessionEvent → Option (LocationAPIClientBase × List Output)
  | .locAPIStartSession id sessionMode options session =>
    if c.Fresh session then some (c.locAPIStartSession id sessionMode options session) else none
  | .locAPIStopSession id => some (c.locAPIStopSession id)
  | .locAPIUpdateSessionOptions id sessionMode options session =>
    if c.Fresh session then some (c.locAPIUpdateSessionOptions id sessionMode options session)
    else none
  | .locAPIGetBatchedLocations id count => some (c.locAPIGetBatchedLocations id count)
  | .onResponseCb i error =>
    match c.awaiting[i]? with
    | none => none
    | some call =>
      -- the answers for a session come in the order of its calls
      if ∀ earlier ∈ c.awaiting.take i, earlier.session ≠ call.session then
        some ({ c with awaiting := c.awaiting.eraseIdx i }.onResponseCb call error)
      else none

end Sessions

/-! ## Trips -/

/-- The trips of the list that are known and run, with the dictionary without them. -/
def completeTrips : List ℕ → BiDict SessionEntity → List ℕ × BiDict SessionEntity
  | [], d => ([], d)
  | session :: sessions, d =>
    let entity := d.getExtBySession .zero session
    if d.hasSession session ∧ entity.sessionMode = .onTripCompleted then
      let (ids, d) := completeTrips sessions (d.rmBySession session)
      (entity.id :: ids, d)
    else completeTrips sessions d

def beforeBatchingStatusCb (c : LocationAPIClientBase) (tripCompleted : Bool)
    (tripCompletedList : List ℕ) : LocationAPIClientBase × List Output :=
  if tripCompleted then
    let (ids, dict) := completeTrips tripCompletedList c.mSessionBiDict
    ({ c with mSessionBiDict := dict }, [.onBatchingStatusCb ids])
  else (c, [.onBatchingStatusCb []])

/-! ## Geofences -/

section Geofences

variable (c : LocationAPIClientBase)

/-- `GEOFENCE_SESSION_ID` -/
def geofenceSessionId : ℕ := 0xFFFFFFFF

/-- The loop of `locAPIAddGeofences`. -/
def setGeofences : List ((ℕ × ℕ) × ℕ) → BiDict ℕ → BiDict ℕ
  | [], d => d
  | ((id, breachTypeMask), session) :: rest, d =>
    setGeofences rest (d.set id session breachTypeMask)

def locAPIAddGeofences (geofences : List (ℕ × ℕ)) (sessions : Option (List ℕ)) :
    LocationAPIClientBase × List Output :=
  if !c.mLocationAPI then (c, [.returned .generalFailure])
  else
    let c :=
      if (c.mRequestQueues .geofence).mSession ≠ geofenceSessionId then
        c.modifyQueue .geofence fun q ↦ q.reset geofenceSessionId
      else c
    let call := Output.api (.addGeofences (geofences.map Prod.snd))
    match sessions with
    | none => (c, [call, .returned .generalFailure])
    | some sessions =>
      ({ c.pushRequest .geofence .addGeofences with
          mGeofenceBiDict := setGeofences (geofences.zip sessions) c.mGeofenceBiDict
          issued := sessions ++ c.issued },
        [call, .returned .success])

/-- The loop over ids of which only those with a session count: the sessions, and the dictionary
after `f` has been called for each of them. -/
def forKnown {α : Type} (f : BiDict ℕ → ℕ → ℕ → α → BiDict ℕ) :
    List (ℕ × α) → BiDict ℕ → List ℕ × BiDict ℕ
  | [], d => ([], d)
  | (id, x) :: rest, d =>
    let session := d.getSession id
    if session > 0 then
      let (sessions, d) := forKnown f rest (f d id session x)
      (session :: sessions, d)
    else forKnown f rest d

/-- What the calls for geofences do that have been added. -/
def callGeofences {α : Type} (kind : RequestKind) (call : List ℕ → ApiCall)
    (f : BiDict ℕ → ℕ → ℕ → α → BiDict ℕ) (geofences : List (ℕ × α)) :
    LocationAPIClientBase × List Output :=
  if c.mLocationAPI && (c.mRequestQueues .geofence).mSession = geofenceSessionId then
    let (sessions, dict) := forKnown f geofences c.mGeofenceBiDict
    let c := { c with mGeofenceBiDict := dict }
    if sessions = [] then (c, []) else (c.pushRequest .geofence kind, [.api (call sessions)])
  else (c, [])

def locAPIRemoveGeofences (ids : List ℕ) : LocationAPIClientBase × List Output :=
  c.callGeofences .removeGeofences .removeGeofences (fun d _ session _ ↦ d.rmBySession session)
    (ids.map fun id ↦ (id, ()))

def locAPIModifyGeofences (geofences : List (ℕ × ℕ)) : LocationAPIClientBase × List Output :=
  c.callGeofences .modifyGeofences (.modifyGeofences · (geofences.map Prod.snd))
    (fun d id session breachTypeMask ↦ d.set id session breachTypeMask) geofences

def locAPIPauseGeofences (ids : List ℕ) : LocationAPIClientBase × List Output :=
  c.callGeofences .pauseGeofences .pauseGeofences (fun d _ _ _ ↦ d) (ids.map fun id ↦ (id, ()))

def locAPIResumeGeofences (geofences : List (ℕ × Option ℕ)) : LocationAPIClientBase × List Output :=
  c.callGeofences .resumeGeofences .resumeGeofences
    (fun d id session mask ↦
      match mask with
      | none => d
      | some mask => d.set id session mask) geofences

/-- The sessions are handed over where ids are meant. -/
def locAPIRemoveAllGeofences : LocationAPIClientBase × List Output :=
  if c.mGeofenceBiDict.getAllSessions = [] then (c, [])
  else c.locAPIRemoveGeofences c.mGeofenceBiDict.getAllSessions

/-- `LocationAPI` gives out one session for each geofence, none of them used before. -/
def FreshSessions (geofences : List (ℕ × ℕ)) (sessions : Option (List ℕ)) : Prop :=
  ∀ sessions' ∈ sessions, sessions'.length = geofences.length ∧ sessions'.Nodup ∧
    ∀ session ∈ sessions', c.Fresh session

instance (geofences : List (ℕ × ℕ)) (sessions : Option (List ℕ)) :
    Decidable (c.FreshSessions geofences sessions) :=
  inferInstanceAs (Decidable (∀ sessions' ∈ sessions, _))

end Geofences

def step (c : LocationAPIClientBase) : Event → Option (LocationAPIClientBase × List Output)
  | .session e => c.sessionStep e
  | .batchingStatusCb tripCompleted tripCompletedList =>
    some (c.beforeBatchingStatusCb tripCompleted tripCompletedList)
  | .locAPIAddGeofences geofences sessions =>
    if c.FreshSessions geofences sessions then some (c.locAPIAddGeofences geofences sessions)
    else none
  | .locAPIRemoveGeofences ids => some (c.locAPIRemoveGeofences ids)
  | .locAPIModifyGeofences geofences => some (c.locAPIModifyGeofences geofences)
  | .locAPIPauseGeofences ids => some (c.locAPIPauseGeofences ids)
  | .locAPIResumeGeofences geofences => some (c.locAPIResumeGeofences geofences)
  | .locAPIRemoveAllGeofences => some c.locAPIRemoveAllGeofences

/-- The client that the constructor makes. -/
def initial (mLocationAPI : Bool) : LocationAPIClientBase where
  mLocationAPI := mLocationAPI
  mRequestQueues := fun _ ↦ .initial
  mGeofenceBiDict := .empty
  mSessionBiDict := .empty
  requests := 0
  issued := []
  awaiting := []

end LocationAPIClientBase

end MataDevice.Client
