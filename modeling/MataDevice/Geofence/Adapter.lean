import MataDevice.Lib.History
import MataDevice.Tracking.Adapter

/-!
# The geofences of the geofence adapter

`GeofenceAdapter` keeps two maps: `mGeofences` from the hardware ids the engine has given out to the
geofences, and `mGeofenceIds` from the keys of the clients to the hardware ids.

A command goes through the queue of the engine interface twice. For each item `addToCallQueue` puts
a call in it that only comes back to the adapter, which then looks the key up and puts the request
itself in it. The interface takes one after the other, and what it sends back to the adapter is
handled in the same order, so that both ways are one queue: its first entry is the next to come
back, with the answer of the engine. In between anything else may happen, the engine restarting
included, which then holds no geofence any more. The callbacks of the requests are lambdas in the
source; here they are the constructors of `Pending` with what each lambda captures.
-/

namespace MataDevice.Geofence

open MataDevice.Tracking (LocationAPI LocationError EngineLockState)

/-! ## Data types -/

structure GeofenceKey where
  client : LocationAPI
  id : ℕ
  deriving DecidableEq, Repr

/-- The order of `mGeofenceIds`: by id, then by client. -/
def GeofenceKey.rank (key : GeofenceKey) : ℕ ×ₗ ℕ := toLex (key.id, key.client)

theorem GeofenceKey.rank_injective : Function.Injective GeofenceKey.rank := by
  rintro ⟨c, i⟩ ⟨c', i'⟩ h
  obtain ⟨rfl, rfl⟩ := Prod.mk.inj (congrArg ofLex h)
  rfl

instance : LinearOrder GeofenceKey := LinearOrder.lift' _ GeofenceKey.rank_injective

structure GeofenceOption where
  breachTypeMask : ℕ
  responsiveness : ℕ
  dwellTime : ℕ
  deriving DecidableEq, Repr

/-- Coordinates are copied only. A double is its 64 bits. -/
structure GeofenceInfo where
  latitude : UInt64
  longitude : UInt64
  radius : UInt64
  deriving DecidableEq, Repr

structure GeofenceObject where
  key : GeofenceKey
  breachMask : ℕ
  responsiveness : ℕ
  dwellTime : ℕ
  latitude : UInt64
  longitude : UInt64
  radius : UInt64
  paused : Bool
  deriving DecidableEq, Repr

/-- What `saveGeofenceItem` makes of the arguments of an add request. -/
def GeofenceObject.make (key : GeofenceKey) (options : GeofenceOption) (info : GeofenceInfo) :
    GeofenceObject :=
  ⟨key, options.breachTypeMask, options.responsiveness, options.dwellTime, info.latitude,
    info.longitude, info.radius, false⟩

namespace GeofenceObject

variable (object : GeofenceObject)

def options : GeofenceOption := ⟨object.breachMask, object.responsiveness, object.dwellTime⟩

def info : GeofenceInfo := ⟨object.latitude, object.longitude, object.radius⟩

end GeofenceObject

/-- What is in the queue of the engine interface, with what its callback captures. -/
inductive Pending
  | callAdd (key : GeofenceKey) (options : GeofenceOption) (info : GeofenceInfo)
  | callRemove (key : GeofenceKey)
  | callPause (key : GeofenceKey)
  | callResume (key : GeofenceKey)
  | callModify (key : GeofenceKey) (options : GeofenceOption)
  | add (key : GeofenceKey) (options : GeofenceOption) (info : GeofenceInfo)
  | remove (hwId id : ℕ)
  | pause (hwId id : ℕ)
  | resume (hwId id : ℕ)
  | modify (hwId id : ℕ) (options : GeofenceOption)
  /-- The `removeGeofence` of `stopClientSessions`. -/
  | stopRemove (hwId id : ℕ)
  /-- The `addGeofence` of `restartGeofences`. -/
  | restartAdd (object : GeofenceObject)
  /-- The `pauseGeofence` of `restartGeofences`. -/
  | restartPause (hwId id : ℕ)
  deriving DecidableEq, Repr

/-- The requests to the engine. -/
inductive Request
  | addGeofence (id : ℕ) (options : GeofenceOption) (info : GeofenceInfo)
  | removeGeofence (hwId id : ℕ)
  | pauseGeofence (hwId id : ℕ)
  | resumeGeofence (hwId id : ℕ)
  | modifyGeofence (hwId id : ℕ) (options : GeofenceOption)
  deriving DecidableEq, Repr

/-- The request to the engine, if the entry of the queue is one. -/
def Pending.request : Pending → Option Request
  | .callAdd .. | .callRemove _ | .callPause _ | .callResume _ | .callModify .. => none
  | .add key options info => some (.addGeofence key.id options info)
  | .remove hwId id | .stopRemove hwId id => some (.removeGeofence hwId id)
  | .pause hwId id | .restartPause hwId id => some (.pauseGeofence hwId id)
  | .resume hwId id => some (.resumeGeofence hwId id)
  | .modify hwId id options => some (.modifyGeofence hwId id options)
  | .restartAdd object => some (.addGeofence object.key.id object.options object.info)

/-- The entry asks the engine for a new geofence. -/
def Pending.Adds : Pending → Prop
  | .add .. | .restartAdd _ => True
  | _ => False

instance : ∀ entry : Pending, Decidable entry.Adds
  | .add .. | .restartAdd _ => inferInstanceAs (Decidable True)
  | .callAdd .. | .callRemove _ | .callPause _ | .callResume _ | .callModify .. | .remove .. |
    .pause .. | .resume .. | .modify .. | .stopRemove .. | .restartPause .. =>
    inferInstanceAs (Decidable False)

inductive Event
  /-- `addGeofencesCommand`, with the ids it has generated. An array may be missing. -/
  | addGeofences (client : LocationAPI) (ids : List ℕ) (options : Option (List GeofenceOption))
    (infos : Option (List GeofenceInfo))
  | removeGeofences (client : LocationAPI) (ids : List ℕ)
  | pauseGeofences (client : LocationAPI) (ids : List ℕ)
  | resumeGeofences (client : LocationAPI) (ids : List ℕ)
  | modifyGeofences (client : LocationAPI) (ids : List ℕ) (options : Option (List GeofenceOption))
  | stopClientSessions (client : LocationAPI)
  /-- The engine starts anew, without geofences. -/
  | engineReset
  /-- `handleEngineUpEvent`. -/
  | engineUp (lock : EngineLockState)
  /-- The first entry of the queue comes back, with the answer of the engine if it was a request, in
  the state of the engine lock at that time. -/
  | answer (lock : EngineLockState) (err : LocationError) (hwId : ℕ)
  deriving DecidableEq, Repr

structure GeofenceAdapter where
  mGeofences : OrderedMap ℕ GeofenceObject
  mGeofenceIds : OrderedMap GeofenceKey ℕ
  /-- What has been sent to the engine interface and has not come back. -/
  queue : List Pending
  /-- The hardware ids of the geofences the engine holds. -/
  engine : List ℕ

namespace GeofenceAdapter

def initial : GeofenceAdapter := ⟨.empty, .empty, [], []⟩

variable (s : GeofenceAdapter)

/-! ## The items -/

def getHwIdFromClient (key : GeofenceKey) : Option ℕ := s.mGeofenceIds.find? key

def getGeofenceKeyFromHwId (hwId : ℕ) : Option GeofenceKey :=
  (s.mGeofences.find? hwId).map (·.key)

def saveGeofenceItem (key : GeofenceKey) (hwId : ℕ) (options : GeofenceOption)
    (info : GeofenceInfo) : GeofenceAdapter :=
  { s with
    mGeofences := s.mGeofences.insert hwId (.make key options info)
    mGeofenceIds := s.mGeofenceIds.insert key hwId }

def removeGeofenceItem (hwId : ℕ) : GeofenceAdapter :=
  match s.getGeofenceKeyFromHwId hwId with
  | none => s
  | some key =>
    match s.mGeofenceIds.find? key with
    | some _ =>
      { s with mGeofences := s.mGeofences.erase hwId, mGeofenceIds := s.mGeofenceIds.erase key }
    | none => s

/-- `it->second` changed in place. -/
def updateGeofenceItem (hwId : ℕ) (f : GeofenceObject → GeofenceObject) : GeofenceAdapter :=
  match s.mGeofences.find? hwId with
  | some object => { s with mGeofences := s.mGeofences.insert hwId (f object) }
  | none => s

def pauseGeofenceItem (hwId : ℕ) : GeofenceAdapter :=
  s.updateGeofenceItem hwId ({ · with paused := true })

def resumeGeofenceItem (hwId : ℕ) : GeofenceAdapter :=
  s.updateGeofenceItem hwId ({ · with paused := false })

def modifyGeofenceItem (hwId : ℕ) (options : GeofenceOption) : GeofenceAdapter :=
  s.updateGeofenceItem hwId ({ · with
    breachMask := options.breachTypeMask
    responsiveness := options.responsiveness
    dwellTime := options.dwellTime })

/-! ## Commands and callbacks -/

/-- Send to the engine interface. -/
def send (entries : List Pending) : GeofenceAdapter × List Request :=
  ({ s with queue := s.queue ++ entries }, entries.filterMap Pending.request)

/-- The entries of the client are taken out of `mGeofenceIds` at once, and out of `mGeofences` when
the engine has removed them. -/
def stopClientSessions (client : LocationAPI) : GeofenceAdapter × List Request :=
  let removed := s.mGeofenceIds.entries.filter (·.1.client = client)
  { s with mGeofenceIds := s.mGeofenceIds.filter (¬·.1.client = client) }.send
    (removed.map fun e : GeofenceKey × ℕ ↦ .stopRemove e.2 e.1.id)

def restartGeofences : GeofenceAdapter × List Request :=
  if s.mGeofences.isEmpty then (s, [])
  else
    { s with mGeofences := .empty, mGeofenceIds := .empty }.send
      (s.mGeofences.values.map .restartAdd)

/-- The guard of the callbacks that change the items also when the engine lock is disabled. -/
def Accepted (lock : EngineLockState) (err : LocationError) : Prop :=
  lock = .disabled ∨ err = .success

instance (lock : EngineLockState) (err : LocationError) : Decidable (Accepted lock err) :=
  inferInstanceAs (Decidable (_ ∨ _))

/-- The request for a key that is looked up, if it is known. -/
def lookup (key : GeofenceKey) (entry : ℕ → Pending) : GeofenceAdapter × List Request :=
  match s.getHwIdFromClient key with
  | some hwId => s.send [entry hwId]
  | none => (s, [])

/-- What the callbacks do. -/
def handle (lock : EngineLockState) (err : LocationError) (hwId : ℕ) :
    Pending → GeofenceAdapter × List Request
  | .callAdd key options info => s.send [.add key options info]
  | .callRemove key => s.lookup key (.remove · key.id)
  | .callPause key => s.lookup key (.pause · key.id)
  | .callResume key => s.lookup key (.resume · key.id)
  | .callModify key options => s.lookup key (.modify · key.id options)
  | .add key options info =>
    (if Accepted lock err then s.saveGeofenceItem key hwId options info else s, [])
  | .remove hwId' _ => (if Accepted lock err then s.removeGeofenceItem hwId' else s, [])
  | .pause hwId' _ => (if err = .success then s.pauseGeofenceItem hwId' else s, [])
  | .resume hwId' _ => (if err = .success then s.resumeGeofenceItem hwId' else s, [])
  | .modify hwId' _ options =>
    (if Accepted lock err then s.modifyGeofenceItem hwId' options else s, [])
  | .stopRemove hwId' _ =>
    (if err = .success then { s with mGeofences := s.mGeofences.erase hwId' } else s, [])
  | .restartAdd object =>
    if err = .success then
      let (s', requests) :=
        if object.paused then s.send [.restartPause hwId object.key.id] else (s, [])
      (s'.saveGeofenceItem object.key hwId object.options object.info, requests)
    else (s, [])
  | .restartPause .. => (s, [])

/-- The geofences the engine holds after it has answered. -/
def engineAfter (engine : List ℕ) (err : LocationError) (hwId : ℕ) : Pending → List ℕ
  | .add .. | .restartAdd _ => if err = .success then hwId :: engine else engine
  | .remove hwId' _ | .stopRemove hwId' _ => if err = .success then engine.erase hwId' else engine
  | _ => engine

/-- A step. Nothing comes back from an empty queue, and the engine does not give out a hardware id
it already uses. -/
def step : Event → Option (GeofenceAdapter × List Request)
  | .addGeofences client ids (some options) (some infos) =>
    some (s.send ((ids.zip (options.zip infos)).map fun e ↦ .callAdd ⟨client, e.1⟩ e.2.1 e.2.2))
  | .addGeofences _ _ _ _ => some (s, [])
  | .removeGeofences client ids => some (s.send (ids.map fun id ↦ .callRemove ⟨client, id⟩))
  | .pauseGeofences client ids => some (s.send (ids.map fun id ↦ .callPause ⟨client, id⟩))
  | .resumeGeofences client ids => some (s.send (ids.map fun id ↦ .callResume ⟨client, id⟩))
  | .modifyGeofences client ids (some options) =>
    some (s.send ((ids.zip options).map fun e ↦ .callModify ⟨client, e.1⟩ e.2))
  | .modifyGeofences _ _ none => some (s, [])
  | .stopClientSessions client => some (s.stopClientSessions client)
  | .engineReset => some ({ s with engine := [] }, [])
  | .engineUp lock => some (if lock = .enabled then s.restartGeofences else (s, []))
  | .answer lock err hwId =>
    match s.queue with
    | [] => none
    | entry :: queue =>
      if entry.Adds ∧ err = .success ∧ hwId ∈ s.engine then none
      else
        some ({ s with queue := queue, engine := engineAfter s.engine err hwId entry }.handle lock
          err hwId entry)

/-- The id under which a client is told of a hardware id, in the inner loop of `geofenceBreach`. -/
def breachId (client : LocationAPI) (hwId : ℕ) : Option ℕ :=
  match s.getGeofenceKeyFromHwId hwId with
  | some key => if key.client = client then some key.id else none
  | none => none

/-- `geofenceBreach`: the ids each client is told. `mClientData` says whether the client has a
`geofenceBreachCb`. -/
def geofenceBreach (mClientData : OrderedMap LocationAPI Bool) (hwIds : List ℕ) :
    List (LocationAPI × List ℕ) :=
  mClientData.entries.filterMap fun (client, geofenceBreachCb) ↦
    let clientIds := hwIds.filterMap (s.breachId client)
    if clientIds ≠ [] ∧ geofenceBreachCb then some (client, clientIds) else none

end GeofenceAdapter

end MataDevice.Geofence
