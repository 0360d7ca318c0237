import MataDevice.HalDaemon.Service

/-!
# Clients that are purged while they are served

What the HAL daemon has for a client it sends from the handler of the client. If the send fails, the
client is deleted there and then, by the handler that is still being served. A handler is live, or it
has been cleaned up: that of a location client then waits for its `LocationAPI` object to be
destroyed, that of an integration client is deleted at once. A handler that is not live must not be
used again, and a walk through the clients must not go on from a client that has been erased; both
are errors here.

The handlers are kept by the pointers to them, so that a pointer that was taken before a send can be
used after it. What the sends come to is given by the name of the client and the message: each
callback sends a message to a client once at most.
-/

namespace MataDevice.HalDaemon

open List
open MataDevice.Tracking (LocationError)
open MataDevice.Batching (BatchingMode)
open Option (some_inj)
open OrderedMap (find?_insert find?_eq_some_iff)

/-! ## Data types -/

inductive OutputEngine
  | fused
  | spe
  | ppe
  | vpe
  deriving DecidableEq, Repr

/-- The requests of the integration clients that are answered through `mConfigReqs`; four of them
are answered with a configuration, too. -/
inductive ConfigMsgID
  | getRobustLocationConfig
  | getMinGpsWeek
  | getMinSvElevation
  | getConstellationSecondaryBandConfig
  | other (msgId : ℕ)
  deriving DecidableEq, Repr

/-- The flags of a `GnssConfig` that say which of its parts are there. -/
structure GnssConfigFlags where
  robustLocation : Bool
  minGpsWeek : Bool
  minSvElevation : Bool
  constellationSecondaryBand : Bool
  deriving DecidableEq, Repr

/-- The messages to a client. -/
inductive ClientMsg
  | capabilities (mask : ℕ)
  | location
  | batching (count : ℕ)
  | tripCompleted
  | geofenceBreach (count : ℕ)
  | locationInfo
  | engineLocationsInfo (engines : List OutputEngine)
  | satelliteVehicle
  | nmea
  | data
  | meas
  | locationSystemInfo
  | gnssEnergyConsumed
  | genericResp (msgId : ConfigMsgID) (err : LocationError)
  | configResp (msgId : ConfigMsgID)
  deriving DecidableEq, Repr

/-- What becomes of a message. -/
inductive SendOutcome
  /-- It could not be serialized, and is not sent. -/
  | notSerialized
  | sent
  | failed
  deriving DecidableEq, Repr

inductive HandlerState
  | live
  /-- Cleaned up, until the `LocationAPI` object is destroyed. -/
  | destroying
  | deleted
  deriving DecidableEq, Repr

/-- A client handler, with what decides what its client is sent. -/
structure ReportHandler where
  mName : SocketName
  state : HandlerState
  /-- Whether it has a `LocationAPI` object; those of integration clients have none. -/
  mLocationApi : Bool
  mIpcSender : Bool
  mSubscriptionMask : CallbacksMask
  mCapabilityMask : ℕ
  /-- `E_ENGINE_INFO_CB_GNSS_ENERGY_CONSUMED_BIT`, the only bit of `mEngineInfoRequestMask`. -/
  gnssEnergyConsumed : Bool
  mBatchingMode : BatchingMode
  locReqEngTypeMask : Finset OutputEngine

abbrev HandlerPtr : Type := ℕ

structure ConfigReqClientData where
  clientName : SocketName
  configMsgId : ConfigMsgID
  deriving DecidableEq, Repr

/-- The service, the handlers there were, and what has been delivered. -/
structure ReportService where
  mClients : OrderedMap SocketName HandlerPtr
  mConfigReqs : OrderedMap ℕ ConfigReqClientData
  mTerrestrialFixReqs : List SocketName
  handlers : OrderedMap HandlerPtr ReportHandler
  delivered : List (SocketName × ClientMsg)

/-- What the model takes for an error. -/
inductive PurgeError
  /-- A handler is used that has been cleaned up. -/
  | removedHandler
  /-- A walk goes on from an element that has been erased. -/
  | erasedElement
  deriving DecidableEq, Repr

/-- The outcomes of the sends. -/
abbrev Sends : Type := SocketName → ClientMsg → SendOutcome

/-! ## The reports to one client -/

/-- What a callback of a handler sends, and what it changes in the handler. -/
structure ClientReport where
  wanted : ReportHandler → Option ClientMsg
  update : SendOutcome → ReportHandler → ReportHandler := fun _ h ↦ h
  keeps : ∀ outcome h, (update outcome h).mName = h.mName ∧
    (update outcome h).state = h.state ∧ (update outcome h).mIpcSender = h.mIpcSender := by
      exact fun _ _ ↦ ⟨rfl, rfl, rfl⟩

/-- A report that goes to those who have subscribed to it. -/
def ClientReport.subscribed (bit : CallbackBit) (msg : ClientMsg) : ClientReport where
  wanted h := if bit ∈ h.mSubscriptionMask then some msg else none

def onCapabilitiesCallback (mask : ℕ) : ClientReport where
  wanted h := if mask ≠ h.mCapabilityMask then some (.capabilities mask) else none
  update _ h := { h with mCapabilityMask := mask }

def onTrackingCb : ClientReport := .subscribed .distanceBasedTracking .location

def onBatchingCb (count : ℕ) : ClientReport where
  wanted h := if .batching ∈ h.mSubscriptionMask ∧ count ≠ 0 then some (.batching count) else none

/-- `tripCompleted` is whether the status is `BATCHING_STATUS_TRIP_COMPLETED`. -/
def onBatchingStatusCb (tripCompleted : Bool) : ClientReport where
  wanted h :=
    if .batchingStatus ∈ h.mSubscriptionMask ∧ h.mBatchingMode = .trip ∧ tripCompleted then
      some .tripCompleted
    else none

def onGeofenceBreachCb (count : ℕ) : ClientReport where
  wanted h :=
    if .geofenceBreach ∈ h.mSubscriptionMask ∧ count ≠ 0 then some (.geofenceBreach count) else none

def onGnssLocationInfoCb : ClientReport where
  wanted h :=
    if .gnssLocationInfo ∈ h.mSubscriptionMask then some .locationInfo
    else if .simpleLocationInfo ∈ h.mSubscriptionMask then some .location
    else none

/-- Of the locations those are sent whose engines the client has asked for. -/
def onEngLocationsInfoCb (engines : List OutputEngine) : ClientReport where
  wanted h :=
    if .engineLocationsInfo ∈ h.mSubscriptionMask then
      let reported := engines.filter (· ∈ h.locReqEngTypeMask)
      if reported ≠ [] then some (.engineLocationsInfo reported) else none
    else none

def onGnssSvCb : ClientReport := .subscribed .gnssSv .satelliteVehicle

def onGnssNmeaCb : ClientReport := .subscribed .gnssNmea .nmea

def onGnssDataCb : ClientReport := .subscribed .gnssData .data

def onGnssMeasurementsCb : ClientReport := .subscribed .gnssMeas .meas

def onLocationSystemInfoCb : ClientReport := .subscribed .systemInfo .locationSystemInfo

/-- The request is taken back once the message is serialized, whether it can be sent or not. -/
def onGnssEnergyConsumedInfoAvailable : ClientReport where
  wanted h := if h.gnssEnergyConsumed then some .gnssEnergyConsumed else none
  update
    | .notSerialized, h => h
    | .sent, h | .failed, h => { h with gnssEnergyConsumed := false }
  keeps outcome h := by cases outcome <;> exact ⟨rfl, rfl, rfl⟩

def onControlResponseCb (err : LocationError) (msgId : ConfigMsgID) : ClientReport where
  wanted _ := some (.genericResp msgId err)

/-- Without its flag a configuration leaves the buffer empty, and nothing is sent. -/
def onGnssConfigCb (configMsgId : ConfigMsgID) (flags : GnssConfigFlags) : ClientReport where
  wanted _ :=
    let isThere := match configMsgId with
      | .getRobustLocationConfig => flags.robustLocation
      | .getMinGpsWeek => flags.minGpsWeek
      | .getMinSvElevation => flags.minSvElevation
      | .getConstellationSecondaryBandConfig => flags.constellationSecondaryBand
      | .other _ => false
    if isThere then some (.configResp configMsgId) else none

/-! ## The service -/

/-- A location client waits for its `LocationAPI` object, an integration client does not. -/
def ReportHandler.cleanup (h : ReportHandler) : ReportHandler :=
  { h with
    mIpcSender := false
    mLocationApi := false
    state := if h.mLocationApi then .destroying else .deleted }

namespace ReportService

variable (s : ReportService)

def setHandler (p : HandlerPtr) (h : ReportHandler) : ReportService :=
  { s with handlers := s.handlers.insert p h }

/-- What stands behind a pointer, if it may still be used. -/
def handler (p : HandlerPtr) : Except PurgeError ReportHandler :=
  match s.handlers.find? p with
  | none => .error .removedHandler
  | some h => if h.state = .live then .ok h else .error .removedHandler

def deleteClientbyName (name : SocketName) : ReportService :=
  match s.mClients.find? name with
  | none => s
  | some p =>
    { s with
      mClients := s.mClients.erase name
      mTerrestrialFixReqs := s.mTerrestrialFixReqs.filter (· ≠ name)
      handlers := match s.handlers.find? p with
        | none => s.handlers
        | some h => s.handlers.insert p h.cleanup }

/-- A message is sent, and its client purged if that fails. -/
def sendMessage (rc : Sends) (name : SocketName) (msg : ClientMsg) : ReportService :=
  match rc name msg with
  | .notSerialized => s
  | .sent => { s with delivered := s.delivered ++ [(name, msg)] }
  | .failed => s.deleteClientbyName name

/-- A callback of the handler behind a pointer. -/
def report (rc : Sends) (r : ClientReport) (p : HandlerPtr) : Except PurgeError ReportService :=
  match s.handler p with
  | .error err => .error err
  | .ok h =>
    match if h.mIpcSender then r.wanted h else none with
    | none => .ok s
    | some msg =>
      .ok ((s.setHandler p (r.update (rc h.mName msg) h)).sendMessage rc h.mName msg)

def onControlResponseCallback (rc : Sends) (err : LocationError) (sessionId : ℕ) :
    Except PurgeError ReportService :=
  match s.mConfigReqs.find? sessionId with
  | none => .ok s
  | some configReqData => do
    let s ← match s.mClients.find? configReqData.clientName with
      | none => .ok s
      | some p => s.report rc (onControlResponseCb err configReqData.configMsgId) p
    .ok { s with mConfigReqs := s.mConfigReqs.erase sessionId }

def onControlCollectiveResponseCallback (rc : Sends) (errs : List (LocationError × ℕ)) :
    Except PurgeError ReportService :=
  match errs with
  | [(err, sessionId)] => s.onControlResponseCallback rc err sessionId
  | _ => .ok s

/-- The pointer that the response was sent through is used once more for the configuration. -/
def onGnssConfigCallback (rc : Sends) (sessionId : ℕ) (flags : GnssConfigFlags) :
    Except PurgeError ReportService :=
  match s.mConfigReqs.find? sessionId with
  | none => .ok s
  | some configReqData => do
    let s ← match s.mClients.find? configReqData.clientName with
      | none => .ok s
      | some p => do
        let s ← s.report rc (onControlResponseCb .success configReqData.configMsgId) p
        s.report rc (onGnssConfigCb configReqData.configMsgId flags) p
    .ok { s with mConfigReqs := s.mConfigReqs.erase sessionId }

/-- The rest of a walk through the clients. It goes on from the element it is at. -/
def energyWalk (rc : Sends) : List (SocketName × HandlerPtr) → ReportService →
    Except PurgeError ReportService
  | [], s => .ok s
  | each :: rest, s => do
    let s ← s.report rc onGnssEnergyConsumedInfoAvailable each.2
    if s.mClients.find? each.1 = none then .error .erasedElement else energyWalk rc rest s

/-- `walk` is the map in the order it is walked through. -/
def onGnssEnergyConsumedCb (rc : Sends) (walk : List (SocketName × HandlerPtr)) :
    Except PurgeError ReportService :=
  energyWalk rc walk s

end ReportService

/-! ## One report -/

/-- The message that a callback sends to the client of a handler. -/
def ClientReport.msgTo (r : ClientReport) (h : ReportHandler) : Option ClientMsg :=
  if h.mIpcSender then r.wanted h else none

namespace ReportService

/-- The handlers of the clients are live, and each is that of its own client. -/
def WellFormed (s : ReportService) : Prop :=
  ∀ name p, s.mClients.find? name = some p →
    ∃ h, s.handlers.find? p = some h ∧ h.state = .live ∧ h.mName = name

variable {s s' : ReportService} {rc : Sends} {r : ClientReport} {name name' : SocketName}
  {p p' : HandlerPtr} {h : ReportHandler} {msg : ClientMsg} {sessionId : ℕ}

theorem WellFormed.setHandler (hs : s.WellFormed) (hp : s.mClients.find? name = some p)
    (hlive : h.state = .live) (hname : h.mName = name) : (s.setHandler p h).WellFormed := by
  intro name' p' hp'
  change s.mClients.find? name' = some p' at hp'
  change ∃ h', (s.handlers.insert p h).find? p' = some h' ∧ _
  rw [find?_insert]
  split
  · next heq =>
    -- a pointer belongs to one name only
    obtain ⟨h₁, hfind, -, rfl⟩ := hs name' p' hp'
    obtain ⟨h₂, hfind', -, hname₂⟩ := hs name p hp
    rw [heq, hfind'] at hfind
    obtain rfl := some_inj.mp hfind
    exact ⟨h, rfl, hlive, hname.trans hname₂.symm⟩
  · exact hs name' p' hp'

theorem WellFormed.ne_ptr (hs : s.WellFormed) (hp : s.mClients.find? name = some p)
    (hp' : s.mClients.find? name' = some p') (hne : name' ≠ name) : p' ≠ p := by
  rintro rfl
  obtain ⟨h, hh, -, rfl⟩ := hs name p' hp
  obtain ⟨h', hh', -, rfl⟩ := hs name' p' hp'
  rw [hh] at hh'
  obtain rfl := some_inj.mp hh'
  exact hne rfl

theorem find?_mClients_deleteClientbyName (name' : SocketName) :
    (s.deleteClientbyName name).mClients.find? name' =
      if name' = name then none else s.mClients.find? name' := by
  rw [deleteClientbyName]
  split
  · next hnone =>
    split
    · next heq => rw [heq, hnone]
    · rfl
  · exact OrderedMap.find?_erase name'

theorem handlers_deleteClientbyName (hp : s.mClients.find? name = some p) (hne : p' ≠ p) :
    (s.deleteClientbyName name).handlers.find? p' = s.handlers.find? p' := by
  simp only [deleteClientbyName, hp]
  split
  · rfl
  · rw [find?_insert, if_neg hne]

/-- The handler of a client that was deleted must not be used any more. -/
theorem handler_deleteClientbyName (hp : s.mClients.find? name = some p) :
    (s.deleteClientbyName name).handler p = .error .removedHandler := by
  cases hh : s.handlers.find? p with
  | none => simp [deleteClientbyName, handler, hp, hh]
  | some h =>
    have hstate : h.cleanup.state ≠ .live := by
      rw [ReportHandler.cleanup]
      split <;> simp
    simp [deleteClientbyName, handler, hp, hh, find?_insert, hstate]

@[simp] theorem delivered_deleteClientbyName :
    (s.deleteClientbyName name).delivered = s.delivered := by
  rw [deleteClientbyName]
  split <;> rfl

@[simp] theorem mConfigReqs_deleteClientbyName :
    (s.deleteClientbyName name).mConfigReqs = s.mConfigReqs := by
  rw [deleteClientbyName]
  split <;> rfl

theorem WellFormed.deleteClientbyName (hs : s.WellFormed) (hp : s.mClients.find? name = some p) :
    (s.deleteClientbyName name).WellFormed := by
  intro name' p' hp'
  rw [find?_mClients_deleteClientbyName] at hp'
  split at hp'
  · cases hp'
  · next hne =>
    rw [handlers_deleteClientbyName hp (hs.ne_ptr hp hp' hne)]
    exact hs name' p' hp'

/-- A service that has no clients. -/
def init (mConfigReqs : OrderedMap ℕ ConfigReqClientData) : ReportService :=
  ⟨.empty, mConfigReqs, [], .empty, []⟩

theorem wellFormed_init (mConfigReqs : OrderedMap ℕ ConfigReqClientData) :
    (init mConfigReqs).WellFormed := by
  intro name p hp
  cases hp

/-- A client registers; its handler is a new one. -/
def newClient (s : ReportService) (p : HandlerPtr) (h : ReportHandler) : ReportService :=
  if s.mClients.find? h.mName = none then
    { s with mClients := s.mClients.insert h.mName p, handlers := s.handlers.insert p h }
  else s

theorem WellFormed.newClient (hs : s.WellFormed) (hnew : s.handlers.find? p = none)
    (hlive : h.state = .live) : (s.newClient p h).WellFormed := by
  rw [ReportService.newClient]
  split
  · intro name' p' hp'
    change (s.mClients.insert h.mName p).find? name' = some p' at hp'
    change ∃ h', (s.handlers.insert p h).find? p' = some h' ∧ _
    rw [find?_insert] at hp'
    split at hp'
    · next heq =>
      obtain rfl := some_inj.mp hp'
      exact ⟨h, (find?_insert p).trans (if_pos rfl), hlive, heq.symm⟩
    · obtain ⟨h', hh', hprops⟩ := hs name' p' hp'
      have hne : p' ≠ p := by
        rintro rfl
        rw [hnew] at hh'
        cases hh'
      exact ⟨h', (find?_insert p').trans ((if_neg hne).trans hh'), hprops⟩
  · exact hs

/-- What a report to a client comes to: its message is delivered, or not, and it is erased if the
message could not be sent. -/
structure Reported (s s' : ReportService) (rc : Sends) (name : SocketName) (p : HandlerPtr)
    (h : ReportHandler) (msg : Option ClientMsg) : Prop where
  wellFormed : s'.WellFormed
  clients : ∀ name' p', s'.mClients.find? name' = some p' ↔
    s.mClients.find? name' = some p' ∧ ¬(name' = name ∧ ∃ m ∈ msg, rc name m = .failed)
  delivered : ∀ d, d ∈ s'.delivered ↔
    d ∈ s.delivered ∨ ∃ m ∈ msg, rc name m = .sent ∧ d = (name, m)
  configReqs : s'.mConfigReqs = s.mConfigReqs
  others : ∀ p', p' ≠ p → s'.handlers.find? p' = s.handlers.find? p'
  kept : (∀ m ∈ msg, rc name m ≠ .failed) →
    ∃ h', s'.handlers.find? p = some h' ∧ h'.mIpcSender = h.mIpcSender
  removed : (∃ m ∈ msg, rc name m = .failed) → s'.handler p = .error .removedHandler

theorem reported_none (hs : s.WellFormed) (hh : s.handlers.find? p = some h) :
    Reported s s rc name p h none where
  wellFormed := hs
  clients := by simp
  delivered := by simp
  configReqs := rfl
  others _ _ := rfl
  kept _ := ⟨h, hh, rfl⟩
  removed := by simp

theorem reported_sendMessage (hp : s.mClients.find? name = some p)
    (hsame : (s'.mClients, s'.mConfigReqs, s'.delivered) =
      (s.mClients, s.mConfigReqs, s.delivered)) (hs' : s'.WellFormed)
    (hothers : ∀ p', p' ≠ p → s'.handlers.find? p' = s.handlers.find? p')
    (hkept : ∃ h', s'.handlers.find? p = some h' ∧ h'.mIpcSender = h.mIpcSender) :
    Reported s (s'.sendMessage rc name msg) rc name p h (some msg) := by
  obtain ⟨hclients, hreqs, hdelivered⟩ : s'.mClients = s.mClients ∧
      s'.mConfigReqs = s.mConfigReqs ∧ s'.delivered = s.delivered := by simpa using hsame
  cases hrc : rc name msg with
  | notSerialized | sent =>
    simp only [sendMessage, hrc]
    exact ⟨hs', by simp [hclients, hrc], by simp [hdelivered, hrc], hreqs, hothers, fun _ ↦ hkept,
      by simp [hrc]⟩
  | failed =>
    simp only [sendMessage, hrc]
    have hp' : s'.mClients.find? name = some p := by rw [hclients, hp]
    refine ⟨hs'.deleteClientbyName hp', fun name' p' ↦ ?_, by simp [hdelivered, hrc], by simp [hreqs],
      fun p' hne ↦ ?_, fun hnot ↦ absurd hrc (hnot msg rfl), fun _ ↦ handler_deleteClientbyName hp'⟩
    · rw [find?_mClients_deleteClientbyName, hclients]
      by_cases hname : name' = name <;> simp [hname, hrc]
    · rw [handlers_deleteClientbyName hp' hne, hothers p' hne]

/-- A callback of the handler of a client does not fail. -/
theorem exists_report (hs : s.WellFormed) (hp : s.mClients.find? name = some p)
    (hh : s.handlers.find? p = some h) (rc : Sends) (r : ClientReport) :
    ∃ s', s.report rc r p = .ok s' ∧ Reported s s' rc name p h (r.msgTo h) := by
  obtain ⟨h', hfind, hlive, hname⟩ := hs name p hp
  rw [hh] at hfind
  obtain rfl := some_inj.mp hfind
  have hhandler : s.handler p = .ok h := by simp [handler, hh, hlive]
  cases hmsg : r.msgTo h with
  | none =>
    refine ⟨s, ?_, reported_none hs hh⟩
    rw [ClientReport.msgTo] at hmsg
    simp only [report, hhandler, hmsg]
  | some msg =>
    refine ⟨(s.setHandler p (r.update (rc h.mName msg) h)).sendMessage rc h.mName msg, ?_, ?_⟩
    · rw [ClientReport.msgTo] at hmsg
      simp only [report, hhandler, hmsg]
    · obtain ⟨hname', hstate, hsender⟩ := r.keeps (rc h.mName msg) h
      rw [hname] at hname' hstate hsender ⊢
      refine reported_sendMessage hp rfl
        (hs.setHandler hp (hstate.trans hlive) hname') (fun p' hne ↦ ?_) ⟨_, ?_, hsender⟩
      · exact (find?_insert p').trans (if_neg hne)
      · exact (find?_insert p).trans (if_pos rfl)

/-! ## The callbacks -/

/-- The callbacks of the service, and those of one client's handler. -/
inductive Callback
  | onGnssEnergyConsumedCb (walk : List (SocketName × HandlerPtr))
  | onGnssConfigCallback (sessionId : ℕ) (flags : GnssConfigFlags)
  | onControlResponseCallback (err : LocationError) (sessionId : ℕ)
  | onControlCollectiveResponseCallback (errs : List (LocationError × ℕ))
  | report (name : SocketName) (r : ClientReport)

section Callbacks

variable (s) (rc)

def run : Callback → Except PurgeError ReportService
  | .onGnssEnergyConsumedCb walk => s.onGnssEnergyConsumedCb rc walk
  | .onGnssConfigCallback sessionId flags => s.onGnssConfigCallback rc sessionId flags
  | .onControlResponseCallback err sessionId => s.onControlResponseCallback rc err sessionId
  | .onControlCollectiveResponseCallback errs => s.onControlCollectiveResponseCallback rc errs
  | .report name r =>
    match s.mClients.find? name with
    | none => .ok s
    | some p => s.report rc r p

/-- A walk comes by every client once. -/
def Possible : Callback → Prop
  | .onGnssEnergyConsumedCb walk => walk.Perm s.mClients.entries
  | _ => True

/-- The message is one that the callback has for the client, whose handler is `h`. -/
def Wants (name : SocketName) (h : ReportHandler) (msg : ClientMsg) : Callback → Prop
  | .onGnssEnergyConsumedCb _ => msg ∈ onGnssEnergyConsumedInfoAvailable.msgTo h
  | .onGnssConfigCallback sessionId flags => ∃ msgId, s.mConfigReqs.find? sessionId =
      some ⟨name, msgId⟩ ∧ (msg ∈ (onControlResponseCb .success msgId).msgTo h ∨
        msg ∈ (onGnssConfigCb msgId flags).msgTo h)
  | .onControlResponseCallback err sessionId => ∃ msgId, s.mConfigReqs.find? sessionId =
      some ⟨name, msgId⟩ ∧ msg ∈ (onControlResponseCb err msgId).msgTo h
  | .onControlCollectiveResponseCallback errs => ∃ err sessionId msgId, errs = [(err, sessionId)] ∧
      s.mConfigReqs.find? sessionId = some ⟨name, msgId⟩ ∧
        msg ∈ (onControlResponseCb err msgId).msgTo h
  | .report name' r => name' = name ∧ msg ∈ r.msgTo h

/-- A client is interested in a message that the callback has for it. -/
def Interested (c : Callback) (name : SocketName) (msg : ClientMsg) : Prop :=
  ∃ p h, s.mClients.find? name = some p ∧ s.handlers.find? p = some h ∧ s.Wants name h msg c

/-- Every interested client whose send succeeds got its message, nobody else got anything, and the
clients that are left are those none of whose sends failed. -/
structure Purged (c : Callback) (s' : ReportService) : Prop where
  delivered : ∀ d, d ∈ s'.delivered ↔
    d ∈ s.delivered ∨ s.Interested c d.1 d.2 ∧ rc d.1 d.2 = .sent
  clients : ∀ name p, s'.mClients.find? name = some p ↔
    s.mClients.find? name = some p ∧ ∀ msg, s.Interested c name msg → rc name msg ≠ .failed
  wellFormed : s'.WellFormed

/-- The callback uses no handler that was removed and no element that was erased, and does its
work. -/
def Safe (c : Callback) : Prop := ∃ s', s.run rc c = .ok s' ∧ Purged s rc c s'

/-- No send of the energy fails, and that of the response before a configuration does not, where
there is someone to send to. The other callbacks are safe in any case. -/
def Unbroken : Callback → Prop
  | .onGnssEnergyConsumedCb _ => ∀ name p h, s.mClients.find? name = some p →
      s.handlers.find? p = some h → h.mIpcSender = true → h.gnssEnergyConsumed = true →
        rc name .gnssEnergyConsumed ≠ .failed
  | .onGnssConfigCallback sessionId _ => ∀ name msgId p h,
      s.mConfigReqs.find? sessionId = some ⟨name, msgId⟩ → s.mClients.find? name = some p →
        s.handlers.find? p = some h → h.mIpcSender = true →
          rc name (.genericResp msgId .success) ≠ .failed
  | _ => True

end Callbacks

variable {c : Callback} {walk : List (SocketName × HandlerPtr)}

/-- A callback that sends nothing to anybody. -/
theorem purged_of_not_interested (hs : s.WellFormed)
    (hs' : s'.mClients = s.mClients ∧ s'.handlers = s.handlers ∧ s'.delivered = s.delivered)
    (hnone : ∀ name msg, ¬s.Interested c name msg) : Purged s rc c s' := by
  obtain ⟨hclients, hhandlers, hdelivered⟩ := hs'
  refine ⟨fun d ↦ ?_, fun name p ↦ ?_, fun name p hp ↦ ?_⟩
  · simp [hdelivered, hnone]
  · simp [hclients, hnone]
  · rw [hhandlers]
    exact hs name p (hclients ▸ hp)

/-- A callback that has messages for one client. -/
theorem purged_of_one (name : SocketName) (msgs : ClientMsg → Prop) (hs' : s'.WellFormed)
    (hclients : ∀ name' p', s'.mClients.find? name' = some p' ↔
      s.mClients.find? name' = some p' ∧ ¬(name' = name ∧ ∃ m, msgs m ∧ rc name m = .failed))
    (hdelivered : ∀ d, d ∈ s'.delivered ↔
      d ∈ s.delivered ∨ ∃ m, msgs m ∧ rc name m = .sent ∧ d = (name, m))
    (hinterested : ∀ name' m, s.Interested c name' m ↔ name' = name ∧ msgs m) :
    Purged s rc c s' := by
  refine ⟨fun d ↦ ?_, fun name' p' ↦ ?_, hs'⟩
  · rw [hdelivered, hinterested]
    refine or_congr_right ?_
    constructor
    · rintro ⟨m, hm, hrc, rfl⟩
      exact ⟨⟨rfl, hm⟩, hrc⟩
    · rintro ⟨⟨hname, hm⟩, hrc⟩
      exact ⟨d.2, hm, hname ▸ hrc, Prod.ext hname rfl⟩
  · rw [hclients]
    refine and_congr_right fun _ ↦ ?_
    simp only [hinterested, not_and, not_exists]
    constructor
    · rintro hnot m ⟨rfl, hm⟩
      exact hnot rfl m hm
    · rintro hnot rfl m hm
      exact hnot m ⟨rfl, hm⟩

theorem Reported.purged {msg : Option ClientMsg} (hreported : Reported s s' rc name p h msg)
    (hinterested : ∀ name' m, s.Interested c name' m ↔ name' = name ∧ m ∈ msg) :
    Purged s rc c s' :=
  purged_of_one name (· ∈ msg) hreported.wellFormed hreported.clients hreported.delivered hinterested

/-- The requests for configurations do not matter for what a callback was to do. -/
theorem Purged.erase (hpurged : Purged s rc c s') (sessionId : ℕ) :
    Purged s rc c { s' with mConfigReqs := s'.mConfigReqs.erase sessionId } :=
  ⟨hpurged.delivered, hpurged.clients, hpurged.wellFormed⟩

theorem interested_iff (hp : s.mClients.find? name = some p)
    (hh : s.handlers.find? p = some h) (hother : ∀ name' h' m, s.Wants name' h' m c → name' = name)
    (name' : SocketName) (m : ClientMsg) :
    s.Interested c name' m ↔ name' = name ∧ s.Wants name h m c := by
  constructor
  · rintro ⟨p', h', hp', hh', hwants⟩
    obtain rfl := hother name' h' m hwants
    rw [hp] at hp'
    obtain rfl := some_inj.mp hp'
    rw [hh] at hh'
    obtain rfl := some_inj.mp hh'
    exact ⟨rfl, hwants⟩
  · rintro ⟨rfl, hwants⟩
    exact ⟨p, h, hp, hh, hwants⟩

theorem safe_report (hs : s.WellFormed) (rc : Sends) (name : SocketName) (r : ClientReport) :
    s.Safe rc (.report name r) := by
  cases hp : s.mClients.find? name with
  | none =>
    refine ⟨s, by simp only [run, hp], purged_of_not_interested hs ⟨rfl, rfl, rfl⟩ ?_⟩
    rintro name' msg ⟨p', h', hp', -, rfl, -⟩
    rw [hp] at hp'
    cases hp'
  | some p =>
    obtain ⟨h, hh, -⟩ := hs name p hp
    obtain ⟨s', hreport, hreported⟩ := exists_report hs hp hh rc r
    refine ⟨s', by simp only [run, hp, hreport], hreported.purged fun name' m ↦ ?_⟩
    rw [interested_iff (c := .report name r) hp hh fun name' h' m hwants ↦ hwants.1.symm]
    simp only [Wants, true_and]

theorem safe_onControlResponseCallback (hs : s.WellFormed) (rc : Sends) (err : LocationError)
    (sessionId : ℕ) : s.Safe rc (.onControlResponseCallback err sessionId) := by
  cases hreq : s.mConfigReqs.find? sessionId with
  | none =>
    refine ⟨s, by simp only [run, onControlResponseCallback, hreq],
      purged_of_not_interested hs ⟨rfl, rfl, rfl⟩ ?_⟩
    rintro name' msg ⟨p', h', -, -, msgId, hreq', -⟩
    rw [hreq] at hreq'
    cases hreq'
  | some configReqData =>
    obtain ⟨name, msgId⟩ := configReqData
    cases hp : s.mClients.find? name with
    | none =>
      refine ⟨{ s with mConfigReqs := s.mConfigReqs.erase sessionId }, ?_,
        purged_of_not_interested hs ⟨rfl, rfl, rfl⟩ ?_⟩
      · simp only [run, onControlResponseCallback, hreq, hp]
        rfl
      · rintro name' msg ⟨p', h', hp', -, msgId', hreq', -⟩
        rw [hreq] at hreq'
        obtain ⟨rfl, rfl⟩ := ConfigReqClientData.mk.inj (some_inj.mp hreq')
        rw [hp] at hp'
        cases hp'
    | some p =>
      obtain ⟨h, hh, -⟩ := hs name p hp
      obtain ⟨s', hreport, hreported⟩ := exists_report hs hp hh rc (onControlResponseCb err msgId)
      refine ⟨{ s' with mConfigReqs := s'.mConfigReqs.erase sessionId }, ?_,
        (hreported.purged fun name' m ↦ ?_).erase sessionId⟩
      · simp only [run, onControlResponseCallback, hreq, hp, hreport]
        rfl
      · rw [interested_iff hp hh]
        · simp only [Wants, hreq, Option.some.injEq, ConfigReqClientData.mk.injEq, true_and,
            exists_eq_left']
        · rintro name' h' m ⟨msgId', hreq', -⟩
          rw [hreq] at hreq'
          exact (ConfigReqClientData.mk.inj (some_inj.mp hreq')).1.symm

theorem safe_onControlCollectiveResponseCallback (hs : s.WellFormed) (rc : Sends)
    (errs : List (LocationError × ℕ)) :
    s.Safe rc (.onControlCollectiveResponseCallback errs) := by
  by_cases hone : ∃ err sessionId, errs = [(err, sessionId)]
  · obtain ⟨err, sessionId, rfl⟩ := hone
    obtain ⟨s', hrun, hpurged⟩ := safe_onControlResponseCallback hs rc err sessionId
    have hinterested : ∀ name msg,
        s.Interested (.onControlCollectiveResponseCallback [(err, sessionId)]) name msg ↔
          s.Interested (.onControlResponseCallback err sessionId) name msg := by
      intro name msg
      simp [Interested, Wants]
    refine ⟨s', hrun, fun d ↦ ?_, fun name p ↦ ?_, hpurged.wellFormed⟩
    · rw [hinterested, hpurged.delivered]
    · rw [hpurged.clients]
      simp only [hinterested]
  · refine ⟨s, ?_, purged_of_not_interested hs ⟨rfl, rfl, rfl⟩ ?_⟩
    · simp only [run, onControlCollectiveResponseCallback]
      split
      · exact absurd ⟨_, _, rfl⟩ hone
      · rfl
    · rintro name msg ⟨p, h, -, -, err, sessionId, msgId, rfl, -⟩
      exact hone ⟨err, sessionId, rfl⟩

/-- The response before a configuration decides whether the handler may be used again. -/
theorem safe_onGnssConfigCallback_iff (hs : s.WellFormed) (rc : Sends) (sessionId : ℕ)
    (flags : GnssConfigFlags) :
    s.Safe rc (.onGnssConfigCallback sessionId flags) ↔
      s.Unbroken rc (.onGnssConfigCallback sessionId flags) := by
  cases hreq : s.mConfigReqs.find? sessionId with
  | none =>
    refine iff_of_true ⟨s, by simp only [run, onGnssConfigCallback, hreq],
      purged_of_not_interested hs ⟨rfl, rfl, rfl⟩ ?_⟩ ?_
    · rintro name' msg ⟨p', h', -, -, msgId, hreq', -⟩
      rw [hreq] at hreq'
      cases hreq'
    · intro name' msgId p' h' hreq'
      rw [hreq] at hreq'
      cases hreq'
  | some configReqData =>
    obtain ⟨name, msgId⟩ := configReqData
    cases hp : s.mClients.find? name with
    | none =>
      refine iff_of_true ⟨{ s with mConfigReqs := s.mConfigReqs.erase sessionId }, ?_,
        purged_of_not_interested hs ⟨rfl, rfl, rfl⟩ ?_⟩ ?_
      · simp only [run, onGnssConfigCallback, hreq, hp]
        rfl
      · rintro name' msg ⟨p', h', hp', -, msgId', hreq', -⟩
        rw [hreq] at hreq'
        obtain ⟨rfl, rfl⟩ := ConfigReqClientData.mk.inj (some_inj.mp hreq')
        rw [hp] at hp'
        cases hp'
      · intro name' msgId' p' h' hreq' hp'
        rw [hreq] at hreq'
        obtain ⟨rfl, rfl⟩ := ConfigReqClientData.mk.inj (some_inj.mp hreq')
        rw [hp] at hp'
        cases hp'
    | some p =>
      obtain ⟨h, hh, -⟩ := hs name p hp
      have hunbroken : s.Unbroken rc (.onGnssConfigCallback sessionId flags) ↔
          ∀ m ∈ (onControlResponseCb .success msgId).msgTo h, rc name m ≠ .failed := by
        simp only [Unbroken, hreq, Option.some.injEq, ConfigReqClientData.mk.injEq]
        constructor
        · intro hall m hm
          simp only [ClientReport.msgTo, onControlResponseCb] at hm
          split at hm
          · next hsender =>
            obtain rfl := some_inj.mp hm
            exact hall name msgId p h ⟨rfl, rfl⟩ hp hh hsender
          · cases hm
        · rintro hall name' msgId' p' h' ⟨rfl, rfl⟩ hp' hh' hsender
          rw [hp] at hp'
          obtain rfl := some_inj.mp hp'
          rw [hh] at hh'
          obtain rfl := some_inj.mp hh'
          exact hall _ (by simp [ClientReport.msgTo, onControlResponseCb, hsender])
      rw [hunbroken]
      obtain ⟨s₁, hreport, hreported⟩ :=
        exists_report hs hp hh rc (onControlResponseCb .success msgId)
      constructor
      · -- a client that was purged is used again
        rintro ⟨s', hrun, -⟩ m hm hrc
        have hgone := hreported.removed ⟨m, hm, hrc⟩
        have hsecond : s₁.report rc (onGnssConfigCb msgId flags) p = .error .removedHandler := by
          simp only [report, hgone]
        simp only [run, onGnssConfigCallback, hreq, hp, hreport] at hrun
        change (s₁.report rc (onGnssConfigCb msgId flags) p >>= _) = _ at hrun
        rw [hsecond] at hrun
        cases hrun
      · intro hall
        have hclients₁ : ∀ name' p', s₁.mClients.find? name' = some p' ↔
            s.mClients.find? name' = some p' := by
          intro name' p'
          rw [hreported.clients, and_iff_left]
          rintro ⟨-, m, hm, hrc⟩
          exact hall m hm hrc
        obtain ⟨h₁, hh₁, hsender⟩ := hreported.kept hall
        obtain ⟨s₂, hreport₂, hreported₂⟩ := exists_report hreported.wellFormed
          ((hclients₁ name p).mpr hp) hh₁ rc (onGnssConfigCb msgId flags)
        have hmsg : (onGnssConfigCb msgId flags).msgTo h₁ = (onGnssConfigCb msgId flags).msgTo h := by
          simp only [ClientReport.msgTo, onGnssConfigCb, hsender]
        rw [hmsg] at hreported₂
        refine ⟨{ s₂ with mConfigReqs := s₂.mConfigReqs.erase sessionId }, ?_,
          (purged_of_one name (fun m ↦ m ∈ (onControlResponseCb .success msgId).msgTo h ∨
              m ∈ (onGnssConfigCb msgId flags).msgTo h) hreported₂.wellFormed
            (fun name' p' ↦ ?_) (fun d ↦ ?_) fun name' m ↦ ?_).erase sessionId⟩
        · simp only [run, onGnssConfigCallback, hreq, hp, hreport]
          change (s₁.report rc (onGnssConfigCb msgId flags) p >>= _) = _
          rw [hreport₂]
          rfl
        · rw [hreported₂.clients, hclients₁]
          refine and_congr_right fun _ ↦ not_congr (and_congr_right fun _ ↦ ⟨?_, ?_⟩)
          · rintro ⟨m, hm, hrc⟩
            exact ⟨m, Or.inr hm, hrc⟩
          · rintro ⟨m, hm | hm, hrc⟩
            · exact absurd hrc (hall m hm)
            · exact ⟨m, hm, hrc⟩
        · rw [hreported₂.delivered, hreported.delivered, or_assoc]
          refine or_congr_right ?_
          rw [← exists_or]
          refine exists_congr fun m ↦ ?_
          rw [← or_and_right]
        · rw [interested_iff hp hh]
          · simp only [Wants, hreq, Option.some.injEq, ConfigReqClientData.mk.injEq, true_and,
              exists_eq_left']
          · rintro name' h' m ⟨msgId', hreq', -⟩
            rw [hreq] at hreq'
            exact (ConfigReqClientData.mk.inj (some_inj.mp hreq')).1.symm

/-! ### The walk -/

/-- The element has a message to be sent, and the send has the outcome. -/
def EnergyOutcome (s : ReportService) (rc : Sends) (outcome : SendOutcome)
    (each : SocketName × HandlerPtr) : Prop :=
  ∃ h, s.handlers.find? each.2 = some h ∧
    ∃ m ∈ onGnssEnergyConsumedInfoAvailable.msgTo h, rc each.1 m = outcome

theorem mem_energy_msgTo : msg ∈ onGnssEnergyConsumedInfoAvailable.msgTo h ↔
    msg = .gnssEnergyConsumed ∧ h.mIpcSender = true ∧ h.gnssEnergyConsumed = true := by
  simp only [ClientReport.msgTo, onGnssEnergyConsumedInfoAvailable]
  cases h.mIpcSender <;> cases h.gnssEnergyConsumed <;> simp [eq_comm]

variable {each : SocketName × HandlerPtr}

/-- What one element of a walk leaves for the others. -/
theorem energyWalk_cons (rc : Sends) {rest : List (SocketName × HandlerPtr)}
    (hs : s.WellFormed) (hwalk : ∀ e ∈ each :: rest, s.mClients.find? e.1 = some e.2)
    (hnodup : ((each :: rest).map Prod.fst).Nodup) :
    (s.EnergyOutcome rc .failed each ∧ energyWalk rc (each :: rest) s = .error .erasedElement) ∨
      ¬s.EnergyOutcome rc .failed each ∧ ∃ s', energyWalk rc (each :: rest) s =
        energyWalk rc rest s' ∧ s'.WellFormed ∧
        (∀ name p, s'.mClients.find? name = some p ↔ s.mClients.find? name = some p) ∧
        (∀ e ∈ rest, s'.handlers.find? e.2 = s.handlers.find? e.2) ∧
        ∀ d, d ∈ s'.delivered ↔ d ∈ s.delivered ∨ s.EnergyOutcome rc .sent each ∧
          d = (each.1, .gnssEnergyConsumed) := by
  have hp := hwalk each mem_cons_self
  obtain ⟨h, hh, -⟩ := hs each.1 each.2 hp
  obtain ⟨s', hreport, hreported⟩ := exists_report hs hp hh rc onGnssEnergyConsumedInfoAvailable
  have houtcome : ∀ outcome, s.EnergyOutcome rc outcome each ↔
      ∃ m ∈ onGnssEnergyConsumedInfoAvailable.msgTo h, rc each.1 m = outcome := by
    intro outcome
    rw [EnergyOutcome, hh]
    simp only [Option.some.injEq, exists_eq_left']
  have hunfold : energyWalk rc (each :: rest) s =
      if s'.mClients.find? each.1 = none then .error .erasedElement
      else energyWalk rc rest s' := by
    simp only [energyWalk, hreport]
    rfl
  by_cases hfailed : s.EnergyOutcome rc .failed each
  · refine Or.inl ⟨hfailed, ?_⟩
    rw [hunfold, if_pos]
    refine Option.eq_none_iff_forall_ne_some.mpr fun p hfind ↦ ?_
    exact ((hreported.clients each.1 p).mp hfind).2 ⟨rfl, (houtcome .failed).mp hfailed⟩
  · have hclients : ∀ name p, s'.mClients.find? name = some p ↔
        s.mClients.find? name = some p := by
      intro name p
      rw [hreported.clients, and_iff_left]
      rintro ⟨rfl, hm⟩
      exact hfailed ((houtcome .failed).mpr hm)
    refine Or.inr ⟨hfailed, s', ?_, hreported.wellFormed, hclients, fun e he ↦ ?_, fun d ↦ ?_⟩
    · rw [hunfold, if_neg]
      rw [(hclients each.1 each.2).mpr hp]
      simp
    · refine hreported.others e.2 (hs.ne_ptr hp (hwalk e (mem_cons_of_mem _ he)) ?_)
      exact fun heq ↦ (nodup_cons.mp hnodup).1 (heq ▸ mem_map_of_mem he)
    · rw [hreported.delivered, houtcome]
      refine or_congr_right ⟨?_, ?_⟩
      · rintro ⟨m, hm, hrc, rfl⟩
        exact ⟨⟨m, hm, hrc⟩, by rw [(mem_energy_msgTo.mp hm).1]⟩
      · rintro ⟨⟨m, hm, hrc⟩, rfl⟩
        exact ⟨m, hm, hrc, by rw [(mem_energy_msgTo.mp hm).1]⟩

/-- A walk on which no send fails comes to its end. -/
theorem exists_energyWalk (hs : s.WellFormed)
    (hwalk : ∀ e ∈ walk, s.mClients.find? e.1 = some e.2) (hnodup : (walk.map Prod.fst).Nodup)
    (hall : ∀ e ∈ walk, ¬s.EnergyOutcome rc .failed e) :
    ∃ s', energyWalk rc walk s = .ok s' ∧ s'.WellFormed ∧
      (∀ name p, s'.mClients.find? name = some p ↔ s.mClients.find? name = some p) ∧
      ∀ d, d ∈ s'.delivered ↔ d ∈ s.delivered ∨
        ∃ e ∈ walk, s.EnergyOutcome rc .sent e ∧ d = (e.1, .gnssEnergyConsumed) := by
  induction walk generalizing s with
  | nil => exact ⟨s, rfl, hs, fun _ _ ↦ Iff.rfl, by simp⟩
  | cons each rest ih =>
    rcases energyWalk_cons rc hs hwalk hnodup with
      ⟨hfailed, -⟩ | ⟨-, s₁, hrun, hs₁, hclients₁, hhandlers, hdelivered₁⟩
    · exact absurd hfailed (hall each mem_cons_self)
    · have hsame : ∀ outcome, ∀ e ∈ rest,
          (s₁.EnergyOutcome rc outcome e ↔ s.EnergyOutcome rc outcome e) := by
        intro outcome e he
        rw [EnergyOutcome, EnergyOutcome, hhandlers e he]
      obtain ⟨s', hrest, hs', hclients, hdelivered⟩ := ih hs₁
        (fun e he ↦ (hclients₁ e.1 e.2).mpr (hwalk e (mem_cons_of_mem _ he)))
        (nodup_cons.mp hnodup).2
        (fun e he hfailed ↦ hall e (mem_cons_of_mem _ he) ((hsame .failed e he).mp hfailed))
      refine ⟨s', hrun.trans hrest, hs', fun name p ↦ (hclients name p).trans (hclients₁ name p),
        fun d ↦ ?_⟩
      rw [hdelivered, hdelivered₁, or_assoc]
      refine or_congr_right ?_
      constructor
      · rintro (⟨hsent, rfl⟩ | ⟨e, he, hsent, rfl⟩)
        · exact ⟨each, mem_cons_self, hsent, rfl⟩
        · exact ⟨e, mem_cons_of_mem _ he, (hsame .sent e he).mp hsent, rfl⟩
      · rintro ⟨e, he, hsent, rfl⟩
        rcases mem_cons.mp he with rfl | he
        · exact Or.inl ⟨hsent, rfl⟩
        · exact Or.inr ⟨e, he, (hsame .sent e he).mpr hsent, rfl⟩

/-- A walk that comes to a send that fails does not go on. -/
theorem energyWalk_of_failed (hs : s.WellFormed)
    (hwalk : ∀ e ∈ walk, s.mClients.find? e.1 = some e.2) (hnodup : (walk.map Prod.fst).Nodup)
    {e : SocketName × HandlerPtr} (he : e ∈ walk) (hfailed : s.EnergyOutcome rc .failed e) :
    energyWalk rc walk s = .error .erasedElement := by
  induction walk generalizing s with
  | nil => cases he
  | cons each rest ih =>
    rcases energyWalk_cons rc hs hwalk hnodup with
      ⟨-, herror⟩ | ⟨hnot, s₁, hrun, hs₁, hclients₁, hhandlers, -⟩
    · exact herror
    · rcases mem_cons.mp he with rfl | he
      · exact absurd hfailed hnot
      · rw [hrun]
        refine ih hs₁
          (fun e he ↦ (hclients₁ e.1 e.2).mpr (hwalk e (mem_cons_of_mem _ he)))
          (nodup_cons.mp hnodup).2 he ?_
        rwa [EnergyOutcome, hhandlers e he]

theorem energyOutcome_iff {outcome : SendOutcome} :
    s.EnergyOutcome rc outcome each ↔ ∃ h, s.handlers.find? each.2 = some h ∧
      h.mIpcSender = true ∧ h.gnssEnergyConsumed = true ∧
        rc each.1 .gnssEnergyConsumed = outcome := by
  refine exists_congr fun h ↦ and_congr_right fun _ ↦ ?_
  simp only [mem_energy_msgTo, and_assoc, exists_eq_left]

theorem safe_onGnssEnergyConsumedCb_iff (hs : s.WellFormed) (rc : Sends) (hwalk : walk.Perm s.mClients.entries) :
    s.Safe rc (.onGnssEnergyConsumedCb walk) ↔ s.Unbroken rc (.onGnssEnergyConsumedCb walk) := by
  have hfind : ∀ e ∈ walk, s.mClients.find? e.1 = some e.2 := fun e he ↦
    find?_eq_some_iff.mpr (hwalk.mem_iff.mp he)
  have hmem : ∀ name p, s.mClients.find? name = some p → (name, p) ∈ walk := fun name p hp ↦
    hwalk.mem_iff.mpr (find?_eq_some_iff.mp hp)
  have hnodup : (walk.map Prod.fst).Nodup :=
    (hwalk.map Prod.fst).nodup_iff.mpr OrderedMap.nodup_keys
  have hinterested : ∀ name msg, s.Interested (.onGnssEnergyConsumedCb walk) name msg ↔
      msg = .gnssEnergyConsumed ∧ ∃ p h, s.mClients.find? name = some p ∧
        s.handlers.find? p = some h ∧ h.mIpcSender = true ∧ h.gnssEnergyConsumed = true := by
    intro name msg
    simp only [Interested, Wants, mem_energy_msgTo]
    constructor
    · rintro ⟨p, h, hp, hh, rfl, hh'⟩
      exact ⟨rfl, p, h, hp, hh, hh'⟩
    · rintro ⟨rfl, p, h, hp, hh, hh'⟩
      exact ⟨p, h, hp, hh, rfl, hh'⟩
  constructor
  · rintro ⟨s', hrun, -⟩ name p h hp hh hsender henergy hrc
    have hfailed : s.EnergyOutcome rc .failed (name, p) :=
      energyOutcome_iff.mpr ⟨h, hh, hsender, henergy, hrc⟩
    have herror := energyWalk_of_failed hs hfind hnodup (hmem name p hp) hfailed
    rw [run, onGnssEnergyConsumedCb, herror] at hrun
    cases hrun
  · intro hunbroken
    have hall : ∀ e ∈ walk, ¬s.EnergyOutcome rc .failed e := by
      intro e he hfailed
      obtain ⟨h, hh, hsender, henergy, hrc⟩ := energyOutcome_iff.mp hfailed
      exact hunbroken e.1 e.2 h (hfind e he) hh hsender henergy hrc
    obtain ⟨s', hrun, hs', hclients, hdelivered⟩ := exists_energyWalk hs hfind hnodup hall
    refine ⟨s', hrun, fun d ↦ ?_, fun name p ↦ ?_, hs'⟩
    · rw [hdelivered, hinterested]
      refine or_congr_right ⟨?_, ?_⟩
      · rintro ⟨e, he, hsent, rfl⟩
        obtain ⟨h, hh, hsender, henergy, hrc⟩ := energyOutcome_iff.mp hsent
        exact ⟨⟨rfl, e.2, h, hfind e he, hh, hsender, henergy⟩, hrc⟩
      · rintro ⟨⟨hmsg, p, h, hp, hh, hsender, henergy⟩, hrc⟩
        refine ⟨(d.1, p), hmem d.1 p hp, energyOutcome_iff.mpr ⟨h, hh, hsender, henergy, ?_⟩,
          Prod.ext rfl hmsg⟩
        rw [← hmsg]
        exact hrc
    · rw [hclients]
      refine (and_iff_left fun msg hmsg ↦ ?_).symm
      obtain ⟨rfl, p', h, hp, hh, hsender, henergy⟩ := (hinterested name msg).mp hmsg
      exact hunbroken name p' h hp hh hsender henergy

/-! ### All callbacks -/

/-- The callbacks are safe except for a send of the energy that fails and a response before a
configuration that does. -/
theorem safe_iff_unbroken (hs : s.WellFormed) (rc : Sends) {c : Callback} (hc : s.Possible c) :
    s.Safe rc c ↔ s.Unbroken rc c := by
  cases c with
  | onGnssEnergyConsumedCb walk => exact safe_onGnssEnergyConsumedCb_iff hs rc hc
  | onGnssConfigCallback sessionId flags => exact safe_onGnssConfigCallback_iff hs rc sessionId flags
  | onControlResponseCallback err sessionId =>
    exact iff_of_true (safe_onControlResponseCallback hs rc err sessionId) trivial
  | onControlCollectiveResponseCallback errs =>
    exact iff_of_true (safe_onControlCollectiveResponseCallback hs rc errs) trivial
  | report name r => exact iff_of_true (safe_report hs rc name r) trivial

/-- Two integration clients, the first of which waits for the energy and for a configuration. -/
def twoClients : ReportService :=
  ((init (OrderedMap.empty.insert 5 ⟨1, .getMinGpsWeek⟩)).newClient 10
    ⟨1, .live, false, true, ∅, 0, true, .noAutoReport, ∅⟩).newClient 11
    ⟨2, .live, false, true, ∅, 0, true, .noAutoReport, ∅⟩

theorem wellFormed_twoClients : twoClients.WellFormed :=
  ((wellFormed_init _).newClient rfl rfl).newClient rfl rfl

/-- The configuration of the first client may fail to be sent, the response before it not. -/
theorem safe_twoClients :
    twoClients.Safe (fun _ msg ↦ if msg = .configResp .getMinGpsWeek then .failed else .sent)
      (.onGnssConfigCallback 5 ⟨false, true, false, false⟩) := by
  have hpossible :
      twoClients.Possible (.onGnssConfigCallback 5 ⟨false, true, false, false⟩) := trivial
  refine (safe_iff_unbroken wellFormed_twoClients _ hpossible).mpr ?_
  intro name msgId p h _ _ _ _
  simp

/-- The client that waits for the energy cannot be reached, and the walk goes on from its element. -/
theorem not_safe : ¬∀ (s : ReportService) (rc : Sends) (c : Callback), s.WellFormed → s.Possible c →
    s.Safe rc c := by
  intro hall
  obtain ⟨s', hrun, -⟩ := hall twoClients (fun name _ ↦ if name = 1 then .failed else .sent)
    (.onGnssEnergyConsumedCb [(1, 10), (2, 11)]) wellFormed_twoClients (.refl _)
  have herror : twoClients.run (fun name _ ↦ if name = 1 then .failed else .sent)
      (.onGnssEnergyConsumedCb [(1, 10), (2, 11)]) = .error .erasedElement := rfl
  rw [herror] at hrun
  cases hrun

end ReportService

end MataDevice.HalDaemon
